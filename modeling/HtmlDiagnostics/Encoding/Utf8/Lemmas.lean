import HtmlDiagnostics.Encoding.Utf8

/-! # Reading UTF-8 back

* **`decode_encode`** — a text without surrogates can be read back from its bytes.
* **`encode_of_decode`** — bytes that can be decoded are the bytes of the text they give, so each
  text has one form.
* **`isSurrogate_of_decode`** — no surrogate comes out of bytes. -/

namespace HtmlDiagnostics.Utf8

/-- A number below 256 is the value of its byte. -/
theorem toNat_ofNat_of_lt {n : Nat} (h : n < 256) : (UInt8.ofNat n).toNat = n := by
  rw [UInt8.toNat_ofNat']
  omega

/-- Decoding reads the bytes of a code point back, whatever follows them. -/
theorem decodeFrom_utf8_append (c : CodePoint) (hc : c.isSurrogate = false) (position : Nat)
    (rest : List UInt8) :
    decodeFrom position (c.utf8 ++ rest)
      = (decodeFrom (position + c.utf8.length) rest).map (c :: ·) := by
  obtain ⟨n, hn⟩ := c
  simp only [CodePoint.isSurrogate, Bool.and_eq_false_iff, decide_eq_false_iff_not] at hc
  simp only [CodePoint.utf8, bytesOf]
  by_cases h₁ : n < 0x80
  · have h : (UInt8.ofNat n).toNat = n := toNat_ofNat_of_lt (by omega)
    rw [if_pos h₁, List.cons_append, List.nil_append, decodeFrom, if_pos (by omega)]
    congr 1
    funext t
    exact congrArg (· :: t) (CodePoint.ext h)
  rw [if_neg h₁]
  by_cases h₂ : n < 0x800
  · have ha : (UInt8.ofNat (0xC0 + n / 0x40)).toNat = 0xC0 + n / 0x40 :=
      toNat_ofNat_of_lt (by omega)
    have hb : (UInt8.ofNat (0x80 + n % 0x40)).toNat = 0x80 + n % 0x40 :=
      toNat_ofNat_of_lt (by omega)
    have hsecond : isSecond (UInt8.ofNat (0xC0 + n / 0x40)) (UInt8.ofNat (0x80 + n % 0x40)) := by
      simp only [isSecond, isContinuation, ha, hb, Bool.and_eq_true, Bool.or_eq_true, bne_iff_ne,
        decide_eq_true_eq]
      omega
    rw [if_pos h₂, List.cons_append, List.cons_append, List.nil_append, decodeFrom,
      if_neg (by omega), dif_neg (by omega)]
    simp only
    rw [dif_pos hsecond, if_pos (by omega)]
    congr 1
    funext t
    refine congrArg (· :: t) (CodePoint.ext ?_)
    simp only [point₂, payload, ha, hb]
    omega
  rw [if_neg h₂]
  by_cases h₃ : n < 0x10000
  · have ha : (UInt8.ofNat (0xE0 + n / 0x1000)).toNat = 0xE0 + n / 0x1000 :=
      toNat_ofNat_of_lt (by omega)
    have hb : (UInt8.ofNat (0x80 + n / 0x40 % 0x40)).toNat = 0x80 + n / 0x40 % 0x40 :=
      toNat_ofNat_of_lt (by omega)
    have hd : (UInt8.ofNat (0x80 + n % 0x40)).toNat = 0x80 + n % 0x40 :=
      toNat_ofNat_of_lt (by omega)
    have hsecond :
        isSecond (UInt8.ofNat (0xE0 + n / 0x1000)) (UInt8.ofNat (0x80 + n / 0x40 % 0x40)) := by
      simp only [isSecond, isContinuation, ha, hb, Bool.and_eq_true, Bool.or_eq_true, bne_iff_ne,
        decide_eq_true_eq]
      omega
    have hcont : isContinuation (UInt8.ofNat (0x80 + n % 0x40)) := by
      simp only [isContinuation, hd, Bool.and_eq_true, decide_eq_true_eq]
      omega
    rw [if_pos h₃, List.cons_append, List.cons_append, List.cons_append, List.nil_append,
      decodeFrom, if_neg (by omega), dif_neg (by omega)]
    simp only
    rw [dif_pos hsecond, if_neg (by omega)]
    rw [if_pos hcont, dif_pos (by omega)]
    congr 1
    funext t
    refine congrArg (· :: t) (CodePoint.ext ?_)
    simp only [point₃, payload, ha, hb, hd]
    omega
  · have ha : (UInt8.ofNat (0xF0 + n / 0x40000)).toNat = 0xF0 + n / 0x40000 :=
      toNat_ofNat_of_lt (by omega)
    have hb : (UInt8.ofNat (0x80 + n / 0x1000 % 0x40)).toNat = 0x80 + n / 0x1000 % 0x40 :=
      toNat_ofNat_of_lt (by omega)
    have hd : (UInt8.ofNat (0x80 + n / 0x40 % 0x40)).toNat = 0x80 + n / 0x40 % 0x40 :=
      toNat_ofNat_of_lt (by omega)
    have he : (UInt8.ofNat (0x80 + n % 0x40)).toNat = 0x80 + n % 0x40 :=
      toNat_ofNat_of_lt (by omega)
    have hsecond :
        isSecond (UInt8.ofNat (0xF0 + n / 0x40000)) (UInt8.ofNat (0x80 + n / 0x1000 % 0x40)) := by
      simp only [isSecond, isContinuation, ha, hb, Bool.and_eq_true, Bool.or_eq_true, bne_iff_ne,
        decide_eq_true_eq]
      omega
    have hthird : isContinuation (UInt8.ofNat (0x80 + n / 0x40 % 0x40)) := by
      simp only [isContinuation, hd, Bool.and_eq_true, decide_eq_true_eq]
      omega
    have hfourth : isContinuation (UInt8.ofNat (0x80 + n % 0x40)) := by
      simp only [isContinuation, he, Bool.and_eq_true, decide_eq_true_eq]
      omega
    rw [if_neg h₃, List.cons_append, List.cons_append, List.cons_append, List.cons_append,
      List.nil_append, decodeFrom, if_neg (by omega), dif_neg (by omega)]
    simp only
    rw [dif_pos hsecond, if_neg (by omega)]
    rw [if_pos hthird, dif_neg (by omega)]
    rw [if_pos hfourth]
    congr 1
    funext t
    refine congrArg (· :: t) (CodePoint.ext ?_)
    simp only [point₄, payload, ha, hb, hd, he]
    omega

/-- A text without surrogates can be read back from its bytes. -/
theorem decode_encode {t : Text} (h : ∀ c ∈ t, c.isSurrogate = false) :
    decode (encode t) = .ok t := by
  suffices ∀ position, decodeFrom position (encode t) = .ok t from this 0
  induction t with
  | nil => intro position; rfl
  | cons c rest ih =>
    intro position
    rw [encode, List.flatMap_cons, decodeFrom_utf8_append c (h c (by simp)), ← encode,
      ih fun d hd => h d (by simp [hd])]
    rfl

/-- The byte of a value is the byte with that value. -/
theorem ofNat_toNat_of_eq {b : UInt8} {n : Nat} (h : n = b.toNat) : UInt8.ofNat n = b := by
  rw [h, UInt8.ofNat_toNat]

/-- A byte that carries a code point is all of its bytes. -/
theorem utf8_point₁ {a : UInt8} (ha : a.toNat < 0x80) : (point₁ a).utf8 = [a] := by
  have hval : (point₁ a).val = a.toNat := rfl
  rw [CodePoint.utf8, hval, bytesOf, if_pos ha, UInt8.ofNat_toNat]

/-- Two bytes that carry a code point are its bytes. -/
theorem utf8_point₂ {a b : UInt8} (ha : ¬(a.toNat < 0xC2 ∨ 0xF4 < a.toNat)) (h : a.toNat < 0xE0)
    (hb : isSecond a b) : (point₂ a b).utf8 = [a, b] := by
  simp only [isSecond, isContinuation, Bool.and_eq_true, Bool.or_eq_true, bne_iff_ne,
    decide_eq_true_eq] at hb
  have hval : (point₂ a b).val = a.toNat % 0x20 * 0x40 + b.toNat % 0x40 := rfl
  rw [CodePoint.utf8, hval, bytesOf, if_neg (by omega), if_pos (by omega),
    ofNat_toNat_of_eq (b := a) (by omega), ofNat_toNat_of_eq (b := b) (by omega)]

/-- Three bytes that carry a code point are its bytes. -/
theorem utf8_point₃ {a b c : UInt8} (h : ¬a.toNat < 0xE0) (h' : a.toNat < 0xF0)
    (hb : isSecond a b) (hc : isContinuation c) : (point₃ a b c).utf8 = [a, b, c] := by
  simp only [isSecond, isContinuation, Bool.and_eq_true, Bool.or_eq_true, bne_iff_ne,
    decide_eq_true_eq] at hb hc
  have hval : (point₃ a b c).val
      = a.toNat % 0x10 * 0x1000 + b.toNat % 0x40 * 0x40 + c.toNat % 0x40 := rfl
  rw [CodePoint.utf8, hval, bytesOf, if_neg (by omega), if_neg (by omega), if_pos (by omega),
    ofNat_toNat_of_eq (b := a) (by omega), ofNat_toNat_of_eq (b := b) (by omega),
    ofNat_toNat_of_eq (b := c) (by omega)]

/-- Four bytes that carry a code point are its bytes. -/
theorem utf8_point₄ {a b c d : UInt8} (ha : ¬(a.toNat < 0xC2 ∨ 0xF4 < a.toNat))
    (h : ¬a.toNat < 0xF0) (hb : isSecond a b) (hc : isContinuation c) (hd : isContinuation d)
    (hlt : a.toNat % 8 * 0x40 + payload b < 0x110) :
    (point₄ a b c d hlt).utf8 = [a, b, c, d] := by
  simp only [isSecond, isContinuation, Bool.and_eq_true, Bool.or_eq_true, bne_iff_ne,
    decide_eq_true_eq] at hb hc hd
  have hval : (point₄ a b c d hlt).val
      = (a.toNat % 8 * 0x40 + b.toNat % 0x40) * 0x1000 + c.toNat % 0x40 * 0x40 + d.toNat % 0x40 :=
    rfl
  rw [CodePoint.utf8, hval, bytesOf, if_neg (by omega), if_neg (by omega), if_neg (by omega),
    ofNat_toNat_of_eq (b := a) (by omega), ofNat_toNat_of_eq (b := b) (by omega),
    ofNat_toNat_of_eq (b := c) (by omega), ofNat_toNat_of_eq (b := d) (by omega)]

/-- A text that got one more code point in front had one before. -/
theorem exists_of_map_cons_eq_ok {e : Except DecodeError Text} {c : CodePoint} {t : Text}
    (h : e.map (c :: ·) = .ok t) : ∃ s, e = .ok s ∧ t = c :: s := by
  cases e with
  | error e => cases h
  | ok s => exact ⟨s, rfl, (Except.ok.inj h).symm⟩

/-- Bytes that can be decoded, wherever they stand, are the bytes of the text they give. -/
theorem encode_of_decodeFrom {position : Nat} {bytes : List UInt8} {t : Text}
    (h : decodeFrom position bytes = .ok t) : encode t = bytes := by
  fun_induction decodeFrom position bytes generalizing t with
  | case1 => obtain rfl := Except.ok.inj h; rfl
  | case2 position a rest ha ih =>
    obtain ⟨s, hs, rfl⟩ := exists_of_map_cons_eq_ok h
    rw [encode, List.flatMap_cons, utf8_point₁ ha, ← encode, ih hs]
    rfl
  | case5 position a ha₁ ha b rest hb hlong ih =>
    obtain ⟨s, hs, rfl⟩ := exists_of_map_cons_eq_ok h
    rw [encode, List.flatMap_cons, utf8_point₂ ha hlong hb, ← encode, ih hs]
    rfl
  | case7 position a ha₁ ha b hb h₂ c rest hc hlong ih =>
    obtain ⟨s, hs, rfl⟩ := exists_of_map_cons_eq_ok h
    rw [encode, List.flatMap_cons, utf8_point₃ h₂ hlong hb hc, ← encode, ih hs]
    rfl
  | case9 position a ha₁ ha b hb h₂ c hc hlong d rest hd ih =>
    obtain ⟨s, hs, rfl⟩ := exists_of_map_cons_eq_ok h
    rw [encode, List.flatMap_cons, utf8_point₄ ha hlong hb hc hd, ← encode, ih hs]
    rfl
  | _ => cases h

/-- Bytes that can be decoded are the bytes of the text they give. -/
theorem encode_of_decode {bytes : List UInt8} {t : Text} (h : decode bytes = .ok t) :
    encode t = bytes :=
  encode_of_decodeFrom h

/-- A code point below the surrogates, or above them, is none. -/
theorem isSurrogate_eq_false {c : CodePoint} (h : c.val < 0xD800 ∨ 0xDFFF < c.val) :
    c.isSurrogate = false := by
  simp only [CodePoint.isSurrogate, Bool.and_eq_false_iff, decide_eq_false_iff_not]
  omega

/-- Two bytes do not reach up to the surrogates. -/
theorem isSurrogate_point₂ (a b : UInt8) : (point₂ a b).isSurrogate = false := by
  have hb := payload_lt b
  have hval : (point₂ a b).val = a.toNat % 0x20 * 0x40 + payload b := rfl
  exact isSurrogate_eq_false (by omega)

/-- Three bytes carry no surrogate, as the second one is held back after `0xED`. -/
theorem isSurrogate_point₃ {a b : UInt8} (h : ¬a.toNat < 0xE0) (h' : a.toNat < 0xF0)
    (hb : isSecond a b) (c : UInt8) : (point₃ a b c).isSurrogate = false := by
  have hc := payload_lt c
  simp only [isSecond, isContinuation, Bool.and_eq_true, Bool.or_eq_true, bne_iff_ne,
    decide_eq_true_eq] at hb
  have hval : (point₃ a b c).val
      = a.toNat % 0x10 * 0x1000 + b.toNat % 0x40 * 0x40 + payload c := rfl
  exact isSurrogate_eq_false (by omega)

/-- Four bytes start above the surrogates. -/
theorem isSurrogate_point₄ {a b : UInt8} (ha : ¬(a.toNat < 0xC2 ∨ 0xF4 < a.toNat))
    (h : ¬a.toNat < 0xF0) (hb : isSecond a b) (c d : UInt8)
    (hlt : a.toNat % 8 * 0x40 + payload b < 0x110) :
    (point₄ a b c d hlt).isSurrogate = false := by
  simp only [isSecond, isContinuation, Bool.and_eq_true, Bool.or_eq_true, bne_iff_ne,
    decide_eq_true_eq] at hb
  have hval : (point₄ a b c d hlt).val
      = (a.toNat % 8 * 0x40 + b.toNat % 0x40) * 0x1000 + payload c * 0x40 + payload d := rfl
  exact isSurrogate_eq_false (by omega)

/-- No surrogate comes out of bytes, wherever they stand. -/
theorem isSurrogate_of_decodeFrom {position : Nat} {bytes : List UInt8} {t : Text}
    (h : decodeFrom position bytes = .ok t) : ∀ c ∈ t, c.isSurrogate = false := by
  -- each step puts one code point in front that is no surrogate
  have hcons : ∀ {c : CodePoint} {s : Text}, c.isSurrogate = false →
      (∀ d ∈ s, d.isSurrogate = false) → ∀ d ∈ c :: s, d.isSurrogate = false :=
    fun hc hs => List.forall_mem_cons.2 ⟨hc, hs⟩
  fun_induction decodeFrom position bytes generalizing t with
  | case1 =>
    obtain rfl := Except.ok.inj h
    exact nofun
  | case2 position a rest ha ih =>
    obtain ⟨s, hs, rfl⟩ := exists_of_map_cons_eq_ok h
    have hval : (point₁ a).val = a.toNat := rfl
    exact hcons (isSurrogate_eq_false (by omega)) (ih hs)
  | case5 position a ha₁ ha b rest hb hlong ih =>
    obtain ⟨s, hs, rfl⟩ := exists_of_map_cons_eq_ok h
    exact hcons (isSurrogate_point₂ a b) (ih hs)
  | case7 position a ha₁ ha b hb h₂ c rest hc hlong ih =>
    obtain ⟨s, hs, rfl⟩ := exists_of_map_cons_eq_ok h
    exact hcons (isSurrogate_point₃ h₂ hlong hb c) (ih hs)
  | case9 position a ha₁ ha b hb h₂ c hc hlong d rest hd ih =>
    obtain ⟨s, hs, rfl⟩ := exists_of_map_cons_eq_ok h
    exact hcons (isSurrogate_point₄ ha hlong hb c d _) (ih hs)
  | _ => cases h

/-- **No surrogate comes out of bytes.** -/
theorem isSurrogate_of_decode {bytes : List UInt8} {t : Text} (h : decode bytes = .ok t) :
    ∀ c ∈ t, c.isSurrogate = false :=
  isSurrogate_of_decodeFrom h

end HtmlDiagnostics.Utf8
