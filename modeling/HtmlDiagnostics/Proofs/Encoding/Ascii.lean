import HtmlDiagnostics.Encoding.Utf8.Lemmas
import HtmlDiagnostics.Proofs.Text.Search

/-! # ASCII in the bytes of a text

A code point of ASCII is a byte of its own, and the bytes of all other code points lie above. So a
text of ASCII that is found in the bytes of another text stands in that text: it never begins or
ends within the bytes of a code point.

* **`CodePoint.isAscii`** — the code points that are bytes of their own.
* **`Utf8.mem_encode_iff`** — such a code point is in a text exactly if its byte is in the bytes.
* **`Utf8.exists_of_encode_eq`** — a text of ASCII in the bytes of another text.
* **`Utf8.exists_breakOn?_of_first`** — the first occurrence in the bytes and the one in the text. -/

namespace HtmlDiagnostics

namespace CodePoint

variable {c : CodePoint} {b : UInt8}

/-- Whether a code point is one of the first 128. -/
def isAscii (c : CodePoint) : Bool := c.val < 0x80

/-- A code point of ASCII is its byte. -/
theorem utf8_eq_of_isAscii (h : c.isAscii = true) : c.utf8 = [.ofNat c.val] := by
  rw [utf8, Utf8.bytesOf, if_pos (of_decide_eq_true h)]

/-- The bytes of another code point lie above. -/
theorem le_of_mem_utf8 (h : c.isAscii = false) (hb : b ∈ c.utf8) : 0x80 ≤ b.toNat := by
  have hlow := of_decide_eq_false h
  have hlt := c.val_lt
  have hbyte : ∀ n : Nat, (UInt8.ofNat n).toNat = n % 256 := fun _ => UInt8.toNat_ofNat'
  rw [utf8, Utf8.bytesOf, if_neg hlow] at hb
  split at hb
  · simp only [List.mem_cons, List.not_mem_nil, or_false] at hb
    rcases hb with rfl | rfl <;> rw [hbyte] <;> omega
  · split at hb
    · simp only [List.mem_cons, List.not_mem_nil, or_false] at hb
      rcases hb with rfl | rfl | rfl <;> rw [hbyte] <;> omega
    · simp only [List.mem_cons, List.not_mem_nil, or_false] at hb
      rcases hb with rfl | rfl | rfl | rfl <;> rw [hbyte] <;> omega

/-- A code point has a byte of ASCII only if it is ASCII, and then it has no other byte. -/
theorem utf8_eq_of_mem (hb : b ∈ c.utf8) (h : b.toNat < 0x80) : c.utf8 = [b] := by
  cases hc : c.isAscii with
  | false => exact absurd (le_of_mem_utf8 hc hb) (Nat.not_le.2 h)
  | true =>
    rw [utf8_eq_of_isAscii hc] at hb ⊢
    rw [List.mem_singleton.1 hb]

/-- The byte of a code point of ASCII lies low. -/
theorem toNat_ofNat_val (h : c.isAscii = true) : (UInt8.ofNat c.val).toNat = c.val :=
  Utf8.toNat_ofNat_of_lt (Nat.lt_trans (of_decide_eq_true h) (by decide))

/-- No other code point has the byte of a code point of ASCII. -/
theorem eq_of_mem_utf8 {d : CodePoint} (h : c.isAscii = true) (hc : UInt8.ofNat c.val ∈ d.utf8) :
    d = c := by
  have hlow := of_decide_eq_true h
  have hd : d.utf8 = [.ofNat c.val] := utf8_eq_of_mem hc (by rw [toNat_ofNat_val h]; exact hlow)
  cases hascii : d.isAscii with
  | false =>
    have hhigh := le_of_mem_utf8 hascii hc
    rw [toNat_ofNat_val h] at hhigh
    exact absurd hhigh (Nat.not_le.2 hlow)
  | true =>
    rw [utf8_eq_of_isAscii hascii] at hd
    have hval := congrArg UInt8.toNat (List.cons.inj hd).1
    rw [toNat_ofNat_val hascii, toNat_ofNat_val h] at hval
    exact ext hval

/-- Every code point has bytes. -/
theorem utf8_ne_nil (c : CodePoint) : c.utf8 ≠ [] := by
  rw [utf8, Utf8.bytesOf]
  split
  · exact List.cons_ne_nil _ _
  · split
    · exact List.cons_ne_nil _ _
    · split <;> exact List.cons_ne_nil _ _

end CodePoint

namespace Utf8

/-- The bytes of a text with one more code point in front. -/
theorem encode_cons (c : CodePoint) (t : Text) : encode (c :: t) = c.utf8 ++ encode t :=
  List.flatMap_cons

/-- **A code point of ASCII is in a text** exactly if its byte is in the bytes of the text. -/
theorem mem_encode_iff {c : CodePoint} (h : c.isAscii = true) {t : Text} :
    UInt8.ofNat c.val ∈ encode t ↔ c ∈ t := by
  rw [encode, List.mem_flatMap]
  constructor
  · rintro ⟨d, hd, hc⟩
    exact CodePoint.eq_of_mem_utf8 h hc ▸ hd
  · intro hc
    refine ⟨c, hc, ?_⟩
    rw [CodePoint.utf8_eq_of_isAscii h]
    exact List.mem_singleton_self _

variable {marker : Text}

/-- A text starts with a text of ASCII if its bytes start with those of it. -/
theorem exists_of_encode_eq_append (h : marker.all CodePoint.isAscii = true) {t : Text}
    {back : List UInt8} (heq : encode t = encode marker ++ back) :
    ∃ after, t = marker ++ after ∧ encode after = back := by
  induction marker generalizing t with
  | nil => exact ⟨t, rfl, heq⟩
  | cons m marker ih =>
    rw [List.all_cons, Bool.and_eq_true] at h
    have hm := CodePoint.utf8_eq_of_isAscii h.1
    rw [encode_cons, hm, List.singleton_append, List.cons_append] at heq
    cases t with
    | nil => cases heq
    | cons c t =>
      rw [encode_cons] at heq
      -- the first byte of `c` is that of `m`
      obtain ⟨b, bytes, hbytes⟩ := List.exists_cons_of_ne_nil c.utf8_ne_nil
      rw [hbytes, List.cons_append] at heq
      obtain ⟨rfl, -⟩ := List.cons.inj heq
      have hmem : UInt8.ofNat m.val ∈ c.utf8 := hbytes ▸ List.mem_cons_self
      obtain rfl := CodePoint.eq_of_mem_utf8 h.1 hmem
      rw [hm] at hbytes
      obtain rfl := (List.cons.inj hbytes).2
      obtain ⟨after, rfl, hafter⟩ := ih h.2 (List.cons.inj heq).2
      exact ⟨after, rfl, hafter⟩

/-- **A text of ASCII in the bytes of another text** stands in that text, between the texts of the
bytes around it. -/
theorem exists_of_encode_eq (h : marker.all CodePoint.isAscii = true) (hne : marker ≠ []) {t : Text}
    {front back : List UInt8} (heq : encode t = front ++ encode marker ++ back) :
    ∃ before after, t = before ++ marker ++ after ∧ encode before = front ∧
      encode after = back := by
  rw [List.append_assoc] at heq
  -- the marker begins with a byte of ASCII
  obtain ⟨b, bytes, hbytes, hb⟩ : ∃ b bytes, encode marker = b :: bytes ∧ b.toNat < 0x80 := by
    obtain ⟨m, rest, rfl⟩ := List.exists_cons_of_ne_nil hne
    have hm : m.isAscii = true := List.all_eq_true.1 h m List.mem_cons_self
    refine ⟨.ofNat m.val, encode rest, ?_, ?_⟩
    · rw [encode_cons, CodePoint.utf8_eq_of_isAscii hm, List.singleton_append]
    · rw [CodePoint.toNat_ofNat_val hm]
      exact of_decide_eq_true hm
  induction t generalizing front with
  | nil =>
    rw [hbytes, encode_nil] at heq
    exact absurd (List.append_eq_nil_iff.1 heq.symm).2 (List.cons_ne_nil _ _)
  | cons c t ih =>
    have hsplit := heq
    rw [encode_cons, List.append_eq_append_iff] at hsplit
    rcases hsplit with ⟨rest, rfl, hrest⟩ | ⟨rest, hc, hrest⟩
    · -- the bytes of `c` lie in front of the marker
      obtain ⟨before, after, rfl, rfl, hafter⟩ := ih hrest
      exact ⟨c :: before, after, rfl, encode_cons c before, hafter⟩
    · cases rest with
      | nil =>
        -- they end where the marker begins
        obtain ⟨after, rfl, hafter⟩ := exists_of_encode_eq_append h hrest.symm
        refine ⟨[c], after, rfl, ?_, hafter⟩
        rw [encode_cons, encode_nil, hc]
        simp only [List.append_nil]
      | cons d rest =>
        -- the marker begins within them, so `c` is where it begins
        rw [hbytes, List.cons_append, List.cons_append] at hrest
        obtain ⟨rfl, -⟩ := List.cons.inj hrest
        have hmem : b ∈ c.utf8 := hc ▸ List.mem_append_cons_self
        have hfront : front = [] := by
          rw [CodePoint.utf8_eq_of_mem hmem hb] at hc
          cases front with
          | nil => rfl
          | cons f front => cases front <;> cases (List.cons.inj hc).2
        subst hfront
        obtain ⟨after, hafter⟩ := exists_of_encode_eq_append h heq
        exact ⟨[], after, hafter.1, encode_nil, hafter.2⟩

/-- **A longer part has more bytes**: of two parts that a text starts with, the one with fewer code
points has fewer bytes. -/
theorem length_encode_lt {s t : Text} (h : s <+: t) (hlt : s.length < t.length) :
    (encode s).length < (encode t).length := by
  obtain ⟨rest, rfl⟩ := h
  obtain ⟨c, rest, rfl⟩ : ∃ c more, rest = c :: more := by
    refine List.exists_cons_of_ne_nil fun hrest => ?_
    rw [hrest, List.append_nil] at hlt
    exact Nat.lt_irrefl _ hlt
  have hpos := List.length_pos_iff.2 c.utf8_ne_nil
  rw [encode_append, encode_cons, List.length_append, List.length_append]
  omega

/-- **The first occurrence in the bytes** of a text is the first one in the text. -/
theorem exists_breakOn?_of_first (h : marker.all CodePoint.isAscii = true) (hne : marker ≠ [])
    {t : Text} {front back : List UInt8} (heq : encode t = front ++ encode marker ++ back)
    (first : ∀ n < front.length, ¬encode marker <+: (encode t).drop n) :
    ∃ before after, Text.breakOn? marker t = some (before, after) ∧ encode before = front ∧
      encode after = back := by
  obtain ⟨before, after, rfl, rfl, rfl⟩ := exists_of_encode_eq h hne heq
  refine ⟨before, after, Text.breakOn?_eq_some_of_first fun p q hpq => ?_, rfl, rfl⟩
  refine Nat.le_of_not_lt fun hlt => ?_
  -- an earlier occurrence in the text is an earlier one in the bytes
  have hp : p <+: before ++ marker ++ after :=
    ⟨marker ++ q, by rw [hpq, List.append_assoc]⟩
  have hbefore : before <+: before ++ marker ++ after :=
    ⟨marker ++ after, (List.append_assoc _ _ _).symm⟩
  have hprefix : p <+: before := List.prefix_of_prefix_length_le hp hbefore (Nat.le_of_lt hlt)
  apply first _ (length_encode_lt hprefix hlt)
  rw [hpq, encode_append, encode_append, List.append_assoc, List.drop_left]
  exact List.prefix_append _ _

end Utf8

end HtmlDiagnostics
