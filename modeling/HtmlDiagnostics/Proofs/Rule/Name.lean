import HtmlDiagnostics.Rule.Name

/-! # From a code to its key and back

The key of a code has capitals where the code has hyphens with small letters, so going back to
hyphen case undoes it there. A capital of the code itself is a capital of the key as well, and goes
back to a hyphen with a small letter: such a code is not found again.

* **`hyphenCase_camelCase`** — a code and its key have the same hyphen case.
* **`hyphenCase_eq_self_iff`** — the texts that are in hyphen case already.
* **`hyphenCase_camelCase_eq_self_iff`** — the codes that are found again from their keys. -/

namespace HtmlDiagnostics

namespace CodePoint

variable {c : CodePoint}

/-- The hyphen is no capital. -/
theorem isAsciiUpper_hyphen : hyphen.isAsciiUpper = false := by decide

/-- A small letter is no capital. -/
theorem isAsciiUpper_of_isAsciiLower (h : c.isAsciiLower) : c.isAsciiUpper = false := by
  simp only [isAsciiLower, isAsciiUpper, Bool.and_eq_true, decide_eq_true_eq,
    Bool.and_eq_false_iff, decide_eq_false_iff_not] at h ⊢
  omega

/-- The capital of a small letter is a capital. -/
theorem isAsciiUpper_asciiUpper (h : c.isAsciiLower) : c.asciiUpper.isAsciiUpper = true := by
  rw [asciiUpper, if_pos h]
  simp only [isAsciiLower, isAsciiUpper, Bool.and_eq_true, decide_eq_true_eq] at h ⊢
  omega

/-- The small letter of the capital of a small letter is that letter. -/
theorem asciiLower_asciiUpper (h : c.isAsciiLower) : c.asciiUpper.asciiLower = c := by
  rw [asciiLower, dif_pos (isAsciiUpper_asciiUpper h)]
  apply ext
  simp only [asciiUpper, if_pos h]
  simp only [isAsciiLower, Bool.and_eq_true, decide_eq_true_eq] at h
  omega

/-- The small letter of a capital is no capital. -/
theorem isAsciiUpper_asciiLower (h : c.isAsciiUpper) : c.asciiLower.isAsciiUpper = false := by
  rw [asciiLower, dif_pos h]
  simp only [isAsciiUpper, Bool.and_eq_true, decide_eq_true_eq, Bool.and_eq_false_iff,
    decide_eq_false_iff_not] at h ⊢
  omega

end CodePoint

/-! ## Hyphen case -/

/-- A capital becomes a hyphen and a small letter. -/
theorem hyphenCase_cons_of_upper {c : CodePoint} (h : c.isAsciiUpper) (t : Text) :
    hyphenCase (c :: t) = CodePoint.hyphen :: c.asciiLower :: hyphenCase t := by
  rw [hyphenCase, List.flatMap_cons, if_pos h]
  rfl

/-- Everything else stays. -/
theorem hyphenCase_cons_of_not_upper {c : CodePoint} (h : c.isAsciiUpper = false) (t : Text) :
    hyphenCase (c :: t) = c :: hyphenCase t := by
  rw [hyphenCase, List.flatMap_cons, h]
  rfl

/-- **A text in hyphen case has no capitals.** -/
theorem isAsciiUpper_of_mem_hyphenCase {t : Text} :
    ∀ c ∈ hyphenCase t, c.isAsciiUpper = false := by
  intro c hc
  rw [hyphenCase] at hc
  obtain ⟨d, -, hc⟩ := List.mem_flatMap.1 hc
  split at hc
  · rename_i hd
    rcases List.mem_cons.1 hc with rfl | hc
    · exact CodePoint.isAsciiUpper_hyphen
    · rw [List.mem_singleton.1 hc]
      exact CodePoint.isAsciiUpper_asciiLower hd
  · rename_i hd
    rw [List.mem_singleton.1 hc]
    exact Bool.eq_false_iff.2 hd

/-- **A text is in hyphen case exactly if it has no capitals.** -/
theorem hyphenCase_eq_self_iff {t : Text} :
    hyphenCase t = t ↔ ∀ c ∈ t, c.isAsciiUpper = false := by
  constructor
  · intro h c hc
    rw [← h] at hc
    exact isAsciiUpper_of_mem_hyphenCase c hc
  · intro h
    induction t with
    | nil => rfl
    | cons c t ih =>
      rw [hyphenCase_cons_of_not_upper (h c List.mem_cons_self),
        ih fun d hd => h d (List.mem_cons_of_mem c hd)]

/-! ## Keys -/

/-- **A code and its key have the same hyphen case**: a capital that comes from a hyphen and a small
letter goes back to these, and every other code point is in the key as it is. -/
theorem hyphenCase_camelCase (code : Text) : hyphenCase (camelCase code) = hyphenCase code := by
  fun_induction camelCase code with
  | case1 a b rest h ih =>
    obtain ⟨rfl, hb⟩ := h
    rw [hyphenCase_cons_of_upper (CodePoint.isAsciiUpper_asciiUpper hb),
      hyphenCase_cons_of_not_upper CodePoint.isAsciiUpper_hyphen,
      hyphenCase_cons_of_not_upper (CodePoint.isAsciiUpper_of_isAsciiLower hb),
      CodePoint.asciiLower_asciiUpper hb, ih]
  | case2 a b rest h ih =>
    rw [← List.singleton_append, hyphenCase_append, ih, ← hyphenCase_append,
      List.singleton_append]
  | case3 short => rfl

/-- **A code is found again from its key exactly if it has no capitals.** -/
theorem hyphenCase_camelCase_eq_self_iff {code : Text} :
    hyphenCase (camelCase code) = code ↔ ∀ c ∈ code, c.isAsciiUpper = false := by
  rw [hyphenCase_camelCase, hyphenCase_eq_self_iff]

/-- A hyphen in front of another one, or in front of a digit, is no obstacle. -/
example : hyphenCase (camelCase "eof--in-2-cdata-") = ("eof--in-2-cdata-" : Text) := by decide

end HtmlDiagnostics
