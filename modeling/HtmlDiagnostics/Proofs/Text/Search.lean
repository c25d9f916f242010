import HtmlDiagnostics.Text.Search

/-! # Where a marker is found first

A text is broken at the first occurrence of a marker. Whether an occurrence is the first one is
decided by the text up to its end, so what follows it may be exchanged.

* **`Text.suffix_of_length_le`** — what stands behind two occurrences of a marker.
* **`Text.breakOn?_eq_some_of_first`** — an occurrence without an earlier one is found.
* **`Text.IsFirst`** — the first occurrence of a marker, and **`Text.breakOn?_eq_some_iff`**: it is
  what is found.
* **`Text.breakOn?_exchange`** — what follows the occurrence that is found may be exchanged.
* **`Text.breakOn?_append_of_notMem`** — a marker behind a text that lacks its second code point.
* **`Text.append_cons_inj_of_first`**, **`Text.append_cons_inj_of_last`** — a text has one first and
  one last occurrence of a code point. -/

namespace HtmlDiagnostics.Text

/-- What stands behind an occurrence of a marker stands behind every earlier one, too. -/
theorem suffix_of_length_le {α : Type} {marker p q p' q' : List α}
    (h : p ++ marker ++ q = p' ++ marker ++ q') (hle : p.length ≤ p'.length) : q' <:+ q := by
  have hq : q <:+ p ++ marker ++ q := List.suffix_append _ _
  have hq' : q' <:+ p ++ marker ++ q := ⟨p' ++ marker, h.symm⟩
  refine List.suffix_of_suffix_length_le hq' hq ?_
  have hlength := congrArg List.length h
  simp only [List.length_append] at hlength
  omega

variable {marker before after : Text}

/-- An occurrence of the marker is found if none begins earlier. -/
theorem breakOn?_eq_some_of_first
    (first : ∀ p q, before ++ marker ++ after = p ++ marker ++ q → before.length ≤ p.length) :
    breakOn? marker (before ++ marker ++ after) = some (before, after) := by
  cases h : breakOn? marker (before ++ marker ++ after) with
  | none => exact absurd rfl (breakOn?_eq_none_iff.1 h before after)
  | some parts =>
    obtain ⟨p, q⟩ := parts
    have heq := eq_of_breakOn? h
    -- neither occurrence begins before the other
    have hlength : before.length = p.length :=
      Nat.le_antisymm (first p q heq) (length_le_of_breakOn? h rfl)
    rw [List.append_assoc, List.append_assoc] at heq
    obtain ⟨rfl, hrest⟩ := List.append_inj heq hlength
    rw [List.append_cancel_left hrest]

/-- Where a marker stands first in a text: the text in front of it and the text behind it. -/
structure IsFirst (marker t before after : Text) : Prop where
  /-- The marker stands there. -/
  parts : t = before ++ marker ++ after
  /-- It begins nowhere earlier. -/
  first : ∀ p q, t = p ++ marker ++ q → before.length ≤ p.length

/-- **A text is broken at the first occurrence of the marker.** -/
theorem breakOn?_eq_some_iff {t : Text} :
    breakOn? marker t = some (before, after) ↔ IsFirst marker t before after := by
  constructor
  · intro h
    exact ⟨eq_of_breakOn? h, fun p q => length_le_of_breakOn? h⟩
  · rintro ⟨rfl, first⟩
    exact breakOn?_eq_some_of_first first

/-- **What follows the first occurrence of a marker may be exchanged.** -/
theorem breakOn?_exchange (h : breakOn? marker (before ++ marker ++ after) = some (before, after))
    (other : Text) : breakOn? marker (before ++ marker ++ other) = some (before, other) := by
  apply breakOn?_eq_some_of_first
  intro p q heq
  refine Nat.le_of_not_lt fun hlt => ?_
  -- an earlier occurrence ends within the part that stays
  have hp : p ++ marker <+: before ++ marker ++ other := ⟨q, heq.symm⟩
  have hbefore : before ++ marker <+: before ++ marker ++ other := List.prefix_append _ _
  have hprefix : p ++ marker <+: before ++ marker := by
    refine List.prefix_of_prefix_length_le hp hbefore ?_
    rw [List.length_append, List.length_append]
    omega
  obtain ⟨middle, hmiddle⟩ := hprefix
  have hearlier : before ++ marker ++ after = p ++ marker ++ (middle ++ after) := by
    rw [← hmiddle, List.append_assoc (p ++ marker)]
  exact Nat.not_le.2 hlt (length_le_of_breakOn? h hearlier)

/-- **A marker is found behind a text that lacks its second code point**, as long as its first two
code points differ: an occurrence that begins in the text would have its second one there, or would
have it where the marker begins. -/
theorem breakOn?_append_of_notMem {a b : CodePoint} {t : Text} (hab : a ≠ b) (ht : b ∉ t)
    (rest after : Text) :
    breakOn? (a :: b :: rest) (t ++ (a :: b :: rest) ++ after) = some (t, after) := by
  apply breakOn?_eq_some_of_first
  intro p q heq
  refine Nat.le_of_not_lt fun hlt => ?_
  have hsecond : (t ++ (a :: b :: rest) ++ after)[p.length + 1]? = some b := by
    rw [heq, List.append_assoc, List.getElem?_append_right (Nat.le_succ _), Nat.succ_sub (Nat.le_refl _),
      Nat.sub_self]
    rfl
  rcases Nat.lt_or_ge (p.length + 1) t.length with hin | hout
  · rw [List.append_assoc, List.getElem?_append_left hin] at hsecond
    exact ht (List.mem_of_getElem? hsecond)
  · have hend : p.length + 1 = t.length := by omega
    rw [hend, List.append_assoc, List.getElem?_append_right (Nat.le_refl _), Nat.sub_self] at hsecond
    exact hab (Option.some.inj hsecond)

/-! ## Single code points -/

variable {c : CodePoint} {s s' t t' : Text}

/-- **A text has one first occurrence of a code point**, with what stands in front of it and what
stands behind it. -/
theorem append_cons_inj_of_first (hs : c ∉ s) (hs' : c ∉ s') (h : s ++ c :: t = s' ++ c :: t') :
    s = s' ∧ t = t' := by
  induction s generalizing s' with
  | nil =>
    cases s' with
    | nil => exact ⟨rfl, (List.cons.inj h).2⟩
    | cons a s' => exact absurd ((List.cons.inj h).1 ▸ List.mem_cons_self) hs'
  | cons a s ih =>
    cases s' with
    | nil => exact absurd ((List.cons.inj h).1 ▸ List.mem_cons_self) hs
    | cons b s' =>
      rw [List.mem_cons, not_or] at hs hs'
      obtain ⟨rfl, hrest⟩ := List.cons.inj h
      obtain ⟨rfl, ht⟩ := ih hs.2 hs'.2 hrest
      exact ⟨rfl, ht⟩

/-- **A text has one last occurrence of a code point**: read from the back it is the first one. -/
theorem append_cons_inj_of_last (ht : c ∉ t) (ht' : c ∉ t') (h : s ++ c :: t = s' ++ c :: t') :
    s = s' ∧ t = t' := by
  have hback : t.reverse ++ c :: s.reverse = t'.reverse ++ c :: s'.reverse := by
    simpa only [List.reverse_append, List.reverse_cons, List.append_assoc, List.singleton_append]
      using congrArg List.reverse h
  have hparts := append_cons_inj_of_first (by rwa [List.mem_reverse]) (by rwa [List.mem_reverse])
    hback
  exact ⟨List.reverse_inj.1 hparts.2, List.reverse_inj.1 hparts.1⟩

end HtmlDiagnostics.Text
