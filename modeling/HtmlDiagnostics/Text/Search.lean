import HtmlDiagnostics.Text.Basic

/-! # Finding markers and cutting texts

* **`Text.dropMarker? marker t`** — what follows a marker that the text starts with.
* **`Text.breakOn? marker t`** — the text before the first occurrence of a marker and the text
  after it.
* **`Text.cutAt separator t`** — the pieces of a text between the separators in it. -/

namespace HtmlDiagnostics.Text

/-! ## Markers -/

/-- What follows the marker at the start of the text, `none` if the text starts differently. -/
def dropMarker? : Text → Text → Option Text
  | [], t => some t
  | _ :: _, [] => none
  | m :: marker, c :: rest => if m = c then dropMarker? marker rest else none

/-- The marker is found exactly when it stands in front of what is left. -/
theorem dropMarker?_eq_some_iff {marker t rest : Text} :
    dropMarker? marker t = some rest ↔ t = marker ++ rest := by
  induction marker generalizing t with
  | nil => simp [dropMarker?]
  | cons m marker ih =>
    cases t with
    | nil => simp [dropMarker?]
    | cons c cs =>
      by_cases h : m = c
      · simp [dropMarker?, h, ih]
      · simp [dropMarker?, h, Ne.symm h]

/-- The text before the first occurrence of the marker and the text after it, `none` if the marker
does not occur. -/
def breakOn? (marker : Text) : Text → Option (Text × Text)
  | [] => (dropMarker? marker []).map fun rest => ([], rest)
  | c :: cs =>
    match dropMarker? marker (c :: cs) with
    | some rest => some ([], rest)
    | none => (breakOn? marker cs).map fun (before, rest) => (c :: before, rest)

/-- The parts around a marker that was found put the text together. -/
theorem eq_of_breakOn? {marker t before after : Text}
    (h : breakOn? marker t = some (before, after)) : t = before ++ marker ++ after := by
  induction t generalizing before with
  | nil =>
    obtain ⟨rest, hrest, heq⟩ := Option.map_eq_some_iff.1 h
    obtain ⟨rfl, rfl⟩ := Prod.mk.inj heq
    exact dropMarker?_eq_some_iff.1 hrest
  | cons c cs ih =>
    rw [breakOn?] at h
    split at h
    · rename_i rest hrest
      obtain ⟨rfl, rfl⟩ := Prod.mk.inj (Option.some.inj h)
      exact dropMarker?_eq_some_iff.1 hrest
    · obtain ⟨⟨b, a⟩, hba, heq⟩ := Option.map_eq_some_iff.1 h
      obtain ⟨rfl, rfl⟩ := Prod.mk.inj heq
      simp [ih hba]

/-- The marker that was found is the first one in the text. -/
theorem length_le_of_breakOn? {marker t before after p q : Text}
    (h : breakOn? marker t = some (before, after)) (hpq : t = p ++ marker ++ q) :
    before.length ≤ p.length := by
  induction t generalizing before p with
  | nil =>
    obtain ⟨rest, hrest, heq⟩ := Option.map_eq_some_iff.1 h
    obtain ⟨rfl, rfl⟩ := Prod.mk.inj heq
    simp
  | cons c cs ih =>
    rw [breakOn?] at h
    split at h
    · obtain ⟨rfl, rfl⟩ := Prod.mk.inj (Option.some.inj h)
      simp
    · rename_i hnone
      obtain ⟨⟨b, a⟩, hba, heq⟩ := Option.map_eq_some_iff.1 h
      obtain ⟨rfl, rfl⟩ := Prod.mk.inj heq
      cases p with
      | nil =>
        have := dropMarker?_eq_some_iff.2 hpq
        simp [hnone] at this
      | cons d p =>
        obtain ⟨-, hcs⟩ := List.cons.inj hpq
        have := ih hba hcs
        simpa using this

/-- A marker is not found exactly when it is nowhere in the text. -/
theorem breakOn?_eq_none_iff {marker t : Text} :
    breakOn? marker t = none ↔ ∀ p q, t ≠ p ++ marker ++ q := by
  constructor
  · intro h p q hpq
    induction t generalizing p with
    | nil =>
      simp only [breakOn?, Option.map_eq_none_iff] at h
      obtain ⟨hpm, rfl⟩ := List.append_eq_nil_iff.1 hpq.symm
      obtain ⟨rfl, rfl⟩ := List.append_eq_nil_iff.1 hpm
      cases h
    | cons c cs ih =>
      rw [breakOn?] at h
      split at h
      · cases h
      · rename_i hnone
        cases p with
        | nil =>
          have hsome : dropMarker? marker (c :: cs) = some q := dropMarker?_eq_some_iff.2 hpq
          rw [hsome] at hnone
          cases hnone
        | cons d p => exact ih (Option.map_eq_none_iff.1 h) p (List.cons.inj hpq).2
  · intro h
    cases hb : breakOn? marker t with
    | none => rfl
    | some parts => exact absurd (eq_of_breakOn? hb) (h _ _)

/-! ## Cutting -/

/-- The pieces of a text between the separators in it. A text without separators is one piece. -/
def cutAt (separator : CodePoint) : Text → List Text
  | [] => [[]]
  | c :: rest =>
    if c = separator then [] :: cutAt separator rest
    else match cutAt separator rest with
      | [] => [[c]]
      | piece :: more => (c :: piece) :: more

@[simp] theorem cutAt_nil (separator : CodePoint) : cutAt separator [] = [[]] := rfl

/-- There is always at least one piece. -/
theorem cutAt_ne_nil (separator : CodePoint) (t : Text) : cutAt separator t ≠ [] := by
  cases t with
  | nil => simp
  | cons c rest =>
    rw [cutAt]
    split
    · simp
    · split <;> simp

end HtmlDiagnostics.Text
