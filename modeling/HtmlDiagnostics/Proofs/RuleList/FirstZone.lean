import HtmlDiagnostics.Proofs.RuleList.Zone

/-! # The zone that an update replaces

A document may have several start markers and several end markers, in any order. Its zone reaches
from the first start marker to the first end marker that begins behind it, and this zone alone is
replaced.

* **`Zone.Separates`** — the parts of a document in front of its zone, in it and behind it.
* **`Zone.find?_eq_some_iff`** — they are what is found.
* **`Zone.update_eq_some_iff`** — the update puts the list between the outer parts.
* **`Zone.update_first_zone`** — what an update does to a document. -/

namespace HtmlDiagnostics.RuleList.Zone

/-- The parts of a document around its zone and in it. -/
structure Separates (t before old after : Text) : Prop where
  /-- The zone starts with the first start marker. -/
  start : Text.IsFirst startMarker t before (old ++ endMarker ++ after)
  /-- It stops with the first end marker behind that. -/
  stop : Text.IsFirst endMarker (old ++ endMarker ++ after) old after

variable {t before old after : Text}

/-- **The zone that is found** is the one from the first start marker to the first end marker
behind it. -/
theorem find?_eq_some_iff : find? t = some (before, after) ↔ ∃ old, Separates t before old after := by
  rw [find?]
  constructor
  · intro h
    split at h
    · cases h
    · rename_i p rest hstart
      split at h
      · cases h
      · rename_i old q hend
        obtain ⟨rfl, rfl⟩ := Prod.mk.inj (Option.some.inj h)
        have stop := Text.breakOn?_eq_some_iff.1 hend
        have start := Text.breakOn?_eq_some_iff.1 hstart
        obtain rfl := stop.parts
        exact ⟨old, start, stop⟩
  · rintro ⟨old, start, stop⟩
    rw [Text.breakOn?_eq_some_iff.2 start]
    simp only [Text.breakOn?_eq_some_iff.2 stop]

/-- No zone is found exactly if no end marker begins behind the first start marker. -/
theorem find?_eq_none_iff_of_first : find? t = none ↔
    ∀ before rest, Text.IsFirst startMarker t before rest → ∀ p q, rest ≠ p ++ endMarker ++ q := by
  rw [find?]
  constructor
  · intro h before rest hfirst
    rw [Text.breakOn?_eq_some_iff.2 hfirst] at h
    refine Text.breakOn?_eq_none_iff.1 ?_
    cases hend : Text.breakOn? endMarker rest with
    | none => rfl
    | some parts =>
      simp only [hend] at h
      cases h
  · intro h
    split
    · rfl
    · rename_i before rest hstart
      have hnone := h before rest (Text.breakOn?_eq_some_iff.1 hstart)
      rw [Text.breakOn?_eq_none_iff.2 hnone]

/-- **An update puts the list between the outer parts.** -/
theorem update_eq_some_iff {u : Text} : update t = some u ↔
    ∃ before old after, Separates t before old after ∧ u = before ++ content ++ after := by
  rw [update, Option.map_eq_some_iff]
  constructor
  · rintro ⟨⟨before, after⟩, hfind, rfl⟩
    obtain ⟨old, hzone⟩ := find?_eq_some_iff.1 hfind
    exact ⟨before, old, after, hzone, rfl⟩
  · rintro ⟨before, old, after, hzone, rfl⟩
    exact ⟨(before, after), find?_eq_some_iff.2 ⟨old, hzone⟩, rfl⟩

/-- Documents that differ in their zones only have the same update. -/
theorem Separates.update_eq {t' old' : Text} (h : Separates t before old after)
    (h' : Separates t' before old' after) : update t' = update t := by
  rw [update, update, find?_eq_some_iff.2 ⟨old, h⟩, find?_eq_some_iff.2 ⟨old', h'⟩]

/-- **What an update does to a document.** If no end marker begins behind the first start marker
there is nothing to update. Else the zone between these two is replaced by the markers with the
list between them, and the text in front of it and the text behind it, with all the markers that it
may have, stay as they are. A second update changes nothing, and what the zone held does not
matter. -/
theorem update_first_zone (t : Text) :
    (update t = none ↔ ∀ before rest, Text.IsFirst startMarker t before rest →
      ∀ p q, rest ≠ p ++ endMarker ++ q) ∧
    (∀ u, update t = some u ↔ ∃ before old after, Separates t before old after ∧
      u = before ++ startMarker ++ "\n\n" ++ RuleList.render exampleRepository knownRules ++ "\n"
        ++ endMarker ++ after) ∧
    (update t).bind update = update t ∧
    ∀ t' before old old' after, Separates t before old after → Separates t' before old' after →
      update t' = update t := by
  refine ⟨?_, fun u => ?_, ?_, fun t' before old old' after h h' => h.update_eq h'⟩
  · rw [update, Option.map_eq_none_iff, find?_eq_none_iff_of_first]
  · rw [update_eq_some_iff]
    simp only [content, ruleList, List.append_assoc]
  · cases h : update t with
    | none => rfl
    | some u => exact update_update h

/-- A start marker within the zone is replaced with it, and an end marker behind the zone stays. -/
theorem update_first_zone_of_markers :
    Separates (startMarker ++ "a" ++ startMarker ++ endMarker ++ endMarker) [] ("a" ++ startMarker)
        endMarker ∧
      Separates (startMarker ++ endMarker ++ endMarker) [] [] endMarker ∧
      update (startMarker ++ endMarker ++ endMarker)
        = update (startMarker ++ "a" ++ startMarker ++ endMarker ++ endMarker) := by
  have hnested : Separates (startMarker ++ "a" ++ startMarker ++ endMarker ++ endMarker) []
      ("a" ++ startMarker) endMarker :=
    ⟨Text.breakOn?_eq_some_iff.1 (by decide), Text.breakOn?_eq_some_iff.1 (by decide)⟩
  have hempty : Separates (startMarker ++ endMarker ++ endMarker) [] [] endMarker :=
    ⟨Text.breakOn?_eq_some_iff.1 (by decide), Text.breakOn?_eq_some_iff.1 (by decide)⟩
  obtain ⟨-, -, -, hsame⟩ :=
    update_first_zone (startMarker ++ "a" ++ startMarker ++ endMarker ++ endMarker)
  exact ⟨hnested, hempty, hsame _ _ _ _ _ hnested hempty⟩

end HtmlDiagnostics.RuleList.Zone
