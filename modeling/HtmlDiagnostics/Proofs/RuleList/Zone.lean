import HtmlDiagnostics.Proofs.RuleList.Item
import HtmlDiagnostics.Proofs.Text.Search
import HtmlDiagnostics.RuleList.Zone

/-! # The zone after an update

An update puts the list between the markers and leaves what is around them. The end marker behind
the list is the first one behind the start marker, because the list holds no exclamation mark; so
the next update finds the same zone, and leaves the document as it is.

* **`Zone.HasZone`** — a start marker stands in a text, and an end marker behind it.
* **`Zone.update_eq_none_iff`** — what is not updated has no zone.
* **`Zone.exists_of_update`** — the parts of a document and of its update.
* **`Zone.find?_of_inner`**, **`Zone.find?_content`** — where the zone is afterwards.
* **`Zone.update_update`** — a second update changes nothing.
* **`Zone.all_isTame_ruleList`** — the code points of the list. -/

namespace HtmlDiagnostics

/-! ## The code points of the list -/

/-- Whether a code point is harmless in the list: no exclamation mark, which the markers have, no
carriage return, and no surrogate. -/
def CodePoint.isTame (c : CodePoint) : Bool :=
  c ≠ CodePoint.ofChar '!' && c ≠ Newline.carriageReturn && !c.isSurrogate

namespace RuleList

/-- The texts of a rule that go into the list are harmless. -/
theorem all_isTame_of_mem_knownRuleEntries : ∀ entry ∈ knownRuleEntries,
    entry.1.all CodePoint.isTame ∧ (hyphenCase entry.1).all CodePoint.isTame ∧
      (Text.lowerFirst entry.2.reason).all CodePoint.isTame := by
  decide +kernel

/-- The texts around them are harmless as well. -/
theorem all_isTame_itemFrame : itemFrame.all CodePoint.isTame = true := by decide +kernel

namespace Zone

/-- **The list is harmless.** -/
theorem all_isTame_ruleList : ruleList.all CodePoint.isTame = true := by
  have hfeed : [Newline.lineFeed].all CodePoint.isTame = true := by decide
  have hrepository : exampleRepository.all CodePoint.isTame = true := by decide +kernel
  have hrules : knownRules.entries ≠ [] := List.cons_ne_nil _ _
  rw [ruleList, render_eq_flatMap hrules, List.all_flatMap, List.all_eq_true]
  intro entry hentry
  obtain ⟨hkey, hcode, hreason⟩ := all_isTame_of_mem_knownRuleEntries entry hentry
  rw [List.all_append, all_item all_isTame_itemFrame hrepository hkey hcode hreason, hfeed]
  rfl

/-! ## Zones -/

/-- A document has a zone: a start marker stands in it, and an end marker behind that. -/
def HasZone (t : Text) : Prop :=
  ∃ before inner after, t = before ++ startMarker ++ inner ++ endMarker ++ after

/-- **A zone is found exactly if there is one.** -/
theorem find?_eq_none_iff {t : Text} : find? t = none ↔ ¬HasZone t := by
  rw [find?]
  split
  · rename_i hstart
    refine iff_of_true rfl ?_
    rintro ⟨before, inner, after, rfl⟩
    exact Text.breakOn?_eq_none_iff.1 hstart before (inner ++ endMarker ++ after)
      (by simp only [List.append_assoc])
  · rename_i before rest hstart
    have ht := Text.eq_of_breakOn? hstart
    split
    · rename_i hend
      refine iff_of_true rfl ?_
      rintro ⟨p, inner, q, hzone⟩
      have hp : t = p ++ startMarker ++ (inner ++ endMarker ++ q) := by
        simp only [hzone, List.append_assoc]
      -- the first start marker does not begin behind this one, so the end marker is behind it too
      obtain ⟨middle, hmiddle⟩ :=
        Text.suffix_of_length_le (ht.symm.trans hp) (Text.length_le_of_breakOn? hstart hp)
      refine Text.breakOn?_eq_none_iff.1 hend (middle ++ inner) q ?_
      simp only [← hmiddle, List.append_assoc]
    · rename_i inner after hend
      refine iff_of_false nofun (not_not_intro ⟨before, inner, after, ?_⟩)
      rw [ht, Text.eq_of_breakOn? hend]
      simp only [List.append_assoc]

/-- **A document is not updated exactly if it has no zone.** -/
theorem update_eq_none_iff {t : Text} : update t = none ↔ ¬HasZone t := by
  rw [update, Option.map_eq_none_iff, find?_eq_none_iff]

/-- The parts of a document with a zone. -/
theorem exists_of_find? {t before after : Text} (h : find? t = some (before, after)) :
    ∃ inner, t = before ++ startMarker ++ inner ++ endMarker ++ after ∧
      Text.breakOn? startMarker (before ++ startMarker ++ (inner ++ endMarker ++ after))
        = some (before, inner ++ endMarker ++ after) := by
  rw [find?] at h
  split at h
  · cases h
  · rename_i p rest hstart
    split at h
    · cases h
    · rename_i inner q hend
      obtain ⟨rfl, rfl⟩ := Prod.mk.inj (Option.some.inj h)
      obtain rfl := Text.eq_of_breakOn? hend
      have ht := Text.eq_of_breakOn? hstart
      refine ⟨inner, ?_, ?_⟩
      · rw [ht]
        simp only [List.append_assoc]
      · rw [← ht]
        exact hstart

/-! ## Updating -/

/-- **The zone stays where it is** when a text without exclamation marks is put between its
markers. -/
theorem find?_of_inner {t before after inner : Text} (h : find? t = some (before, after))
    (hinner : CodePoint.ofChar '!' ∉ inner) :
    find? (before ++ startMarker ++ inner ++ endMarker ++ after) = some (before, after) := by
  obtain ⟨old, -, hstart⟩ := exists_of_find? h
  have hmarker : endMarker
      = CodePoint.ofChar '<' :: CodePoint.ofChar '!' :: endMarker.drop 2 := by decide
  have hend : Text.breakOn? endMarker (inner ++ endMarker ++ after) = some (inner, after) := by
    rw [hmarker]
    exact Text.breakOn?_append_of_notMem (by decide) hinner _ after
  have hparts : before ++ startMarker ++ inner ++ endMarker ++ after
      = before ++ startMarker ++ (inner ++ endMarker ++ after) := by
    simp only [List.append_assoc]
  rw [hparts, find?, Text.breakOn?_exchange hstart]
  simp only [hend]

/-- What an update puts between the markers. -/
def inner : Text := "\n\n" ++ ruleList ++ "\n"

theorem content_eq : content = startMarker ++ inner ++ endMarker := by
  simp only [content, inner, List.append_assoc]

/-- It is harmless, as the list is. -/
theorem all_isTame_inner : inner.all CodePoint.isTame = true := by
  have hfeeds : ("\n\n" : Text).all CodePoint.isTame = true := by decide
  have hfeed : ("\n" : Text).all CodePoint.isTame = true := by decide
  rw [inner, List.all_append, List.all_append, hfeeds, all_isTame_ruleList, hfeed, Bool.and_self,
    Bool.and_self]

/-- There is no exclamation mark in it. -/
theorem exclamation_notMem_inner : CodePoint.ofChar '!' ∉ inner := by
  intro h
  have htame := List.all_eq_true.1 all_isTame_inner _ h
  revert htame
  decide

/-- **The zone of an update** is where the zone of the document was. -/
theorem find?_content {t before after : Text} (h : find? t = some (before, after)) :
    find? (before ++ content ++ after) = some (before, after) := by
  have hzone := find?_of_inner h exclamation_notMem_inner
  rw [content_eq]
  simpa only [List.append_assoc] using hzone

/-- The parts of a document and of its update. -/
theorem exists_of_update {t u : Text} (h : update t = some u) :
    ∃ before old after, t = before ++ startMarker ++ old ++ endMarker ++ after ∧
      u = before ++ content ++ after := by
  obtain ⟨⟨before, after⟩, hfind, rfl⟩ := Option.map_eq_some_iff.1 h
  obtain ⟨old, ht, -⟩ := exists_of_find? hfind
  exact ⟨before, old, after, ht, rfl⟩

/-- **A second update changes nothing.** -/
theorem update_update {t u : Text} (h : update t = some u) : update u = some u := by
  obtain ⟨⟨before, after⟩, hfind, rfl⟩ := Option.map_eq_some_iff.1 h
  rw [update, find?_content hfind]
  rfl

end Zone

end RuleList

end HtmlDiagnostics
