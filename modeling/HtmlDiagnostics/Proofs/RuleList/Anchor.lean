import HtmlDiagnostics.Proofs.Building
import HtmlDiagnostics.Proofs.Rule.Name
import HtmlDiagnostics.RuleList.Markdown

/-! # The list and the diagnostics point to the same anchor

A diagnostic takes its link from the code as the parser wrote it, the list of rules takes it from
the code that it makes of the key. Both have a link for the same rules. The links, and the name of
the example, are the same as long as the code is found again from its key, and that is if it has no
capitals.

* **`KeyLinksTo`**, **`ExampleLiesIn`** — what an item of the list says about its rule.
* **`keyLinksTo_iff`**, **`exampleLiesIn_iff`** — an item says it once, if at all.
* **`build_url_of_item`** — the link of a diagnostic beside the item of its rule. -/

namespace HtmlDiagnostics

/-- Two codes with the same anchor are the same. -/
theorem anchorUrl_injective {code other : Text} (h : anchorUrl code = anchorUrl other) :
    code = other :=
  List.append_cancel_left h

/-- Two codes with the same example are the same. -/
theorem exampleUrl_injective {repository code other : Text}
    (h : exampleUrl repository code = exampleUrl repository other) : code = other := by
  simp only [exampleUrl, List.append_assoc, List.append_cancel_left_eq] at h
  exact List.append_cancel_right h

namespace RuleList

/-! ## What an item says -/

/-- Two links with the same label and different targets are different. -/
theorem link_injective {label target other : Text} (h : link label target = link label other) :
    target = other := by
  simp only [link, List.append_assoc, List.append_cancel_left_eq] at h
  exact List.append_cancel_right h

/-- The item of a rule has the key in a link to a target. -/
def KeyLinksTo (repository key : Text) (rule : Rule) (target : Text) : Prop :=
  item repository key rule
    = "* " ++ link (inlineCode key) target ++ " — " ++ Text.lowerFirst rule.reason
      ++ example? repository key

/-- The item of a rule ends in a link to an example in a directory. -/
def ExampleLiesIn (repository key : Text) (rule : Rule) (directory : Text) : Prop :=
  item repository key rule
    = "* " ++ heading key rule ++ " — " ++ Text.lowerFirst rule.reason
      ++ (" (" ++ link "example" (exampleUrl repository directory) ++ ")")

/-- Inline code does not start like a link. -/
theorem inlineCode_append_ne_link (key target rest rest' : Text) :
    inlineCode key ++ rest ≠ link (inlineCode key) target ++ rest' := by
  intro h
  have hhead := congrArg List.head? h
  revert hhead
  exact (by decide : some (CodePoint.ofChar '\x60') ≠ some (CodePoint.ofChar '['))

/-- **The key is in a link exactly if the rule has an anchor**, and then the link leads to the
anchor of the code that is made of the key. -/
theorem keyLinksTo_iff {repository key target : Text} {rule : Rule} :
    KeyLinksTo repository key rule target ↔
      rule.hasAnchor = true ∧ target = anchorUrl (hyphenCase key) := by
  rw [KeyLinksTo, item, heading]
  cases rule.hasAnchor with
  | true =>
    simp only [if_true, List.append_assoc, List.append_cancel_left_eq, true_and]
    constructor
    · intro h
      exact (link_injective (List.append_cancel_right h)).symm
    · rintro rfl
      rfl
  | false =>
    refine iff_of_false ?_ (by simp)
    simp only [Bool.false_eq_true, if_false, List.append_assoc, List.append_cancel_left_eq]
    exact inlineCode_append_ne_link key target _ _

/-- **There is an example unless the rule is one of those without**, and then it lies in the
directory with the name that is made of the key. -/
theorem exampleLiesIn_iff {repository key directory : Text} {rule : Rule} :
    ExampleLiesIn repository key rule directory ↔
      key ∉ withoutExample ∧ directory = hyphenCase key := by
  rw [ExampleLiesIn, item, List.append_cancel_left_eq, example?]
  split
  · rename_i hwithout
    refine iff_of_false ?_ fun h => h.1 hwithout
    exact List.cons_ne_nil _ _ ∘ Eq.symm
  · rename_i hwith
    constructor
    · intro h
      simp only [List.append_assoc, List.append_cancel_left_eq] at h
      exact ⟨hwith, (exampleUrl_injective (link_injective (List.append_cancel_right h))).symm⟩
    · rintro ⟨-, rfl⟩
      rfl

end RuleList

namespace ParseContext

open RuleList (KeyLinksTo ExampleLiesIn withoutExample)

/-- **The link of a diagnostic and the item of its rule.** Take any code, and a diagnostic that is
built for an event with that code. It has a link exactly if the item of its rule has the key in a
link, and the two lead to the same place exactly if the code has no capitals. The item has an
example unless the rule is one of those without, and the example lies in the directory named like
the code under the same condition. -/
theorem build_url_of_item {context : ParseContext} {e : Event} {d : Diagnostic}
    (built : context.build e = .ok (some d)) (repository : Text) :
    let key := camelCase e.code
    let rule := ruleOf e.code
    ((∃ url, d.url = some url) ↔ ∃ target, KeyLinksTo repository key rule target) ∧
    (∀ url target, d.url = some url → KeyLinksTo repository key rule target →
      (url = target ↔ ∀ c ∈ e.code, c.isAsciiUpper = false)) ∧
    ((∃ directory, ExampleLiesIn repository key rule directory) ↔ key ∉ withoutExample) ∧
    (∀ directory, ExampleLiesIn repository key rule directory →
      (directory = e.code ↔ ∀ c ∈ e.code, c.isAsciiUpper = false)) := by
  intro key rule
  obtain ⟨fatal, rfl⟩ := eq_described_of_build built
  have hurl : (context.described e fatal).url
      = if rule.hasAnchor then some (anchorUrl e.code) else none := rfl
  refine ⟨?_, ?_, ?_, ?_⟩
  · simp only [hurl, RuleList.keyLinksTo_iff, exists_and_left, exists_eq, and_true]
    cases rule.hasAnchor <;> simp
  · intro url target hd htarget
    obtain ⟨hanchor, rfl⟩ := RuleList.keyLinksTo_iff.1 htarget
    rw [hurl, if_pos hanchor] at hd
    obtain rfl := Option.some.inj hd
    rw [← hyphenCase_camelCase_eq_self_iff]
    constructor
    · intro h
      exact (anchorUrl_injective h).symm
    · intro h
      exact congrArg anchorUrl h.symm
  · simp only [RuleList.exampleLiesIn_iff, exists_and_left, exists_eq, and_true]
  · intro directory hdirectory
    obtain ⟨-, rfl⟩ := RuleList.exampleLiesIn_iff.1 hdirectory
    exact hyphenCase_camelCase_eq_self_iff

/-- A rule by its key instead of its code: the diagnostic has a link, but not that of the list. -/
theorem build_url_of_item_of_capital :
    let context : ParseContext := ⟨"</x/>", .empty, none⟩
    let e : Event := ⟨"endTagWithTrailingSolidus", ⟨⟨1, 5, 4⟩, ⟨1, 5, 4⟩⟩⟩
    ∃ d url, context.build e = .ok (some d) ∧ d.url = some url ∧
      ∀ target, KeyLinksTo exampleRepository (camelCase e.code) (ruleOf e.code) target →
        url ≠ target := by
  intro context e
  have hcapital : ¬∀ c ∈ e.code, c.isAsciiUpper = false := by decide
  have hanchor : (ruleOf e.code).hasAnchor = true := by decide +kernel
  -- nothing is set for the rule, so it is on
  obtain ⟨d, built⟩ : ∃ d, context.build e = .ok (some d) :=
    exists_build_eq_some_iff.2 ⟨nofun, by decide⟩
  obtain ⟨hlink, hsame, -, -⟩ := build_url_of_item built exampleRepository
  obtain ⟨url, hurl⟩ := hlink.2 ⟨_, RuleList.keyLinksTo_iff.2 ⟨hanchor, rfl⟩⟩
  exact ⟨d, url, built, hurl, fun target htarget h =>
    hcapital ((hsame url target hurl htarget).1 h)⟩

end ParseContext

end HtmlDiagnostics
