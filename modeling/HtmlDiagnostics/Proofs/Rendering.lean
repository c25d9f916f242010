import HtmlDiagnostics.Diagnostic.Build
import HtmlDiagnostics.Template.Lemmas

/-! # The templates of the rules can always be rendered

A template fails only over a shift with more than `maxShiftDigits` digits. A shift stands in its
template with all its digits, so a template that is not longer than that bound cannot fail,
whatever the source and the offset are. All templates of the rules are far shorter.

* **`rendered`** — a rendered template as a plain text.
* **`render_eq_ok`** — short templates are always rendered.
* **`render_ruleOf`** — so are both templates of every code, known or not. -/

namespace HtmlDiagnostics

namespace Template

/-- The template with its placeholders replaced, empty if it cannot be rendered. -/
def rendered (template source : Text) (offset : Int) : Text :=
  match render template source offset with
  | .ok text => text
  | .error _ => []

/-- A token takes no more room than the template it stands in. -/
theorem length_written_le {template : Text} {token : Token} (h : token ∈ tokens template) :
    token.written.length ≤ template.length := by
  have hsub : token.written.Sublist ((tokens template).flatMap Token.written) := by
    rw [List.flatMap_def]
    exact List.sublist_flatten_of_mem (List.mem_map_of_mem h)
  rw [flatMap_written_tokens] at hsub
  exact hsub.length_le

/-- A token that is written in few code points can be rendered. -/
theorem Token.exists_render_eq_ok (source : Text) (offset : Int) {token : Token}
    (h : token.written.length ≤ maxShiftDigits) :
    ∃ text, token.render source offset = .ok text := by
  cases token with
  | literal text => exact ⟨text, rfl⟩
  | codePoint => exact ⟨hexAt source offset, rfl⟩
  | character shift =>
    cases shift with
    | none => exact ⟨shownAt source offset, rfl⟩
    | some shift =>
      -- the sign, the letter and the percent mark only add to the digits
      have hdigits : ¬ maxShiftDigits < shift.digits.length := by
        simp only [Token.written, Shift.written, List.length_append, List.length_cons] at h
        omega
      exact ⟨shownAt source (offset + shift.distance), if_neg hdigits⟩

/-- Tokens that can be rendered one by one can be rendered together. -/
theorem exists_renderTokens_eq_ok {source : Text} {offset : Int} {ts : List Token}
    (h : ∀ token ∈ ts, ∃ text, token.render source offset = .ok text) :
    ∃ text, renderTokens source offset ts = .ok text := by
  induction ts with
  | nil => exact ⟨[], rfl⟩
  | cons token rest ih =>
    obtain ⟨text, htext⟩ := h token List.mem_cons_self
    obtain ⟨more, hmore⟩ := ih fun t ht => h t (List.mem_cons_of_mem token ht)
    refine ⟨text ++ more, ?_⟩
    rw [renderTokens, htext, hmore]
    rfl

/-- **A template within the bound for shifts can always be rendered.** -/
theorem render_eq_ok {template : Text} (h : template.length ≤ maxShiftDigits) (source : Text)
    (offset : Int) : render template source offset = .ok (rendered template source offset) := by
  have hok : ∃ text, render template source offset = .ok text :=
    exists_renderTokens_eq_ok fun token ht =>
      Token.exists_render_eq_ok source offset (Nat.le_trans (length_written_le ht) h)
  obtain ⟨text, htext⟩ := hok
  rw [rendered, htext]

end Template

/-! ## The rules -/

/-- The templates of the known rules are within the bound. -/
theorem length_knownRuleEntries_le : ∀ entry ∈ knownRuleEntries,
    entry.2.reason.length ≤ Template.maxShiftDigits ∧
      entry.2.explanation.length ≤ Template.maxShiftDigits := by
  decide +kernel

/-- A code has the rule of a known key, or the stand-in. -/
theorem ruleOf_eq_unknown_or_mem (code : Text) :
    ruleOf code = Rule.unknown ∨ (camelCase code, ruleOf code) ∈ knownRuleEntries := by
  rw [ruleOf]
  cases h : knownRules.get? (camelCase code) with
  | none => exact .inl rfl
  | some rule => exact .inr (OrderedMap.mem_entries_of_get? h)

/-- **Both templates of every code can be rendered**, over any source and at any offset. -/
theorem render_ruleOf (code source : Text) (offset : Int) :
    Template.render (ruleOf code).reason source offset
        = .ok (Template.rendered (ruleOf code).reason source offset) ∧
      Template.render (ruleOf code).explanation source offset
        = .ok (Template.rendered (ruleOf code).explanation source offset) := by
  rcases ruleOf_eq_unknown_or_mem code with h | h
  · -- the templates of the stand-in are empty
    rw [h]
    exact ⟨rfl, rfl⟩
  · obtain ⟨hreason, hexplanation⟩ := length_knownRuleEntries_le _ h
    exact ⟨Template.render_eq_ok hreason source offset,
      Template.render_eq_ok hexplanation source offset⟩

end HtmlDiagnostics
