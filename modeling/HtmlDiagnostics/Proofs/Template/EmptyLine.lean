import HtmlDiagnostics.Proofs.Template.Splitting
import HtmlDiagnostics.Proofs.Text.EmptyLine
import HtmlDiagnostics.Proofs.Text.Numeral

/-! # No empty lines in rendered templates

A source character is put into a template as it is, so it brings a line feed in if it is one. A
second line feed next to it could only come from the template or from another placeholder. In the
templates of the rules neither is there: they have no line feeds of their own, and behind every
placeholder text of the template goes on.

* **`Token.notMem_or_singleton_of_render`** — what stands in the place of a token.
* **`isGuarded`** — tokens among which every placeholder is followed by text.
* **`unbroken_of_isGuarded`** — what is rendered from such tokens has no empty lines.
* **`unbroken_rendered_of_rule`** — so have the texts of every code. -/

namespace HtmlDiagnostics

namespace Template

open Newline (lineFeed)

variable {source : Text} {offset : Int}

/-! ## Placeholders -/

/-- What a source character is shown as has line feeds only if it is one itself. -/
theorem notMem_or_singleton_shownAt (source : Text) (offset : Int) :
    lineFeed ∉ shownAt source offset ∨ ∃ c, shownAt source offset = [c] := by
  rw [shownAt]
  cases Text.at? source offset with
  | none => exact .inl List.not_mem_nil
  | some c =>
    simp only
    split
    · exact .inl (by decide)
    · exact .inr ⟨c, rfl⟩

/-- The number of a code point is shown without line feeds. -/
theorem lineFeed_notMem_hexAt (source : Text) (offset : Int) : lineFeed ∉ hexAt source offset := by
  rw [hexAt]
  cases Text.at? source offset with
  | none => exact List.not_mem_nil
  | some c =>
    intro h
    rcases List.mem_append.1 h with h | h
    · revert h
      decide
    · have hdigit := Text.isUpperHexDigit_of_mem_upperHex c.val _ h
      revert hdigit
      decide

/-- **A placeholder brings in at most one line feed**, and nothing else beside it. -/
theorem Token.notMem_or_singleton_of_render {token : Token} {text : Text}
    (hplace : token.place?.isSome) (h : token.render source offset = .ok text) :
    lineFeed ∉ text ∨ ∃ c, text = [c] := by
  cases token with
  | literal text => cases hplace
  | codePoint =>
    obtain rfl := Except.ok.inj h
    exact .inl (lineFeed_notMem_hexAt source offset)
  | character shift =>
    cases shift with
    | none =>
      obtain rfl := Except.ok.inj h
      exact notMem_or_singleton_shownAt source offset
    | some shift =>
      rw [render] at h
      split at h
      · cases h
      · obtain rfl := Except.ok.inj h
        exact notMem_or_singleton_shownAt source _

/-! ## Guarded tokens -/

/-- Whether no literal has a line feed, and every placeholder has a literal behind it. -/
def isGuarded : List Token → Bool
  | [] => true
  | .literal text :: rest => !text.contains lineFeed && isGuarded rest
  | _ :: .literal text :: rest => text ≠ [] && !text.contains lineFeed && isGuarded rest
  | _ => false

/-- **Guarded tokens are rendered without empty lines**, over any source and at any offset. -/
theorem unbroken_of_isGuarded {ts : List Token} (h : isGuarded ts = true) {text : Text}
    (hrender : renderTokens source offset ts = .ok text) : text.Unbroken := by
  have hcontains : ∀ {t : Text}, (!t.contains lineFeed) = true → lineFeed ∉ t := by
    intro t ht hmem
    rw [List.contains_iff_mem.2 hmem] at ht
    cases ht
  fun_induction isGuarded ts generalizing text with
  | case1 =>
    obtain rfl := Except.ok.inj hrender
    exact Text.unbroken_of_notMem List.not_mem_nil
  | case2 literal rest ih =>
    rw [Bool.and_eq_true] at h
    obtain ⟨_, more, hfirst, hmore, rfl⟩ := renderTokens_cons_eq_ok_iff.1 hrender
    obtain rfl := Except.ok.inj hfirst
    exact (Text.unbroken_of_notMem (hcontains h.1)).append (ih h.2 hmore)
  | case3 token literal rest hplaceholder ih =>
    simp only [Bool.and_eq_true, decide_eq_true_eq] at h
    obtain ⟨⟨hne, hfree⟩, hguarded⟩ := h
    have hfree := hcontains hfree
    obtain ⟨first, _, hfirst, hnext, rfl⟩ := renderTokens_cons_eq_ok_iff.1 hrender
    obtain ⟨_, more, hliteral, hmore, rfl⟩ := renderTokens_cons_eq_ok_iff.1 hnext
    obtain rfl := Except.ok.inj hliteral
    have hplace : token.place?.isSome := by
      cases token with
      | literal text => exact absurd rfl (hplaceholder text)
      | character shift => cases shift <;> rfl
      | codePoint => rfl
    -- the literal keeps a line feed in front of it apart from what follows
    have hback := (Text.unbroken_of_notMem hfree).append (ih hguarded hmore)
    refine Text.Unbroken.append_of_short (token.notMem_or_singleton_of_render hplace hfirst)
      hback ?_
    obtain ⟨a, literal, rfl⟩ := List.exists_cons_of_ne_nil hne
    exact ⟨a, rfl, fun ha => hfree (ha ▸ List.mem_cons_self)⟩
  | case4 => cases h

end Template

/-! ## The rules -/

/-- The templates of the known rules are guarded. -/
theorem isGuarded_of_mem_knownRuleEntries : ∀ entry ∈ knownRuleEntries,
    Template.isGuarded (Template.tokens entry.2.reason) ∧
      Template.isGuarded (Template.tokens entry.2.explanation) := by
  decide +kernel

/-- **The texts of every code have no empty lines**, over any source and at any offset. -/
theorem unbroken_rendered_of_rule (code source : Text) (offset : Int) :
    (Template.rendered (ruleOf code).reason source offset).Unbroken ∧
      (Template.rendered (ruleOf code).explanation source offset).Unbroken := by
  obtain ⟨hreason, hexplanation⟩ := render_ruleOf code source offset
  have hguarded : Template.isGuarded (Template.tokens (ruleOf code).reason) = true ∧
      Template.isGuarded (Template.tokens (ruleOf code).explanation) = true := by
    rcases ruleOf_eq_unknown_or_mem code with h | h
    · -- the templates of the stand-in have no tokens
      rw [h]
      exact ⟨rfl, rfl⟩
    · exact isGuarded_of_mem_knownRuleEntries _ h
  exact ⟨Template.unbroken_of_isGuarded hguarded.1 hreason,
    Template.unbroken_of_isGuarded hguarded.2 hexplanation⟩

end HtmlDiagnostics
