import HtmlDiagnostics.Proofs.Rendering

/-! # What a template reads of the source

A placeholder reads the source at one place, which is given by its distance from the offset. So a
rendered template depends on the code points at these places and on nothing else of the source.

* **`Token.place?`** — how far from the offset a token reads the source, if it reads it.
* **`Agree`** — two sources look the same to some tokens, each from an offset of its own.
* **`render_eq_of_agree`** — then a template is rendered the same over both.
* **`place?_of_mem_rule`** — the templates of the rules read at the offset and right before it. -/

namespace HtmlDiagnostics

namespace Template

/-! ## Places -/

/-- How far from the offset a token reads the source. Literals read nothing. -/
def Token.place? : Token → Option Int
  | .literal _ => none
  | .character none => some 0
  | .character (some shift) => some shift.distance
  | .codePoint => some 0

/-- Two sources look the same to some tokens: at each place that one of them reads stands the same
code point, or none, in both. -/
def Agree (ts : List Token) (source : Text) (offset : Int) (source' : Text) (offset' : Int) :
    Prop :=
  ∀ token ∈ ts, ∀ place, token.place? = some place →
    Text.at? source (offset + place) = Text.at? source' (offset' + place)

variable {source source' : Text} {offset offset' : Int}

/-! ## Rendering -/

/-- What is shown for a source character depends on that character. -/
theorem shownAt_congr {i i' : Int} (h : Text.at? source i = Text.at? source' i') :
    shownAt source i = shownAt source' i' := by
  rw [shownAt, shownAt, h]

/-- The hexadecimal code point at an offset depends on that code point. -/
theorem hexAt_congr {i i' : Int} (h : Text.at? source i = Text.at? source' i') :
    hexAt source i = hexAt source' i' := by
  rw [hexAt, hexAt, h]

/-- A token is rendered the same where it reads the same. -/
theorem Token.render_congr {token : Token}
    (h : ∀ place, token.place? = some place →
      Text.at? source (offset + place) = Text.at? source' (offset' + place)) :
    token.render source offset = token.render source' offset' := by
  cases token with
  | literal text => rfl
  | codePoint =>
    have h₀ := h 0 rfl
    rw [Int.add_zero, Int.add_zero] at h₀
    rw [render, render, hexAt_congr h₀]
  | character shift =>
    cases shift with
    | none =>
      have h₀ := h 0 rfl
      rw [Int.add_zero, Int.add_zero] at h₀
      rw [render, render, shownAt_congr h₀]
    | some shift => rw [render, render, shownAt_congr (h shift.distance rfl)]

/-- Tokens are rendered the same over sources that look the same to them. -/
theorem renderTokens_eq_of_agree {ts : List Token} (h : Agree ts source offset source' offset') :
    renderTokens source offset ts = renderTokens source' offset' ts := by
  induction ts with
  | nil => rfl
  | cons token rest ih =>
    have hrest : Agree rest source offset source' offset' :=
      fun t ht => h t (List.mem_cons_of_mem token ht)
    rw [renderTokens, renderTokens, Token.render_congr (h token List.mem_cons_self), ih hrest]

/-- **A template is rendered the same over sources that look the same to its tokens.** -/
theorem render_eq_of_agree {template : Text}
    (h : Agree (tokens template) source offset source' offset') :
    render template source offset = render template source' offset' :=
  renderTokens_eq_of_agree h

/-- The same for a rendered template as a plain text. -/
theorem rendered_eq_of_agree {template : Text}
    (h : Agree (tokens template) source offset source' offset') :
    rendered template source offset = rendered template source' offset' := by
  rw [rendered, rendered, render_eq_of_agree h]

end Template

/-! ## The places that rules read -/

/-- Whether a token reads nothing, or the source at the offset or right before it. -/
def Template.Token.isNear (token : Template.Token) : Bool :=
  token.place? = none || token.place? = some 0 || token.place? = some (-1)

/-- The templates of the known rules read at the offset and right before it. -/
theorem isNear_of_mem_knownRuleEntries : ∀ entry ∈ knownRuleEntries,
    (Template.tokens entry.2.reason).all Template.Token.isNear ∧
      (Template.tokens entry.2.explanation).all Template.Token.isNear := by
  decide +kernel

/-- **The templates of every code read at the offset and right before it**, if they read anything. -/
theorem place?_of_mem_rule (code : Text) {token : Template.Token}
    (h : token ∈ Template.tokens (ruleOf code).reason ∨
      token ∈ Template.tokens (ruleOf code).explanation) {place : Int}
    (hplace : token.place? = some place) : place = 0 ∨ place = -1 := by
  have hnear : token.isNear = true := by
    rcases ruleOf_eq_unknown_or_mem code with hrule | hrule
    · -- the templates of the stand-in have no tokens
      rw [hrule] at h
      rcases h with h | h <;> cases h
    · obtain ⟨hreason, hexplanation⟩ := isNear_of_mem_knownRuleEntries _ hrule
      rcases h with h | h
      · exact List.all_eq_true.1 hreason token h
      · exact List.all_eq_true.1 hexplanation token h
  simpa [Template.Token.isNear, hplace] using hnear

end HtmlDiagnostics
