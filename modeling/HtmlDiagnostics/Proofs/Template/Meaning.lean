import HtmlDiagnostics.Proofs.Template.Tokens
import HtmlDiagnostics.Proofs.Text.Numeral

/-! # What a template is rendered to

Every token stands for a text of its own, which depends on the source and the offset and on no
other token. Rendering a template puts these texts one after the other, so what a placeholder reads
is never taken for a part of the template. The one obstacle is a shift with too many digits.

* **`Token.Shows`** — the text that a token stands for.
* **`Token.shows_iff`** — every token stands for one text.
* **`Token.excess?`** — how many digits a shift has that has too many.
* **`renderTokens_eq`** — what tokens are rendered to.
* **`render_token_by_token`** — a template is cut in one way, and rendered token by token. -/

namespace HtmlDiagnostics.Template

variable {source : Text} {offset : Int}

/-! ## The text of a token -/

/-- The place that a character placeholder reads. -/
def reach (offset : Int) : Option Shift → Int
  | none => offset
  | some shift => offset + shift.distance

/-- The text that a token stands for. -/
inductive Token.Shows (source : Text) (offset : Int) : Token → Text → Prop
  /-- A literal stands for itself. -/
  | literal (text : Text) : Shows source offset (.literal text) text
  /-- A source character stands for itself. -/
  | character {shift : Option Shift} {c : CodePoint}
      (reads : Text.at? source (reach offset shift) = some c) (other : c ≠ CodePoint.backtick) :
      Shows source offset (.character shift) [c]
  /-- A backtick is shown in a code span of its own. -/
  | backtick {shift : Option Shift}
      (reads : Text.at? source (reach offset shift) = some CodePoint.backtick) :
      Shows source offset (.character shift) "\x60 \x60 \x60"
  /-- There is no source character in front of the source or behind it. -/
  | noCharacter {shift : Option Shift}
      (outside : reach offset shift < 0 ∨ (source.length : Int) ≤ reach offset shift) :
      Shows source offset (.character shift) []
  /-- A code point is shown by its number. -/
  | codePoint {c : CodePoint} {numeral : Text} (reads : Text.at? source offset = some c)
      (number : Text.IsUpperHex numeral c.val) : Shows source offset .codePoint ("0x" ++ numeral)
  /-- There is no code point in front of the source or behind it. -/
  | noCodePoint (outside : offset < 0 ∨ (source.length : Int) ≤ offset) :
      Shows source offset .codePoint []

/-- The text that a token is replaced by. -/
def Token.shown (source : Text) (offset : Int) : Token → Text
  | .literal text => text
  | .character shift => shownAt source (reach offset shift)
  | .codePoint => hexAt source offset

/-- What a character placeholder is replaced by. -/
theorem Token.shows_character_iff {shift : Option Shift} {text : Text} :
    Token.Shows source offset (.character shift) text
      ↔ text = shownAt source (reach offset shift) := by
  rw [shownAt]
  constructor
  · intro h
    cases h with
    | character reads other => simp only [reads, if_neg other]
    | backtick reads => simp only [reads, if_true, backtickShown]
    | noCharacter outside => simp only [Text.at?_eq_none_iff.2 outside]
  · cases hread : Text.at? source (reach offset shift) with
    | none =>
      rintro rfl
      exact .noCharacter (Text.at?_eq_none_iff.1 hread)
    | some c =>
      rintro rfl
      simp only
      split
      · rename_i hc
        exact .backtick (hc ▸ hread)
      · rename_i hc
        exact .character hread hc

/-- What a code point placeholder is replaced by. -/
theorem Token.shows_codePoint_iff {text : Text} :
    Token.Shows source offset .codePoint text ↔ text = hexAt source offset := by
  rw [hexAt]
  constructor
  · intro h
    cases h with
    | codePoint reads number => simp only [reads, Text.isUpperHex_iff.1 number]
    | noCodePoint outside => simp only [Text.at?_eq_none_iff.2 outside]
  · cases hread : Text.at? source offset with
    | none =>
      rintro rfl
      exact .noCodePoint (Text.at?_eq_none_iff.1 hread)
    | some c =>
      rintro rfl
      exact .codePoint hread (Text.isUpperHex_iff.2 rfl)

/-- **Every token stands for one text.** -/
theorem Token.shows_iff {token : Token} {text : Text} :
    token.Shows source offset text ↔ text = token.shown source offset := by
  cases token with
  | character shift => exact shows_character_iff
  | codePoint => exact shows_codePoint_iff
  | literal own =>
    constructor
    · rintro ⟨⟩
      rfl
    · rintro rfl
      exact .literal _

/-- So do the tokens of a sequence, one by one. -/
theorem forall₂_shows_iff {ts : List Token} {pieces : List Text} :
    List.Forall₂ (Token.Shows source offset) ts pieces ↔ pieces = ts.map (Token.shown source offset)
    := by
  induction ts generalizing pieces with
  | nil => rw [List.forall₂_nil_left_iff, List.map_nil]
  | cons token ts ih =>
    rw [List.map_cons, List.forall₂_cons_left_iff]
    constructor
    · rintro ⟨piece, rest, hpiece, hrest, rfl⟩
      rw [Token.shows_iff.1 hpiece, ih.1 hrest]
    · rintro rfl
      exact ⟨_, _, Token.shows_iff.2 rfl, ih.2 rfl, rfl⟩

/-! ## Rendering -/

/-- How many digits a shift has, if it has too many. -/
def Token.excess? : Token → Option Nat
  | .character (some shift) =>
    if maxShiftDigits < shift.digits.length then some shift.digits.length else none
  | _ => none

/-- A token is replaced by its text unless its shift has too many digits. -/
theorem Token.render_eq (token : Token) : token.render source offset =
    match token.excess? with
    | none => .ok (token.shown source offset)
    | some count => .error (.tooManyDigits count) := by
  cases token with
  | literal text => rfl
  | codePoint => rfl
  | character shift =>
    cases shift with
    | none => rfl
    | some shift =>
      rw [render, excess?]
      split <;> rfl

/-- **Tokens are replaced by their texts**, unless the shift of one of them has too many digits. The
first one that has decides what the failure says. -/
theorem renderTokens_eq (ts : List Token) : renderTokens source offset ts =
    match ts.findSome? Token.excess? with
    | none => .ok (ts.map (Token.shown source offset)).flatten
    | some count => .error (.tooManyDigits count) := by
  induction ts with
  | nil => rfl
  | cons token ts ih =>
    rw [renderTokens, Token.render_eq, List.findSome?_cons]
    cases token.excess? with
    | some count => rfl
    | none =>
      simp only [ih]
      cases ts.findSome? Token.excess? <;> rfl

/-- **A template is cut in one way, and rendered token by token.** Every template is the written
form of exactly one admissible sequence of tokens. Each of these stands for one text over a source
and an offset, and rendering gives these texts one after the other; what they read in the source is
not looked at again. Rendering fails if a shift has more digits than allowed, over the first such
shift. -/
theorem render_token_by_token (template : Text) :
    ∃ ts, (∀ other, Admissible other ∧ other.flatMap Token.written = template ↔ other = ts) ∧
      ∀ (source : Text) (offset : Int), ∃ pieces,
        (∀ other, List.Forall₂ (Token.Shows source offset) ts other ↔ other = pieces) ∧
        render template source offset =
          match ts.findSome? Token.excess? with
          | none => .ok pieces.flatten
          | some count => .error (.tooManyDigits count) := by
  refine ⟨tokens template, fun other => admissible_and_written_iff, fun source offset => ?_⟩
  refine ⟨(tokens template).map (Token.shown source offset), fun other => forall₂_shows_iff, ?_⟩
  rw [render, renderTokens_eq]

/-! ## Shifts with many digits -/

/-- The shift over no distance that is written with so many zeros. -/
def Shift.ofZeros (n : Nat) : Shift := ⟨.plus, List.replicate n (CodePoint.ofChar '0')⟩

/-- It is over no distance, however many zeros there are. -/
theorem Shift.distance_ofZeros (n : Nat) : (Shift.ofZeros n).distance = 0 := by
  have hzero : (CodePoint.ofChar '0').digitValue? = some 0 := by decide
  have hread : Text.readDigits (List.replicate n (CodePoint.ofChar '0')) = 0 := by
    induction n with
    | zero => rfl
    | succ n ih => rw [List.replicate_succ', Text.readDigits_concat, ih, hzero]; rfl
  simp only [distance, ofZeros, hread]
  rfl

/-- Its placeholder is found again if there are any. -/
theorem admissible_ofZeros {n : Nat} (hn : n ≠ 0) :
    Admissible [.character (some (.ofZeros n))] := by
  have hdigit : (CodePoint.ofChar '0').isDigit = true := by decide
  refine ⟨fun token htoken => ?_, .singleton _⟩
  rw [List.mem_singleton.1 htoken]
  refine ⟨fun hnil => hn ((List.replicate_eq_nil_iff _).1 hnil), fun c hc => ?_⟩
  rw [List.eq_of_mem_replicate hc]
  exact hdigit

/-- **Not every template is rendered to the texts of its tokens**: over a single character and at
its offset, the placeholder of a shift over no distance stands for that character, but with one zero
more than allowed it cannot be rendered. -/
theorem render_ne_of_zeros :
    Admissible [.character (some (.ofZeros 4301))] ∧
      List.Forall₂ (Token.Shows "a" 0) [.character (some (.ofZeros 4301))] ["a"] ∧
      render ("%c" ++ (Shift.ofZeros 4301).written) "a" 0 ≠ .ok "a" := by
  have hadmissible : Admissible [.character (some (.ofZeros 4301))] :=
    admissible_ofZeros (Nat.succ_ne_zero 4300)
  have hshows : Token.Shows "a" 0 (.character (some (.ofZeros 4301))) "a" := by
    rw [Token.shows_character_iff, reach, Shift.distance_ofZeros]
    decide
  have htokens : tokens ("%c" ++ (Shift.ofZeros 4301).written)
      = [.character (some (.ofZeros 4301))] :=
    (admissible_and_written_iff.1 ⟨hadmissible, List.flatMap_singleton _ _⟩).symm
  refine ⟨hadmissible, .cons hshows .nil, ?_⟩
  have hmany : maxShiftDigits < (Shift.ofZeros 4301).digits.length := by
    rw [Shift.ofZeros, List.length_replicate]
    decide
  rw [render, htokens, renderTokens, Token.render, if_pos hmany]
  intro hok
  cases hok

end HtmlDiagnostics.Template
