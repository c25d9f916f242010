import HtmlDiagnostics.Proofs.Template.Meaning
import HtmlDiagnostics.Proofs.Text.DigitRun

/-! # The arithmetic of shifts

A character placeholder with a shift reads the source where a placeholder without one reads it from
another offset. Only the number counts that the digits of the shift write, not how they write it,
and a place outside the source is outside however far away it is.

* **`Sign.placeFrom`** — the place at a distance from an offset.
* **`render_shift_append`** — a shifted placeholder in front of more text.
* **`render_shift`** — the arithmetic. -/

namespace HtmlDiagnostics.Template

variable {source : Text} {offset : Int}

/-- The place at a distance from an offset, towards the end of the source or towards its start. -/
def Sign.placeFrom (offset : Int) (distance : Nat) : Sign → Int
  | .plus => offset + distance
  | .minus => offset - distance

/-- A shift over a number goes to the place at that distance. -/
theorem reach_of_readDigits (sign : Sign) (run : Text) :
    reach offset (some ⟨sign, run⟩) = sign.placeFrom offset (Text.readDigits run) := by
  cases sign with
  | plus => rfl
  | minus => exact (Int.sub_eq_add_neg).symm

/-- A placeholder without a shift shows the source character at the offset. -/
theorem render_character (source : Text) (offset : Int) :
    render "%c" source offset = .ok (shownAt source offset) := by
  have htokens : tokens "%c" = [.character none] := by decide
  rw [render, htokens, renderTokens_eq]
  simp [Token.excess?, Token.shown, reach]

/-- Outside the source there is nothing to show, on either side. -/
theorem shownAt_eq_nil {place : Int} (h : place < 0 ∨ (source.length : Int) ≤ place) :
    shownAt source place = [] := by
  rw [shownAt, Text.at?_eq_none_iff.2 h]

/-- **A placeholder with a shift** shows the source character at its place in front of what the rest
of the template is rendered to, if the digits of the shift end where the rest begins. -/
theorem render_shift_append (sign : Sign) {run rest : Text} (hne : run ≠ [])
    (hdigits : ∀ c ∈ run, c.isDigit = true) (hlength : run.length ≤ maxShiftDigits)
    (hrest : ∀ c ∈ rest.head?, c.isDigit = false) :
    render ("%c" ++ sign.written :: (run ++ rest)) source offset
      = (render rest source offset).map
          (shownAt source (sign.placeFrom offset (Text.readDigits run)) ++ ·) := by
  have hshift : placeholder? ((Token.character (some ⟨sign, run⟩)).written ++ rest)
      = some (.character (some ⟨sign, run⟩)) := by
    rw [Token.written, List.append_assoc, placeholder?_character,
      shift?_written_append hne hdigits hrest]
  have htokens := tokens_written_append hshift
  have hexcess : (Token.character (some ⟨sign, run⟩)).excess? = none :=
    if_neg (Nat.not_lt.2 hlength)
  have htemplate : ("%c" ++ sign.written :: (run ++ rest) : Text)
      = (Token.character (some ⟨sign, run⟩)).written ++ rest := by
    simp [Token.written, Shift.written]
  rw [htemplate, render, htokens, renderTokens, Token.render_eq, hexcess, ← reach_of_readDigits]
  rfl

/-- **The arithmetic of shifts.** Take a number and any way to write it with decimal digits: of any
scripts, with any zeros in front, up to the number of digits that is allowed. A placeholder with that
shift, towards either end, shows what a placeholder without a shift shows at the offset that is so
much greater or smaller, and what follows it is rendered at the offset as it is. If that fails, the
whole fails in the same way. So nothing is shown for a place in front of the source or behind it,
and every other way to write the number gives the same. -/
theorem render_shift {run : Text} {distance : Nat} (writes : run.Writes distance)
    (allowed : run.length ≤ 4300) {rest : Text}
    (ends : ∀ c ∈ rest.head?, ∀ n, ¬ c.IsDigitOf n) (source : Text) (offset : Int) (sign : Sign) :
    let template (run : Text) : Text := "%c" ++ sign.written :: (run ++ rest)
    let place := sign.placeFrom offset distance
    (render (template run) source offset = do
      let shown ← render "%c" source place
      let more ← render rest source offset
      return shown ++ more) ∧
    (place < 0 ∨ (source.length : Int) ≤ place →
      render (template run) source offset = render rest source offset) ∧
    ∀ other : Text, other.Writes distance → other.length ≤ 4300 →
      render (template other) source offset = render (template run) source offset := by
  intro template place
  -- every way to write the number leads to the same place
  have hmain : ∀ run : Text, run.Writes distance → run.length ≤ 4300 →
      render (template run) source offset
        = (render rest source offset).map (shownAt source place ++ ·) := by
    intro run hwrites hlength
    obtain ⟨hne, hdigits, hread⟩ := Text.writes_iff.1 hwrites
    have hrest : ∀ c ∈ rest.head?, c.isDigit = false := by
      intro c hc
      apply Bool.eq_false_iff.2
      intro hdigit
      obtain ⟨n, hn⟩ := CodePoint.isDigit_iff.1 hdigit
      exact ends c hc n hn
    show render ("%c" ++ sign.written :: (run ++ rest)) source offset = _
    rw [render_shift_append sign hne hdigits hlength hrest, hread]
  refine ⟨?_, ?_, ?_⟩
  · rw [hmain run writes allowed, render_character]
    cases render rest source offset <;> rfl
  · intro houtside
    rw [hmain run writes allowed, shownAt_eq_nil houtside]
    cases render rest source offset <;> rfl
  · intro other hother hlength
    rw [hmain other hother hlength, hmain run writes allowed]

/-- Twelve places back, written with digits of three scripts and a zero in front, there is a
backtick, and the placeholder behind it reads outside the source. -/
theorem render_shift_of_scripts :
    let run : Text := [⟨0x660, by decide⟩, CodePoint.ofChar '1', ⟨0xFF12, by decide⟩]
    run.Writes 12 ∧ render ("%c" ++ Sign.minus.written :: (run ++ "|%c")) "a\x60b" 13
      = .ok "\x60 \x60 \x60|" := by
  intro run
  have hwrites : run.Writes 12 := Text.writes_iff.2 (by decide)
  have hlength : run.length ≤ 4300 := by decide
  have hends : ∀ c ∈ ("|%c" : Text).head?, ∀ n, ¬ c.IsDigitOf n := by
    intro c hc n hn
    obtain rfl : CodePoint.ofChar '|' = c := Option.some.inj hc
    have hnone : (CodePoint.ofChar '|').digitValue? = none := by decide
    rw [CodePoint.digitValue?_eq_some_iff.2 hn] at hnone
    simp at hnone
  refine ⟨hwrites, ?_⟩
  rw [(render_shift hwrites hlength hends "a\x60b" 13 .minus).1]
  rfl

end HtmlDiagnostics.Template
