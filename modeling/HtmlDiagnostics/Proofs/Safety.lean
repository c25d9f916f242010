import HtmlDiagnostics.Proofs.Building

/-! # No step of building can fail

Some steps on the way to a diagnostic are partial: a text has no code point at every index, numbers
with too many digits are neither read nor written, a floating point value may have no whole part,
and only three numbers stand for a severity. Building asks before it takes such a step, but for
writing a line or a column. Here it is spelled out with steps that fail when they are taken out of
place. It comes to the same, so writing is the one step that can fail.

* **`Fault`** — what can go wrong in a step.
* **`Text.get`**, **`Text.readDigitsChecked`**, **`Decimal.whole`**, **`Severity.ofLevel`** — the
  partial steps.
* **`Setting.severityChecked`**, **`Template.renderChecked`**, **`ParseContext.buildChecked`** —
  building with them.
* **`Setting.severityChecked_eq_ok`**, **`Template.renderChecked_eq_mapError`**,
  **`ParseContext.buildChecked_eq_mapError`** — what each part comes to.
* **`build_total`** — building comes to a result, and what can be relied on in it. -/

namespace HtmlDiagnostics

/-! ## Partial steps -/

/-- What can go wrong in a step of building a diagnostic. -/
inductive Fault where
  /-- There is no code point at an index. -/
  | outOfRange (index : Int)
  /-- A number has too many digits to be read. -/
  | tooManyDigits (count : Nat)
  /-- A number cannot be written. -/
  | unwritable (error : WriteError)
  /-- A floating point value is infinite or no number, so it has no whole part. -/
  | notFinite
  /-- A number stands for no severity. -/
  | noSeverity (level : Int)
  deriving DecidableEq

/-- The fault in an error of rendering. -/
def Fault.ofRender : Template.RenderError → Fault
  | .tooManyDigits count => .tooManyDigits count

/-- The fault in an error of building. -/
def Fault.ofBuild : BuildError → Fault
  | .position error => .unwritable error
  | .render error => .ofRender error

/-- The code point at an index. A negative index counts from the end. -/
def Text.get (t : Text) (i : Int) : Except Fault CodePoint :=
  match Text.at? t (if i < 0 then i + t.length else i) with
  | some c => .ok c
  | none => .error (.outOfRange i)

/-- The number that a run of digits spells, unless there are too many of them. -/
def Text.readDigitsChecked (digits : Text) : Except Fault Nat :=
  if maxNumberDigits < digits.length then .error (.tooManyDigits digits.length)
  else .ok (Text.readDigits digits)

/-- The whole part of a floating point value. -/
def Decimal.whole : Decimal → Except Fault Int
  | .finite negative digits exponent =>
    let size : Nat :=
      if 0 ≤ exponent then digits * Nat.pow 10 exponent.toNat
      else digits / Nat.pow 10 (-exponent).toNat
    .ok (if negative then -size else size)
  | _ => .error .notFinite

/-- The severity that a number stands for. -/
def Severity.ofLevel (level : Int) : Except Fault Severity :=
  if level = 0 then .ok .off
  else if level = 1 then .ok .warning
  else if level = 2 then .ok .fatal
  else .error (.noSeverity level)

/-! ## Building with partial steps -/

/-- Whether a value counts as true. -/
def Setting.isTruthy : Setting → Bool
  | .null => false
  | .bool value => value
  | .integer value => value ≠ 0
  | .decimal value => !value.equals 0
  | .text value => !value.isEmpty
  | .list items => !items.isEmpty
  | .object fields => !fields.isEmpty

/-- A rule that is on or off by the truth of its setting. -/
def Severity.ofTruth (value : Bool) : Severity := if value then .warning else .off

/-- The severity that a value stands for: a number that equals 0, 1 or 2 is turned into a whole
number and that into a severity, everything else counts by its truth. -/
def Setting.severityChecked : Setting → Except Fault Severity
  | .null => .ok .warning
  | .integer value =>
    if value = 0 ∨ value = 1 ∨ value = 2 then Severity.ofLevel value
    else .ok (Severity.ofTruth (Setting.integer value).isTruthy)
  | .decimal value =>
    if value.equals 0 ∨ value.equals 1 ∨ value.equals 2 then do
      let level ← value.whole
      Severity.ofLevel level
    else .ok (Severity.ofTruth (Setting.decimal value).isTruthy)
  | setting => .ok (Severity.ofTruth setting.isTruthy)

/-- Whether a diagnostic of this severity is fatal. Nothing is known for a rule that is off. -/
def Severity.fatality : Severity → Option Bool
  | .off => none
  | .warning => some false
  | .fatal => some true

namespace Template

/-- The source character at an offset as a text, empty outside the source. -/
def characterAtChecked (source : Text) (offset : Int) : Except Fault Text :=
  if 0 ≤ offset ∧ offset < source.length then do
    let c ← source.get offset
    return [c]
  else return []

/-- The distance that a shift goes. -/
def Shift.distanceChecked (shift : Shift) : Except Fault Int := do
  let size ← shift.digits.readDigitsChecked
  match shift.sign with
  | .plus => return size
  | .minus => return -size

/-- What stands in the place of a token. -/
def Token.renderChecked (source : Text) (offset : Int) : Token → Except Fault Text
  | .literal text => return text
  | .character shift => do
    let distance ← match shift with
      | none => pure 0
      | some shift => shift.distanceChecked
    let character ← characterAtChecked source (offset + distance)
    return if character = [CodePoint.backtick] then backtickShown else character
  | .codePoint => do
    match ← characterAtChecked source offset with
    | [] => return []
    | c :: _ => return "0x" ++ Text.upperHex c.val

/-- What stands in the place of the tokens, one after the other. -/
def renderTokensChecked (source : Text) (offset : Int) : List Token → Except Fault Text
  | [] => return []
  | token :: rest => do
    let text ← token.renderChecked source offset
    let more ← renderTokensChecked source offset rest
    return text ++ more

/-- The template with its placeholders replaced by what they read in the source. -/
def renderChecked (template source : Text) (offset : Int) : Except Fault Text :=
  renderTokensChecked source offset (tokens template)

end Template

/-- The diagnostic of an event, or nothing if its rule is off. -/
def ParseContext.buildChecked (context : ParseContext) (e : Event) :
    Except Fault (Option Diagnostic) := do
  let severity ← ((context.settings.get? (camelCase e.code)).getD .null).severityChecked
  if severity = .off then return none
  let rule := ruleOf e.code
  let label ← e.span.label.mapError .unwritable
  let reason ← Template.renderChecked rule.reason context.source e.span.start.offset
  let note ← Template.renderChecked rule.explanation context.source e.span.start.offset
  return some
    { ruleId := e.code
      message := reason
      reason := reason
      note := note
      name := diagnosticName context.path label
      line := e.span.start.line
      column := e.span.start.column
      position := e.span
      fatal := severity.fatality
      source := some diagnosticSource
      url := if rule.hasAnchor then some (anchorUrl e.code) else none
      file := knownPath context.path }

/-! ## Severities -/

/-- A floating point value that equals a natural number has that number as its whole part. -/
theorem Decimal.whole_of_equals {d : Decimal} {n : Nat} (h : d.equals n = true) :
    d.whole = .ok (n : Int) := by
  cases d with
  | nan => cases h
  | infinite negative => cases h
  | finite negative digits exponent =>
    rw [equals] at h
    by_cases hzero : digits = 0
    · -- both zeros have the whole part zero
      rw [if_pos hzero, beq_iff_eq] at h
      simp [whole, hzero, h]
    · rw [if_neg hzero, Bool.and_eq_true, Bool.not_eq_true'] at h
      obtain ⟨rfl, h⟩ := h
      simp only [whole, Bool.false_eq_true, if_false, Except.ok.injEq]
      by_cases hexp : 0 ≤ exponent
      · rw [if_pos hexp, beq_iff_eq] at h
        rw [if_pos hexp, h]
      · rw [if_neg hexp, beq_iff_eq] at h
        have hpow : 0 < Nat.pow 10 (-exponent).toNat := Nat.pow_pos (by decide)
        rw [if_neg hexp, h, Nat.mul_div_cancel n hpow]

/-- **A severity can always be determined.** Only numbers that equal 0, 1 or 2 are turned into
severities, and all of these stand for one. -/
theorem Setting.severityChecked_eq_ok (s : Setting) : s.severityChecked = .ok s.severity := by
  cases s with
  | null => rfl
  | bool value => cases value <;> rfl
  | text value => cases value <;> rfl
  | list items => cases items <;> rfl
  | object fields => cases fields <;> rfl
  | integer value =>
    rw [severityChecked, severity, Severity.ofLevel, isTruthy, Severity.ofTruth]
    grind
  | decimal value =>
    rw [severityChecked, severity]
    by_cases h₀ : value.equals 0 = true
    · rw [if_pos (.inl h₀), if_pos h₀, Decimal.whole_of_equals h₀]
      rfl
    by_cases h₂ : value.equals 2 = true
    · rw [if_pos (.inr (.inr h₂)), if_neg h₀, if_pos h₂, Decimal.whole_of_equals h₂]
      rfl
    rw [if_neg h₀, if_neg h₂]
    by_cases h₁ : value.equals 1 = true
    · rw [if_pos (.inr (.inl h₁)), Decimal.whole_of_equals h₁]
      rfl
    · -- any other number is not zero, so it counts as true
      have hother : ¬(value.equals 0 = true ∨ value.equals 1 = true ∨ value.equals 2 = true) := by
        rintro (h | h | h)
        · exact h₀ h
        · exact h₁ h
        · exact h₂ h
      rw [if_neg hother, isTruthy, Bool.eq_false_iff.2 h₀]
      rfl

/-! ## Rendering -/

namespace Template

/-- **No source character is read out of range**, as the index is looked at before. -/
theorem characterAtChecked_eq_ok (source : Text) (offset : Int) :
    characterAtChecked source offset = .ok (characterAt source offset) := by
  rw [characterAtChecked, characterAt]
  split
  · rename_i h
    obtain ⟨n, rfl⟩ := Int.eq_ofNat_of_zero_le h.1
    have hn : n < source.length := by omega
    rw [Text.get, if_neg (Int.not_lt.2 h.1), Text.at?_ofNat, List.getElem?_eq_getElem hn]
    rfl
  · rename_i h
    rw [Text.at?_eq_none_iff.2 (by omega)]
    rfl

/-- What a source character is shown as is decided by the text that it makes. -/
theorem shownAt_eq (source : Text) (offset : Int) :
    shownAt source offset
      = if characterAt source offset = [CodePoint.backtick] then backtickShown
        else characterAt source offset := by
  rw [shownAt, characterAt]
  cases Text.at? source offset with
  | none => rfl
  | some c =>
    by_cases hc : c = CodePoint.backtick
    · simp [hc]
    · simp [hc]

/-- The distance of a shift can be read unless there are too many digits. -/
theorem Shift.distanceChecked_eq (shift : Shift) :
    shift.distanceChecked
      = if maxShiftDigits < shift.digits.length then .error (.tooManyDigits shift.digits.length)
        else .ok shift.distance := by
  rw [distanceChecked, Text.readDigitsChecked, maxShiftDigits, distance]
  split
  · rfl
  · cases shift.sign <;> rfl

/-- Rendering a token with partial steps is rendering it. -/
theorem Token.renderChecked_eq_mapError (source : Text) (offset : Int) (token : Token) :
    token.renderChecked source offset = (token.render source offset).mapError Fault.ofRender := by
  cases token with
  | literal text => rfl
  | codePoint =>
    rw [renderChecked, characterAtChecked_eq_ok, render, hexAt, characterAt]
    cases Text.at? source offset <;> rfl
  | character shift =>
    cases shift with
    | none =>
      rw [renderChecked, render, shownAt_eq]
      simp only [pure_bind, Int.add_zero, characterAtChecked_eq_ok]
      rfl
    | some shift =>
      rw [renderChecked, render, shownAt_eq]
      simp only [Shift.distanceChecked_eq]
      by_cases hmany : maxShiftDigits < shift.digits.length
      · rw [if_pos hmany, if_pos hmany]
        rfl
      · rw [if_neg hmany, if_neg hmany]
        show (do
          let character ← characterAtChecked source (offset + shift.distance)
          return if character = [CodePoint.backtick] then backtickShown else character) = _
        rw [characterAtChecked_eq_ok]
        rfl

/-- **Rendering with partial steps is rendering**: too many digits in a shift are all that can go
wrong. -/
theorem renderChecked_eq_mapError (template source : Text) (offset : Int) :
    renderChecked template source offset
      = (render template source offset).mapError Fault.ofRender := by
  rw [renderChecked, render]
  induction tokens template with
  | nil => rfl
  | cons token rest ih =>
    rw [renderTokensChecked, renderTokens, Token.renderChecked_eq_mapError, ih]
    cases token.render source offset with
    | error e => rfl
    | ok text => cases renderTokens source offset rest <;> rfl

end Template

/-! ## Building -/

namespace ParseContext

/-- **Building with partial steps is building**: a line or a column that cannot be written is all
that can go wrong. -/
theorem buildChecked_eq_mapError (context : ParseContext) (e : Event) :
    context.buildChecked e = (context.build e).mapError Fault.ofBuild := by
  obtain ⟨hreason, hnote⟩ := render_ruleOf e.code context.source e.span.start.offset
  rw [buildChecked, Setting.severityChecked_eq_ok, build, severity, severityOf]
  simp only [assemble, Template.renderChecked_eq_mapError, hreason, hnote]
  cases ((context.settings.get? (camelCase e.code)).getD .null).severity with
  | off => rfl
  | warning => cases e.span.label <;> rfl
  | fatal => cases e.span.label <;> rfl

/-- **Building comes to a result.** Take any source, settings and path, and an event with any code
and any numbers, as long as its lines and columns can be written. No partial step fails, so the
event leads to a diagnostic, or to none if its rule is off; and a diagnostic is known to be fatal or
not, it has its reason as its message, it has the line and the column of its start, and its range is
that of the event, number by number. -/
theorem build_total (context : ParseContext) (e : Event) (h : e.span.IsWritable) :
    ∃ built : Option Diagnostic,
      context.build e = .ok built ∧ context.buildChecked e = .ok built ∧
      (built = none ↔ context.severity e = .off) ∧
      ∀ d, built = some d →
        (d.fatal = some true ∨ d.fatal = some false) ∧ d.message = d.reason ∧
        d.line = d.position.start.line ∧ d.column = d.position.start.column ∧
        d.position = e.span := by
  have hbuild : context.build e = .ok (context.diagnostic? e) := build_eq_ok (.inr h)
  have hchecked : context.buildChecked e = .ok (context.diagnostic? e) := by
    rw [buildChecked_eq_mapError, hbuild]
    rfl
  refine ⟨context.diagnostic? e, hbuild, hchecked, diagnostic?_eq_none_iff context e, ?_⟩
  intro d hd
  obtain ⟨fatal, rfl⟩ := eq_described_of_diagnostic? hd
  refine ⟨?_, rfl, rfl, rfl, rfl⟩
  cases fatal with
  | true => exact .inl rfl
  | false => exact .inr rfl

/-- An event in front of the source, on a line that does not exist and in a column far away. -/
theorem build_total_of_event_outside :
    let context : ParseContext := ⟨"<p a=>", .empty, some "a.html"⟩
    let e : Event :=
      ⟨"missing-attribute-value", ⟨⟨-3, 0, -7⟩, ⟨1, 100000000000000000000, 2000⟩⟩⟩
    e.span.IsWritable ∧
      ∃ d : Diagnostic,
        context.build e = .ok (some d) ∧ context.buildChecked e = .ok (some d) ∧
        (d.fatal = some true ∨ d.fatal = some false) ∧ d.message = d.reason ∧
        d.line = d.position.start.line ∧ d.column = d.position.start.column ∧
        d.position = e.span := by
  intro context e
  have writable : e.span.IsWritable := ⟨by decide, by decide, by decide, by decide⟩
  refine ⟨writable, ?_⟩
  obtain ⟨built, hbuild, hchecked, hnone, hdiagnostic⟩ := build_total context e writable
  cases built with
  | none =>
    -- nothing is set for the rule, so it is on
    have hoff := hnone.1 rfl
    cases hoff
  | some d => exact ⟨d, hbuild, hchecked, hdiagnostic d rfl⟩

end ParseContext

end HtmlDiagnostics
