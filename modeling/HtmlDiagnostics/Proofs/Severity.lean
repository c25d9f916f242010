import HtmlDiagnostics.Configuration
import HtmlDiagnostics.Proofs.Building
import Mathlib.Algebra.Order.Field.Power
import Mathlib.Tactic.FieldSimp
import Mathlib.Tactic.Linarith
import Mathlib.Tactic.Positivity

/-! # From settings to diagnostics

The settings that a caller hands in decide which events lead to a diagnostic and which of these are
fatal, and nothing else. The policy is stated on the settings as they are handed in: the last one
for a key counts, and those for unknown rules count for nothing.

* **`Setting.number?`** — the number that a setting is, if it is one.
* **`Setting.TurnsOff`** — the settings that turn a rule off.
* **`lastSetting`** — the setting of a key in a list of pairs.
* **`Setting.severity_eq_off_iff`**, **`Setting.severity_eq_fatal_iff`** — which settings stand for
  which severity.
* **`severityOf_of_check`** — the severity of a rule under a checked draft.
* **`build_of_check`** — the policy.
* **`build_of_long_line`** — an event that is left out of it, as its line has too many digits. -/

namespace HtmlDiagnostics

variable {σ ε : Type}

/-! ## Numbers -/

/-- The number that a floating point value is; what is no number or infinite is none. -/
def Decimal.number? : Decimal → Option ℚ
  | .finite negative digits exponent =>
    some ((if negative then -1 else 1) * (digits * 10 ^ exponent))
  | _ => none

/-- Comparing a floating point value with a natural number on digits is comparing the numbers. -/
theorem Decimal.equals_iff (d : Decimal) (n : Nat) :
    d.equals n = true ↔ d.number? = some (n : ℚ) := by
  cases d with
  | nan => exact ⟨nofun, nofun⟩
  | infinite negative => exact ⟨nofun, nofun⟩
  | finite negative digits exponent =>
    rw [number?, Option.some.injEq, equals]
    by_cases hzero : digits = 0
    · rw [if_pos hzero, hzero, Nat.cast_zero, zero_mul, mul_zero, beq_iff_eq]
      exact_mod_cast eq_comm
    have hpos : (0 : ℚ) < digits * 10 ^ exponent :=
      mul_pos (Nat.cast_pos.2 (Nat.pos_of_ne_zero hzero)) (by positivity)
    rw [if_neg hzero]
    cases negative with
    | true =>
      -- a negative number is no natural number
      refine ⟨nofun, fun h => ?_⟩
      have hn : (0 : ℚ) ≤ n := n.cast_nonneg
      rw [← h, if_pos rfl, neg_one_mul] at hn
      linarith
    | false =>
      rw [if_neg Bool.false_ne_true, one_mul, Bool.not_false, Bool.true_and]
      by_cases hexp : 0 ≤ exponent
      · obtain ⟨k, rfl⟩ := Int.eq_ofNat_of_zero_le hexp
        rw [if_pos hexp, beq_iff_eq, Nat.pow_eq, Int.toNat_natCast, zpow_natCast]
        exact_mod_cast Iff.rfl
      · -- the power of ten goes to the other side
        obtain ⟨k, hk⟩ := Int.eq_ofNat_of_zero_le (show 0 ≤ -exponent by omega)
        obtain rfl : exponent = -(k : ℤ) := by omega
        rw [if_neg hexp, beq_iff_eq, Nat.pow_eq, neg_neg, Int.toNat_natCast, zpow_neg, zpow_natCast,
          mul_inv_eq_iff_eq_mul₀ (by positivity)]
        exact_mod_cast Iff.rfl

namespace Setting

/-- The number that a setting is. Truth values are no numbers. -/
def number? : Setting → Option ℚ
  | .integer n => some n
  | .decimal d => d.number?
  | _ => none

/-! ## Severities -/

/-- The settings that turn a rule off: the truth value false, zero in every notation, and what is
empty. -/
inductive TurnsOff : Setting → Prop
  /-- The truth value false. -/
  | no : TurnsOff (.bool false)
  /-- A number that equals zero. -/
  | zero {s : Setting} (h : s.number? = some 0) : TurnsOff s
  /-- The empty text. -/
  | emptyText : TurnsOff (.text [])
  /-- The empty list. -/
  | emptyList : TurnsOff (.list [])
  /-- The object without fields. -/
  | emptyObject : TurnsOff (.object [])

/-- A number turns a rule off exactly when it equals zero. -/
theorem turnsOff_iff_of_number? {s : Setting} {q : ℚ} (h : s.number? = some q) :
    s.TurnsOff ↔ q = 0 := by
  constructor
  · intro hoff
    cases hoff with
    | zero h₀ => exact Option.some.inj (h.symm.trans h₀)
    | no => cases h
    | emptyText => cases h
    | emptyList => cases h
    | emptyObject => cases h
  · rintro rfl
    exact .zero h

/-- The severity of a number. -/
theorem severity_of_number? {s : Setting} {q : ℚ} (h : s.number? = some q) :
    s.severity = if q = 0 then .off else if q = 2 then .fatal else .warning := by
  cases s with
  | integer n =>
    obtain rfl : (n : ℚ) = q := Option.some.inj h
    rw [severity]
    norm_cast
  | decimal d =>
    have heq : ∀ m : Nat, d.equals m = true ↔ q = m := by
      intro m
      rw [d.equals_iff, show d.number? = some q from h, Option.some.injEq]
    rw [severity]
    simp only [heq, Nat.cast_zero, Nat.cast_ofNat]
  | null => cases h
  | bool value => cases h
  | text value => cases h
  | list items => cases h
  | object fields => cases h

/-- A floating point value that is no number equals neither 0 nor 2. -/
theorem severity_decimal_of_number?_eq_none {d : Decimal} (h : d.number? = none) :
    (decimal d).severity = .warning := by
  have hequals : ∀ m : Nat, ¬ d.equals m = true := by
    intro m hm
    rw [d.equals_iff, h] at hm
    cases hm
  rw [severity, if_neg (hequals 0), if_neg (hequals 2)]

/-- **Which settings turn a rule off.** -/
theorem severity_eq_off_iff (s : Setting) : s.severity = .off ↔ s.TurnsOff := by
  rcases hq : s.number? with _ | q
  · constructor
    · intro h
      -- what is no number turns a rule off by its truth value
      cases s with
      | null => cases h
      | integer n => cases hq
      | decimal d =>
        rw [severity_decimal_of_number?_eq_none hq] at h
        cases h
      | bool value =>
        cases value with
        | false => exact .no
        | true => cases h
      | text value =>
        cases value with
        | nil => exact .emptyText
        | cons c rest => cases h
      | list items =>
        cases items with
        | nil => exact .emptyList
        | cons item rest => cases h
      | object fields =>
        cases fields with
        | nil => exact .emptyObject
        | cons field rest => cases h
    · intro h
      cases h with
      | zero hzero =>
        rw [hq] at hzero
        cases hzero
      | no => rfl
      | emptyText => rfl
      | emptyList => rfl
      | emptyObject => rfl
  · rw [severity_of_number? hq, turnsOff_iff_of_number? hq]
    by_cases hzero : q = 0
    · rw [if_pos hzero]
      exact iff_of_true rfl hzero
    · rw [if_neg hzero]
      refine iff_of_false ?_ hzero
      split
      · exact nofun
      · exact nofun

/-- **Which settings make a rule fatal:** the numbers that equal two. -/
theorem severity_eq_fatal_iff (s : Setting) : s.severity = .fatal ↔ s.number? = some 2 := by
  rcases hq : s.number? with _ | q
  · refine iff_of_false ?_ nofun
    intro h
    -- what is no number is on or off, no more
    cases s with
    | null => cases h
    | integer n => cases hq
    | decimal d =>
      rw [severity_decimal_of_number?_eq_none hq] at h
      cases h
    | bool value => cases value <;> cases h
    | text value => cases value <;> cases h
    | list items => cases items <;> cases h
    | object fields => cases fields <;> cases h
  · rw [severity_of_number? hq, Option.some.injEq]
    by_cases htwo : q = 2
    · have hzero : q ≠ 0 := by
        rw [htwo]
        exact two_ne_zero
      rw [if_neg hzero, if_pos htwo]
      exact iff_of_true rfl htwo
    · rw [if_neg htwo]
      refine iff_of_false ?_ htwo
      split
      · exact nofun
      · exact nofun

end Setting

/-! ## The settings of a draft -/

/-- The setting of a key in a list of pairs: the last one for the key, and the null value without
one. -/
def lastSetting (pairs : List (Text × Setting)) (key : Text) : Setting :=
  ((pairs.reverse.find? fun pair => pair.1 = key).map Prod.snd).getD .null

/-- A checked draft keeps the settings for known rules. -/
theorem Draft.settings_of_check {draft : Draft σ ε} {configuration : Configuration σ ε}
    {notes : List Note} (h : draft.check = .ok (configuration, notes)) :
    configuration.settings = draft.settingMap.filterKeys isKnown := by
  rw [check_eq] at h
  split at h
  · cases h
  · split at h
    · cases h
    · cases h
      rfl

/-- The severity of a rule under a checked draft: that of the last setting for a known rule, and a
warning for an unknown one. -/
theorem severityOf_of_check {draft : Draft σ ε} {configuration : Configuration σ ε}
    {notes : List Note} (h : draft.check = .ok (configuration, notes)) (key : Text) :
    severityOf key configuration.settings
      = if isKnown key then (lastSetting draft.settings key).severity else .warning := by
  rw [severityOf, Draft.settings_of_check h, OrderedMap.get?_filterKeys]
  split
  · rw [Draft.settingMap, OrderedMap.get?_ofList]
    rfl
  · rfl

/-! ## The policy -/

/-- The rule of an unknown code is the stand-in. -/
theorem ruleOf_of_not_isKnown {code : Text} (h : isKnown (camelCase code) = false) :
    ruleOf code = Rule.unknown := by
  rw [isKnown, Option.isSome_eq_false_iff, Option.isNone_iff_eq_none] at h
  rw [ruleOf, h]
  rfl

/-- Without settings every event whose range can be written leads to a diagnostic that is not
fatal. -/
theorem ParseContext.build_of_no_settings (source : Text) (path : Option Text) {e : Event}
    (writable : e.span.IsWritable) :
    (ParseContext.mk source .empty path).build e
      = .ok (some ((ParseContext.mk source .empty path).described e false)) := by
  rw [build_eq_ok (.inr writable)]
  rfl

/-- **The policy of severities.** Take an event whose range can be written. If its rule is unknown
it leads to a diagnostic, which says nothing and is not fatal, whatever the settings say about the
rule. If its rule is known it leads to none exactly when the last setting for the rule turns it off,
and else to one that is fatal exactly when that setting is a number equal to two. In all of this the
settings decide nothing but whether there is a diagnostic and whether it is fatal. An event whose
range cannot be written still leads to none if its rule is known and the last setting for the rule
turns it off, and else its diagnostic cannot be built. -/
theorem build_of_check {draft : Draft σ ε} {configuration : Configuration σ ε} {notes : List Note}
    (accepted : draft.check = .ok (configuration, notes)) (source : Text) (path : Option Text)
    (e : Event) :
    let key := camelCase e.code
    let setting := lastSetting draft.settings key
    let context : ParseContext := ⟨source, configuration.settings, path⟩
    (e.span.IsWritable →
      ∃ plain : Diagnostic,
        (ParseContext.mk source .empty path).build e = .ok (some plain) ∧
        plain.fatal = some false ∧
        if isKnown key then
          (setting.TurnsOff ∧ context.build e = .ok none) ∨
          (¬ setting.TurnsOff ∧ context.build e
            = .ok (some { plain with fatal := some (decide (setting.number? = some 2)) }))
        else
          context.build e = .ok (some plain) ∧ plain.message = [] ∧ plain.reason = [] ∧
            plain.note = [] ∧ plain.url = some (anchorBase ++ e.code)) ∧
    (¬ e.span.IsWritable →
      (isKnown key ∧ setting.TurnsOff ∧ context.build e = .ok none) ∨
      (¬ (isKnown key ∧ setting.TurnsOff) ∧
        context.build e = .error (.position .tooManyDigits))) := by
  intro key setting context
  have hseverity : context.severity e = if isKnown key then setting.severity else .warning :=
    severityOf_of_check accepted key
  have hoff := setting.severity_eq_off_iff
  have hfatal := setting.severity_eq_fatal_iff
  constructor
  · intro writable
    refine ⟨_, ParseContext.build_of_no_settings source path writable, rfl, ?_⟩
    rw [ParseContext.build_eq_ok (.inr writable), ParseContext.diagnostic?, hseverity]
    split
    · -- a known rule: the severity of its last setting decides
      cases hs : setting.severity with
      | off => exact .inl ⟨hoff.1 hs, rfl⟩
      | warning =>
        rw [hs] at hoff hfatal
        have hon : ¬ setting.TurnsOff := fun h => nomatch hoff.2 h
        have htwo : ¬ setting.number? = some 2 := fun h => nomatch hfatal.2 h
        refine .inr ⟨hon, ?_⟩
        rw [decide_eq_false htwo]
        rfl
      | fatal =>
        rw [hs] at hoff hfatal
        have hon : ¬ setting.TurnsOff := fun h => nomatch hoff.2 h
        refine .inr ⟨hon, ?_⟩
        rw [decide_eq_true (hfatal.1 rfl)]
        rfl
    · rename_i hunknown
      have hrule : ruleOf e.code = Rule.unknown :=
        ruleOf_of_not_isKnown (Bool.eq_false_iff.2 hunknown)
      refine ⟨rfl, ?_⟩
      simp only [ParseContext.described, hrule]
      exact ⟨rfl, rfl, rfl, rfl⟩
  · intro unwritable
    have hsilent : context.severity e = .off ↔ isKnown key = true ∧ setting.TurnsOff := by
      rw [hseverity, ← hoff]
      by_cases hknown : isKnown key = true
      · rw [if_pos hknown, and_iff_right hknown]
      · rw [if_neg hknown]
        exact iff_of_false nofun fun h => hknown h.1
    by_cases hs : context.severity e = .off
    · obtain ⟨hknown, hturns⟩ := hsilent.1 hs
      exact .inl ⟨hknown, hturns, ParseContext.build_eq_none_iff.2 hs⟩
    · exact .inr ⟨mt hsilent.2 hs, ParseContext.build_eq_error_iff.2 ⟨hs, unwritable, rfl⟩⟩

/-- Two point zero, the last of three settings, makes a rule fatal that the first would turn off. -/
theorem build_of_check_last_setting :
    let draft : Draft Unit Unit :=
      { settings := [("duplicateAttribute", .integer 0), ("noSuchRule", .bool false),
          ("duplicateAttribute", .decimal (.finite false 20 (-1)))] }
    let e : Event := ⟨"duplicate-attribute", ⟨⟨1, 1, 0⟩, ⟨1, 2, 1⟩⟩⟩
    ∃ configuration notes d, draft.check = .ok (configuration, notes) ∧
      (ParseContext.mk [] configuration.settings none).build e = .ok (some d) ∧
      d.fatal = some true := by
  intro draft e
  obtain ⟨plain, -, -, h⟩ := (@build_of_check Unit Unit draft _ _ rfl [] none e).1 (by decide)
  have hknown : isKnown (camelCase e.code) = true := by decide +kernel
  have hnumber : (lastSetting draft.settings (camelCase e.code)).number? = some 2 := by
    have hlast : lastSetting draft.settings (camelCase e.code)
        = .decimal (.finite false 20 (-1)) := rfl
    rw [hlast]
    exact ((Decimal.finite false 20 (-1)).equals_iff 2).1 rfl
  rw [if_pos hknown] at h
  obtain ⟨hoff, -⟩ | ⟨-, hbuild⟩ := h
  · exact absurd ((Setting.turnsOff_iff_of_number? hnumber).1 hoff) two_ne_zero
  · exact ⟨_, _, _, rfl, hbuild, congrArg some (decide_eq_true hnumber)⟩

/-- No diagnostic is built for an event of an unknown rule, though nothing can turn it off: the line
of the event has one digit too many. -/
theorem build_of_long_line :
    let e : Event := ⟨"no-such-rule", .farDown⟩
    ({} : Draft Unit Unit).check = .ok (.standard, []) ∧ isKnown (camelCase e.code) = false ∧
      (ParseContext.mk [] (.standard : Configuration Unit Unit).settings none).build e
        = .error (.position .tooManyDigits) := by
  intro e
  have hunknown : isKnown (camelCase e.code) = false := by decide +kernel
  exact ⟨rfl, hunknown,
    ParseContext.build_eq_error_iff.2 ⟨nofun, Span.not_isWritable_farDown, rfl⟩⟩

end HtmlDiagnostics
