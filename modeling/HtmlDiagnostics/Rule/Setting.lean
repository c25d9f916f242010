import HtmlDiagnostics.Text.Basic

/-! # Severity settings

What a caller may write for a rule is any value of a configuration file. Most of them say more
than a severity needs: only emptiness, truth and the numbers 0, 1 and 2 matter.

* **`Decimal`** — a floating point value by its decimal notation.
* **`Setting`** — a configuration value.
* **`Severity`** — what becomes of the events of a rule.
* **`Setting.severity`** — the severity that a value stands for. -/

namespace HtmlDiagnostics

/-! ## Values -/

/-- A floating point value, given by its decimal notation. -/
inductive Decimal where
  /-- The value that is no number. -/
  | nan
  /-- One of the two infinities. -/
  | infinite (negative : Bool)
  /-- The number `digits · 10 ^ exponent`, or its negative. Zero has a sign too. -/
  | finite (negative : Bool) (digits : Nat) (exponent : Int)
  deriving DecidableEq

/-- Whether a floating point value equals a natural number. Both zeros equal zero. -/
def Decimal.equals : Decimal → Nat → Bool
  | .finite negative digits exponent, n =>
    if digits = 0 then n == 0
    else !negative &&
      (if 0 ≤ exponent then digits * Nat.pow 10 exponent.toNat == n
       else digits == n * Nat.pow 10 (-exponent).toNat)
  | _, _ => false

/-- A value of a configuration. -/
inductive Setting where
  /-- The null value, which says as much as no setting. -/
  | null
  /-- A truth value. -/
  | bool (value : Bool)
  /-- An integer of any size. -/
  | integer (value : Int)
  /-- A floating point number. -/
  | decimal (value : Decimal)
  /-- A text. -/
  | text (value : Text)
  /-- A list of values. -/
  | list (items : List Setting)
  /-- An object: names with values. -/
  | object (fields : List (Text × Setting))

/-! ## Severities -/

/-- What becomes of the events of a rule. -/
inductive Severity where
  /-- They are dropped. -/
  | off
  /-- They are reported. -/
  | warning
  /-- They are reported and marked as fatal. -/
  | fatal
  deriving DecidableEq, Repr

/-- The severity as a number. -/
def Severity.level : Severity → Nat
  | .off => 0
  | .warning => 1
  | .fatal => 2

/-- The severity that a value stands for. A truth value turns a rule on or off, a number equal to
0 turns it off, a number equal to 2 makes it fatal, an empty text, list or object turns it off,
and everything else leaves it a warning. -/
def Setting.severity : Setting → Severity
  | .null => .warning
  | .bool value => if value then .warning else .off
  | .integer value => if value = 0 then .off else if value = 2 then .fatal else .warning
  | .decimal value =>
    if value.equals 0 then .off else if value.equals 2 then .fatal else .warning
  | .text value => if value.isEmpty then .off else .warning
  | .list items => if items.isEmpty then .off else .warning
  | .object fields => if fields.isEmpty then .off else .warning

/-- The name of the kind of a value, for messages about a value in the wrong place. -/
def Setting.kind : Setting → Text
  | .null => "null"
  | .bool _ => "bool"
  | .integer _ => "int"
  | .decimal _ => "float"
  | .text _ => "str"
  | .list _ => "list"
  | .object _ => "dict"

end HtmlDiagnostics
