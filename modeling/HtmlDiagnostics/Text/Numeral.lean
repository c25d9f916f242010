import HtmlDiagnostics.Text.Basic

/-! # Written numbers

* **`Text.ofNat`**, **`Text.ofInt`** — decimal numerals without leading zeros, a negative number
  behind a hyphen.
* **`Text.upperHex`** — the hexadecimal numeral in upper case, without leading zeros.
* **`Text.paddedHex width`** — the hexadecimal numeral in lower case, filled up with zeros.
* **`Text.writeInt`** — the decimal numeral of an integer that is not too long. An integer of any
  size has a numeral, but one with more than `maxNumberDigits` digits is refused. -/

namespace HtmlDiagnostics

namespace Text

/-- The decimal numeral of a natural number. -/
def ofNat (n : Nat) : Text := (Nat.toDigits 10 n).map CodePoint.ofChar

/-- The decimal numeral of an integer: a negative one has a hyphen in front. -/
def ofInt : Int → Text
  | .ofNat n => ofNat n
  | .negSucc n => CodePoint.ofChar '-' :: ofNat (n + 1)

/-- The hexadecimal numeral in upper case. -/
def upperHex (n : Nat) : Text := (Nat.toDigits 16 n).map fun d => CodePoint.ofChar d.toUpper

/-- The hexadecimal numeral in lower case, with zeros in front up to the given width. -/
def paddedHex (width n : Nat) : Text :=
  let digits := (Nat.toDigits 16 n).map CodePoint.ofChar
  List.replicate (width - digits.length) (CodePoint.ofChar '0') ++ digits

@[simp] theorem ofInt_natCast (n : Nat) : ofInt n = ofNat n := rfl

theorem ofNat_ne_nil (n : Nat) : ofNat n ≠ [] := by
  simp [ofNat, Nat.toDigits_ne_nil]

end Text

/-! ## Numbers that are too long -/

/-- The most digits that a number may have to be read or written. -/
def maxNumberDigits : Nat := 4300

/-- How many digits the numeral of an integer has. A sign is no digit. -/
def digitCount (n : Int) : Nat := (Text.ofNat n.natAbs).length

/-- Why a number is not written. -/
inductive WriteError where
  /-- The number has more digits than allowed. -/
  | tooManyDigits
  deriving DecidableEq

/-- What the error says. How many digits there are is not told. -/
def WriteError.message : WriteError → Text
  | .tooManyDigits =>
    "Exceeds the limit (" ++ Text.ofNat maxNumberDigits
      ++ " digits) for integer string conversion; use sys.set_int_max_str_digits() to increase "
      ++ "the limit"

/-- The decimal numeral of an integer, refused if it has too many digits. -/
def Text.writeInt (n : Int) : Except WriteError Text :=
  if maxNumberDigits < digitCount n then .error .tooManyDigits else .ok (Text.ofInt n)

end HtmlDiagnostics
