import HtmlDiagnostics.Json
import HtmlDiagnostics.Proofs.Text.Numeral

/-! # The grammar of JSON texts

Which texts spell a JSON value, over code points. The grammar allows more than what is rendered
here: white space between tokens, a backslash in front of a slash, any code point by its number, and
pairs of numbers for the code points beyond four hexadecimal digits. Of the numbers it has the
integers.

* **`Json.Piece`**, **`Json.textOf`** — what stands between the quotes of a string, and the text
  that it means.
* **`Json.Quoted`** — a string.
* **`Json.Numeral`** — an integer.
* **`Json.Spelled`** — values, lists of items and lists of members.
* **`Json.IsText`** — a JSON text: a value with white space around it. -/

namespace HtmlDiagnostics

namespace CodePoint

/-- Whether the code point is white space between tokens. -/
def isJsonBlank (c : CodePoint) : Bool :=
  c.val == 0x20 || c.val == 0x09 || c.val == 0x0A || c.val == 0x0D

/-- The value of a hexadecimal digit in upper or lower case. -/
def hexValue? (c : CodePoint) : Option Nat :=
  if 0x30 ≤ c.val ∧ c.val ≤ 0x39 then some (c.val - 0x30)
  else if 0x41 ≤ c.val ∧ c.val ≤ 0x46 then some (c.val - 0x37)
  else if 0x61 ≤ c.val ∧ c.val ≤ 0x66 then some (c.val - 0x57)
  else none

/-- The code point with the number that four hexadecimal digits spell. -/
def hexPoint? (a b c d : CodePoint) : Option CodePoint := do
  let i ← hexValue? a
  let j ← hexValue? b
  let k ← hexValue? c
  let l ← hexValue? d
  ofNat? (((i * 16 + j) * 16 + k) * 16 + l)

/-- Whether the code point is the first half of a surrogate pair. -/
def isHighSurrogate (c : CodePoint) : Bool := 0xD800 ≤ c.val && c.val ≤ 0xDBFF

/-- Whether the code point is the second half of a surrogate pair. -/
def isLowSurrogate (c : CodePoint) : Bool := 0xDC00 ≤ c.val && c.val ≤ 0xDFFF

/-- The code point that the two halves of a surrogate pair stand for. -/
def ofSurrogates (high low : CodePoint) : CodePoint :=
  ⟨0x10000 + (high.val - 0xD800) % 0x400 * 0x400 + (low.val - 0xDC00) % 0x400, by omega⟩

end CodePoint

namespace Json

/-! ## Marks -/

/-- The mark at both ends of a string. -/
def quote : CodePoint := '"'

/-- The mark in front of an escape. -/
def backslash : CodePoint := '\\'

/-- The mark in front of a negative number. -/
def minus : CodePoint := '-'

/-- The mark between two items or members. -/
def comma : CodePoint := ','

/-- The mark between a name and its value. -/
def colon : CodePoint := ':'

/-- The mark at the start of a list. -/
def openList : CodePoint := '['

/-- The mark at the end of a list. -/
def closeList : CodePoint := ']'

/-- The mark at the start of an object. -/
def openObject : CodePoint := '\x7b'

/-- The mark at the end of an object. -/
def closeObject : CodePoint := '\x7d'

/-! ## Strings -/

/-- A piece of what stands between the quotes of a string. -/
inductive Piece where
  /-- A code point as it stands, or by its letter behind a backslash. -/
  | point (c : CodePoint)
  /-- A code point by its number. -/
  | number (c : CodePoint)

/-- The text that the pieces of a string mean. Two numbers next to each other that are the halves
of a surrogate pair are one code point; halves that stand for themselves stay two. -/
def textOf : List Piece → Text
  | .number high :: .number low :: rest =>
    if high.isHighSurrogate && low.isLowSurrogate then
      CodePoint.ofSurrogates high low :: textOf rest
    else high :: textOf (.number low :: rest)
  | .number c :: rest => c :: textOf rest
  | .point c :: rest => c :: textOf rest
  | [] => []

/-- The letters that may stand behind a backslash, with what they mean there. -/
def escapeLetters : List (CodePoint × CodePoint) :=
  [('"', '"'), ('\\', '\\'), ('/', '/'), ('b', '\x08'), ('f', '\x0c'), ('n', '\n'), ('r', '\r'),
   ('t', '\t')]

/-- How a piece of a string is written. -/
inductive Piece.Written : Piece → Text → Prop
  /-- A code point that is no control, no quote and no backslash stands for itself. -/
  | plain {c : CodePoint} (control : 0x20 ≤ c.val) (hquote : c ≠ quote) (hslash : c ≠ backslash) :
      Written (.point c) [c]
  /-- A letter behind a backslash. -/
  | letter {l c : CodePoint} (h : (l, c) ∈ escapeLetters) : Written (.point c) [backslash, l]
  /-- A number of four hexadecimal digits. -/
  | number {a b c d p : CodePoint} (h : CodePoint.hexPoint? a b c d = some p) :
      Written (.number p) [backslash, 'u', a, b, c, d]

/-- How the pieces of a string are written one after the other. -/
inductive Body : List Piece → Text → Prop
  /-- Nothing between the quotes. -/
  | nil : Body [] []
  /-- One more piece in front. -/
  | cons {piece : Piece} {pieces : List Piece} {s body : Text} (first : piece.Written s)
      (rest : Body pieces body) : Body (piece :: pieces) (s ++ body)

/-- A string: its pieces between quotes. -/
inductive Quoted : Text → Text → Prop
  /-- The pieces between quotes. -/
  | mk {pieces : List Piece} {body : Text} (h : Body pieces body) :
      Quoted (textOf pieces) (quote :: body ++ [quote])

/-! ## Integers -/

/-- A run of digits without needless zeros, and the number that it spells. -/
structure Digits (n : Nat) (s : Text) : Prop where
  /-- There is at least one digit. -/
  ne_nil : s ≠ []
  /-- There are only digits. -/
  digits : ∀ c ∈ s, c.isAsciiDigit = true
  /-- The first digit is a zero only if it is the only one. -/
  zero : s.head? = some (CodePoint.ofChar '0') → s = [CodePoint.ofChar '0']
  /-- The number. -/
  value : Text.readDigits s = n

/-- An integer: a run of digits, behind a hyphen if the number is negative. -/
inductive Numeral : Int → Text → Prop
  /-- Digits alone. -/
  | natural {n : Nat} {s : Text} (h : Digits n s) : Numeral n s
  /-- Digits behind a hyphen. -/
  | negative {n : Nat} {s : Text} (h : Digits n s) : Numeral (-n) (minus :: s)

/-! ## Values -/

/-- White space between tokens. -/
def IsBlank (w : Text) : Prop := ∀ c ∈ w, c.isJsonBlank = true

/-- What a part of a JSON text can stand for. -/
inductive Phrase where
  /-- A value. -/
  | value (v : Json)
  /-- The items of a list. -/
  | items (vs : List Json)
  /-- The members of an object. -/
  | members (ms : List (Text × Json))

/-- How values are spelled, without white space around them, and lists of items and members, with
white space around each. -/
inductive Spelled : Phrase → Text → Prop
  /-- The null value. -/
  | null : Spelled (.value .null) "null"
  /-- The true value. -/
  | true : Spelled (.value (.bool true)) "true"
  /-- The false value. -/
  | false : Spelled (.value (.bool false)) "false"
  /-- An integer. -/
  | integer {n : Int} {s : Text} (h : Numeral n s) : Spelled (.value (.integer n)) s
  /-- A string. -/
  | text {t s : Text} (h : Quoted t s) : Spelled (.value (.text t)) s
  /-- A list without items. -/
  | emptyArray {w : Text} (blank : IsBlank w) :
      Spelled (.value (.array [])) (openList :: w ++ [closeList])
  /-- A list of items. -/
  | array {vs : List Json} {s : Text} (h : Spelled (.items vs) s) :
      Spelled (.value (.array vs)) (openList :: s ++ [closeList])
  /-- An object without members. -/
  | emptyObject {w : Text} (blank : IsBlank w) :
      Spelled (.value (.object [])) (openObject :: w ++ [closeObject])
  /-- An object with members. -/
  | object {ms : List (Text × Json)} {s : Text} (h : Spelled (.members ms) s) :
      Spelled (.value (.object ms)) (openObject :: s ++ [closeObject])
  /-- The last item of a list. -/
  | item {v : Json} {before s after : Text} (hbefore : IsBlank before) (h : Spelled (.value v) s)
      (hafter : IsBlank after) : Spelled (.items [v]) (before ++ s ++ after)
  /-- An item in front of others. -/
  | moreItems {v : Json} {vs : List Json} {before s after more : Text} (hbefore : IsBlank before)
      (h : Spelled (.value v) s) (hafter : IsBlank after) (hmore : Spelled (.items vs) more) :
      Spelled (.items (v :: vs)) (before ++ s ++ after ++ comma :: more)
  /-- The last member of an object. -/
  | member {name key before beforeColon afterColon s after : Text} {v : Json}
      (hbefore : IsBlank before) (hname : Quoted name key) (hcolon : IsBlank beforeColon)
      (hcolon' : IsBlank afterColon) (h : Spelled (.value v) s) (hafter : IsBlank after) :
      Spelled (.members [(name, v)])
        (before ++ key ++ beforeColon ++ colon :: (afterColon ++ s ++ after))
  /-- A member in front of others. -/
  | moreMembers {name key before beforeColon afterColon s after more : Text} {v : Json}
      {ms : List (Text × Json)} (hbefore : IsBlank before) (hname : Quoted name key)
      (hcolon : IsBlank beforeColon) (hcolon' : IsBlank afterColon) (h : Spelled (.value v) s)
      (hafter : IsBlank after) (hmore : Spelled (.members ms) more) :
      Spelled (.members ((name, v) :: ms))
        (before ++ key ++ beforeColon ++ colon :: (afterColon ++ s ++ after ++ comma :: more))

/-- A JSON text: one value, with white space around it. -/
inductive IsText : Json → Text → Prop
  /-- The value between white space. -/
  | mk {v : Json} {before s after : Text} (hbefore : IsBlank before) (h : Spelled (.value v) s)
      (hafter : IsBlank after) : IsText v (before ++ s ++ after)

end Json

end HtmlDiagnostics
