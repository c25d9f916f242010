import HtmlDiagnostics.Text.Numeral

/-! # JSON texts

* **`Json`** — the values of JSON with integers as the only numbers and the members of an object
  in order.
* **`CodePoint.jsonEscaped c`** — one code point inside a JSON string.
* **`Json.render value`** — a value on one line, with a space after each comma and colon. Code
  points from the space upwards stand for themselves, surrogates included.

Integers are rendered whatever their size. Where numbers with more than `maxNumberDigits` digits are
refused, as in a label, a value that holds one is not rendered at all; so the rendering is meant for
values without such a number. -/

namespace HtmlDiagnostics

/-- A JSON value. -/
inductive Json where
  /-- The null value. -/
  | null
  /-- A truth value. -/
  | bool (value : Bool)
  /-- An integer. -/
  | integer (value : Int)
  /-- A string. -/
  | text (value : Text)
  /-- A list of values. -/
  | array (items : List Json)
  /-- Names with values, in order. -/
  | object (members : List (Text × Json))

namespace CodePoint

/-- A code point inside a JSON string. Quote and backslash get a backslash in front, five controls
have letters of their own, and the other controls are written by number. -/
def jsonEscaped (c : CodePoint) : Text :=
  if c = ofChar '"' then "\\\""
  else if c = ofChar '\\' then "\\\\"
  else if c = ofChar '\n' then "\\n"
  else if c = ofChar '\r' then "\\r"
  else if c = ofChar '\t' then "\\t"
  else if c = ofChar '\x08' then "\\b"
  else if c = ofChar '\x0c' then "\\f"
  else if c.val < 0x20 then "\\u" ++ Text.paddedHex 4 c.val
  else [c]

end CodePoint

namespace Json

/-- A text as a JSON string. -/
def renderText (t : Text) : Text := "\"" ++ t.flatMap CodePoint.jsonEscaped ++ "\""

mutual

/-- A value as a JSON text. Its integers have `maxNumberDigits` digits at most. -/
def render : Json → Text
  | .null => "null"
  | .bool true => "true"
  | .bool false => "false"
  | .integer n => Text.ofInt n
  | .text t => renderText t
  | .array items => "[" ++ renderItems items ++ "]"
  | .object members => "\x7b" ++ renderMembers members ++ "\x7d"

/-- The items of a list, separated by commas. -/
def renderItems : List Json → Text
  | [] => []
  | [item] => item.render
  | item :: rest => item.render ++ ", " ++ renderItems rest

/-- The members of an object, separated by commas. -/
def renderMembers : List (Text × Json) → Text
  | [] => []
  | [(name, value)] => renderText name ++ ": " ++ value.render
  | (name, value) :: rest => renderText name ++ ": " ++ value.render ++ ", " ++ renderMembers rest

end

end Json

end HtmlDiagnostics
