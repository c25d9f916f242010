import HtmlDiagnostics.Text.Numeral
import HtmlDiagnostics.Text.Printable

/-! # Quoted texts in messages

A text inside an error message stands between quotes on one line: whatever cannot be printed is
written as an escape, so that the message shows what the text holds.

* **`Text.quoteMark t`** — the quote to use: a single one, unless the text holds single quotes and
  no double ones.
* **`CodePoint.escaped mark c`** — one code point between such quotes.
* **`Text.quoted t`** — the text between quotes. -/

namespace HtmlDiagnostics

/-- The single quote. -/
def singleQuote : CodePoint := '\''

/-- The double quote. -/
def doubleQuote : CodePoint := '"'

/-- The quote to put around a text: a double quote exactly when the text holds a single quote and
no double one. -/
def Text.quoteMark (t : Text) : CodePoint :=
  if singleQuote ∈ t ∧ doubleQuote ∉ t then doubleQuote else singleQuote

/-- A code point between the given quotes. The quote and the backslash get a backslash in front,
line feed, carriage return and tab have letters of their own, and everything else that is not
printable is written by its number with two, four or eight hexadecimal digits. -/
def CodePoint.escaped (mark c : CodePoint) : Text :=
  if c = mark ∨ c = ofChar '\\' then ['\\', c]
  else if c = ofChar '\n' then "\\n"
  else if c = ofChar '\r' then "\\r"
  else if c = ofChar '\t' then "\\t"
  else if c.isPrintable then [c]
  else if c.val ≤ 0xFF then "\\x" ++ Text.paddedHex 2 c.val
  else if c.val ≤ 0xFFFF then "\\u" ++ Text.paddedHex 4 c.val
  else "\\U" ++ Text.paddedHex 8 c.val

/-- The text between quotes. -/
def Text.quoted (t : Text) : Text :=
  t.quoteMark :: t.flatMap (CodePoint.escaped t.quoteMark) ++ [t.quoteMark]

end HtmlDiagnostics
