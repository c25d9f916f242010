import HtmlDiagnostics.Text.DecimalDigit
import HtmlDiagnostics.Text.Numeral

/-! # Templates

The texts of the rules are templates. A template is cut into tokens from left to right: `%c`,
optionally followed by a sign and a run of decimal digits, stands for the source character at an
offset shifted by that number; `%x` stands for the code point at the offset in hexadecimal;
everything else stands for itself. What is put in is never read as a template again.

* **`Token`** — a literal or a placeholder, and **`Token.written`**, how it is written.
* **`tokens template`** — the tokens of a template.
* **`characterAt`**, **`hexAt`** — what the placeholders read.
* **`render template source offset`** — the template with its placeholders replaced. The one
  failure is a shift with too many digits. -/

namespace HtmlDiagnostics

namespace CodePoint

/-- The percent sign, which opens a placeholder. -/
def percent : CodePoint := '%'

/-- The backtick, which delimits code spans. -/
def backtick : CodePoint := '\x60'

end CodePoint

namespace Template

/-! ## Tokens -/

/-- The direction of a shift. -/
inductive Sign where
  /-- Towards the end of the source. -/
  | plus
  /-- Towards the start of the source. -/
  | minus
  deriving DecidableEq

/-- How a direction is written. -/
def Sign.written : Sign → CodePoint
  | .plus => '+'
  | .minus => '-'

/-- The direction that a code point stands for. -/
def Sign.read? (c : CodePoint) : Option Sign :=
  if c = Sign.plus.written then some .plus
  else if c = Sign.minus.written then some .minus
  else none

@[simp] theorem Sign.read?_written (s : Sign) : Sign.read? s.written = some s := by
  cases s <;> decide

/-- A shift: a direction and a run of decimal digits of any scripts. -/
structure Shift where
  /-- The direction. -/
  sign : Sign
  /-- The digits as they stand in the template. -/
  digits : Text
  deriving DecidableEq

/-- A piece of a template. -/
inductive Token where
  /-- Text that stands for itself. -/
  | literal (text : Text)
  /-- The source character at the offset, or at a place shifted from it. -/
  | character (shift : Option Shift)
  /-- The code point at the offset in hexadecimal. -/
  | codePoint
  deriving DecidableEq

/-- How a shift is written. -/
def Shift.written (shift : Shift) : Text := shift.sign.written :: shift.digits

/-- How a token is written. -/
def Token.written : Token → Text
  | .literal text => text
  | .character none => "%c"
  | .character (some shift) => "%c" ++ shift.written
  | .codePoint => "%x"

/-! ## Cutting a template into tokens -/

/-- The shift at the start of a text: a sign and as many digits as there are, at least one. -/
def shift? : Text → Option Shift
  | [] => none
  | c :: rest =>
    match Sign.read? c with
    | none => none
    | some sign =>
      let digits := rest.takeWhile CodePoint.isDigit
      if digits = [] then none else some ⟨sign, digits⟩

/-- The placeholder at the start of a text. -/
def placeholder? : Text → Option Token
  | a :: b :: rest =>
    if a = CodePoint.percent ∧ b = 'c' then some (.character (shift? rest))
    else if a = CodePoint.percent ∧ b = 'x' then some .codePoint
    else none
  | _ => none

/-- One more code point in front of the tokens: it joins a literal that stands first. -/
def prepend (c : CodePoint) : List Token → List Token
  | .literal text :: rest => .literal (c :: text) :: rest
  | rest => .literal [c] :: rest

/-- The tokens of what is left of a text after skipping some code points of it. The code points of
a placeholder are skipped one by one once the placeholder has been read. -/
def tokensAfter : Nat → Text → List Token
  | _, [] => []
  | skip + 1, _ :: rest => tokensAfter skip rest
  | 0, c :: rest =>
    match placeholder? (c :: rest) with
    | some token => token :: tokensAfter (token.written.length - 1) rest
    | none => prepend c (tokensAfter 0 rest)

/-- The tokens of a template. -/
def tokens (template : Text) : List Token := tokensAfter 0 template

/-! ## What the placeholders read -/

/-- What a backtick in the source is shown as. A backtick inside inline code would end it early,
so it closes the code, shows itself between double backticks, and opens the code again. -/
def backtickShown : Text := "\x60 \x60 \x60"

/-- The source character at an offset as a text, empty outside the source. -/
def characterAt (source : Text) (offset : Int) : Text := (Text.at? source offset).toList

/-- The source character at an offset as it is put into a template. -/
def shownAt (source : Text) (offset : Int) : Text :=
  match Text.at? source offset with
  | none => []
  | some c => if c = CodePoint.backtick then backtickShown else [c]

/-- The code point at an offset in hexadecimal, empty outside the source. -/
def hexAt (source : Text) (offset : Int) : Text :=
  match Text.at? source offset with
  | none => []
  | some c => "0x" ++ Text.upperHex c.val

/-! ## Rendering -/

/-- The longest run of digits that a shift may have. -/
def maxShiftDigits : Nat := maxNumberDigits

/-- Why a template cannot be rendered. -/
inductive RenderError where
  /-- A shift has more digits than allowed. -/
  | tooManyDigits (count : Nat)
  deriving DecidableEq

/-- The message of an error. -/
def RenderError.message : RenderError → Text
  | .tooManyDigits count =>
    "Exceeds the limit (" ++ Text.ofNat maxShiftDigits
      ++ " digits) for integer string conversion: value has " ++ Text.ofNat count
      ++ " digits; use sys.set_int_max_str_digits() to increase the limit"

/-- The distance that a shift goes. -/
def Shift.distance (shift : Shift) : Int :=
  match shift.sign with
  | .plus => Text.readDigits shift.digits
  | .minus => -Text.readDigits shift.digits

/-- What stands in the place of a token. -/
def Token.render (source : Text) (offset : Int) : Token → Except RenderError Text
  | .literal text => .ok text
  | .character none => .ok (shownAt source offset)
  | .character (some shift) =>
    if maxShiftDigits < shift.digits.length then .error (.tooManyDigits shift.digits.length)
    else .ok (shownAt source (offset + shift.distance))
  | .codePoint => .ok (hexAt source offset)

/-- What stands in the place of the tokens, one after the other. The first failing token decides
the failure. -/
def renderTokens (source : Text) (offset : Int) : List Token → Except RenderError Text
  | [] => .ok []
  | token :: rest =>
    match token.render source offset with
    | .error e => .error e
    | .ok text => (renderTokens source offset rest).map (text ++ ·)

/-- The template with its placeholders replaced by what they read in the source. -/
def render (template source : Text) (offset : Int) : Except RenderError Text :=
  renderTokens source offset (tokens template)

end Template

end HtmlDiagnostics
