import HtmlDiagnostics.Text.Numeral

/-! # The log

What the library notes down while it works. A note is a value: it says what happened, and its
level and its message follow from that.

* **`Mode`** — whether a whole document is parsed or a fragment.
* **`Note`** — one entry of the log.
* **`Note.level`**, **`Note.message`** — how an entry is shown. -/

namespace HtmlDiagnostics

/-- What is parsed. -/
inductive Mode where
  /-- A whole document. -/
  | document
  /-- A fragment of a document. -/
  | fragment
  deriving DecidableEq

/-- The word for what is parsed. -/
def Mode.word : Mode → Text
  | .document => "document"
  | .fragment => "fragment"

/-- How much a note matters. -/
inductive LogLevel where
  /-- For those who look for the cause of something. -/
  | debug
  /-- Something is probably not as intended. -/
  | warning
  deriving DecidableEq

/-- An entry of the log. -/
inductive Note where
  /-- A setting was dropped because its rule is not known. -/
  | settingIgnored (key : Text)
  /-- A rule is reported that is not known. -/
  | ruleUnknown (code : Text)
  /-- A diagnostic goes to the sink, if there is one. -/
  | reported (ruleId name : Text)
  /-- A text goes to the parser. -/
  | parsing (path : Option Text) (size : Nat) (mode : Mode)
  deriving DecidableEq

/-- How much the note matters. -/
def Note.level : Note → LogLevel
  | .settingIgnored _ => .warning
  | .ruleUnknown _ => .warning
  | .reported _ _ => .debug
  | .parsing _ _ _ => .debug

/-- A path in a note: a text without a path, or with an empty one, is called the input. -/
def shownPath : Option Text → Text
  | none => "<input>"
  | some [] => "<input>"
  | some path => path

/-- What the note says. -/
def Note.message : Note → Text
  | .settingIgnored key => "Ignoring severity for unknown parse error rule '" ++ key ++ "'"
  | .ruleUnknown code => "No catalog entry for parse error '" ++ code ++ "'"
  | .reported ruleId name => "Parse error " ++ ruleId ++ " at " ++ name
  | .parsing path size mode =>
    "Parsing " ++ shownPath path ++ " (" ++ Text.ofNat size ++ " characters, " ++ mode.word
      ++ " mode)"

end HtmlDiagnostics
