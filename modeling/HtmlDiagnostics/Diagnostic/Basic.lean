import HtmlDiagnostics.Position

/-! # Diagnostics

* **`Diagnostic`** — the report of one parse error.
* **`Diagnostic.toJson`** — the message that programs read. A diagnostic without a file has no
  `file` member; a file with an empty name has one.
* **`Diagnostic.isError`** — whether the diagnostic counts as an error or as a warning. -/

namespace HtmlDiagnostics

/-- The report of one parse error. The fields are independent of each other. -/
structure Diagnostic where
  /-- The code of the rule as the parser reported it. -/
  ruleId : Text
  /-- The rendered reason. -/
  message : Text
  /-- The rendered reason once more. -/
  reason : Text
  /-- The rendered explanation. -/
  note : Text
  /-- The place of the error for readers: the file if it is known, and the range. -/
  name : Text
  /-- The line of the first code point. -/
  line : Int
  /-- The column of the first code point. -/
  column : Int
  /-- The range of the error. -/
  position : Span
  /-- Whether the error is fatal, if that is known. -/
  fatal : Option Bool
  /-- What kind of program found the error, if that is known. -/
  source : Option Text
  /-- A link to the documentation of the rule, if there is one. -/
  url : Option Text
  /-- The path of the parsed file, if it is known. -/
  file : Option Text
  deriving DecidableEq

namespace Diagnostic

/-- Whether the diagnostic counts as an error: only when it is known to be fatal. -/
def isError (d : Diagnostic) : Bool := d.fatal == some true

/-- The word for the weight of the diagnostic. -/
def severityLabel (d : Diagnostic) : Text := if d.isError then "error" else "warning"

/-- A text that may be absent as JSON. -/
def textOrNull : Option Text → Json
  | some t => .text t
  | none => .null

/-- A truth value that may be absent as JSON. -/
def boolOrNull : Option Bool → Json
  | some b => .bool b
  | none => .null

/-- The member that names the file, if there is a file. -/
def fileMember : Option Text → List (Text × Json)
  | some path => [("file", .text path)]
  | none => []

/-- The members that come before the file. -/
def membersBeforeFile (d : Diagnostic) : List (Text × Json) :=
  [("name", .text d.name), ("message", .text d.message), ("reason", .text d.reason),
   ("line", .integer d.line), ("column", .integer d.column), ("source", textOrNull d.source),
   ("ruleId", .text d.ruleId), ("position", d.position.toJson)]

/-- The members that come after the file. -/
def membersAfterFile (d : Diagnostic) : List (Text × Json) :=
  [("fatal", boolOrNull d.fatal), ("note", .text d.note), ("url", textOrNull d.url)]

/-- The members of the message, in order. -/
def members (d : Diagnostic) : List (Text × Json) :=
  d.membersBeforeFile ++ fileMember d.file ++ d.membersAfterFile

/-- The message that programs read. -/
def toJson (d : Diagnostic) : Json := .object d.members

end Diagnostic

end HtmlDiagnostics
