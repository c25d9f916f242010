import HtmlDiagnostics.Diagnostic.Basic
import HtmlDiagnostics.Text.Quoted

/-! # Showing diagnostics

* **`Layout`** — the three ways to show a diagnostic.
* **`Style`** — a layout with its choices: whether to shorten long texts, to what length, and
  whether to use colours.
* **`Style.format`**, **`Style.formatAll`** — diagnostics as text, several with an empty line
  between two.
* **`truncate limit t`** — the start of a long text with three dots. -/

namespace HtmlDiagnostics

/-! ## Styles -/

/-- A way to show a diagnostic. -/
inductive Layout where
  /-- Several lines: the message, the place, the note and the link. -/
  | report
  /-- One line. -/
  | line
  /-- The message for programs. -/
  | json
  deriving DecidableEq

/-- The name under which a caller asks for a layout. -/
def Layout.name : Layout → Text
  | .report => "rust"
  | .line => "simple"
  | .json => "json"

/-- The layout with a name. -/
def Layout.ofName? (name : Text) : Option Layout :=
  [report, line, json].find? (·.name = name)

/-- A way to show diagnostics, with its choices. -/
structure Style where
  /-- The layout. -/
  layout : Layout
  /-- Whether long texts are shortened. -/
  shorten : Bool
  /-- Whether the severity is coloured for a terminal. -/
  color : Bool
  /-- How many code points of a long text are kept. -/
  limit : Nat
  /-- At least one code point is kept. -/
  limit_pos : 0 < limit

/-- Why there is no such style. -/
inductive StyleError where
  /-- There is no layout with the name. -/
  | unknownLayout (name : Text)
  /-- The limit for long texts is not positive. -/
  | limitNotPositive
  deriving DecidableEq

/-- What the error says. -/
def StyleError.message : StyleError → Text
  | .unknownLayout name => name.quoted ++ " is not a valid OutputFormat"
  | .limitNotPositive => "max_content_length must be positive"

namespace Style

/-- The style that a caller asks for. The name of the layout is looked at first. -/
def make (layout : Text) (shorten color : Bool) (limit : Int) : Except StyleError Style :=
  match Layout.ofName? layout with
  | none => .error (.unknownLayout layout)
  | some layout =>
    if h : 0 < limit then .ok ⟨layout, shorten, color, limit.toNat, by omega⟩
    else .error .limitNotPositive

end Style

/-! ## Shortening -/

/-- The text itself if it is short enough, and else its start with three dots. -/
def truncate (limit : Nat) (t : Text) : Text :=
  if limit < t.length then t.take limit ++ "..." else t

namespace Style

/-- A text as the style shows it. -/
def shown (style : Style) (t : Text) : Text := if style.shorten then truncate style.limit t else t

/-- The names of the members of a message that hold the long texts. -/
def longMembers : List Text := ["message", "reason", "note"]

/-- A value of a message as a style shows it. -/
def shownValue (style : Style) : Json → Json
  | .text t => .text (style.shown t)
  | other => other

/-- A member of a message as a style shows it: a long text is cut, and everything else stays. -/
def shownMember (style : Style) (member : Text × Json) : Text × Json :=
  if longMembers.contains member.1 then (member.1, style.shownValue member.2) else member

/-! ## Layouts -/

/-- The word for the weight of a diagnostic, in bold red for an error and in bold yellow for a
warning if the style uses colours. -/
def severityWord (style : Style) (d : Diagnostic) : Text :=
  if style.color then
    (if d.isError then "\x1b[1;31m" else "\x1b[1;33m") ++ d.severityLabel ++ "\x1b[0m"
  else d.severityLabel

/-- A line that is there only if a text has something to say. -/
def lineUnless (silent : Bool) (line : Text) : List Text := if silent then [] else [line]

/-- The link of a diagnostic, empty without one. -/
def link (d : Diagnostic) : Text := d.url.getD []

/-- The lines of a diagnostic in the layout with several lines. -/
def reportLines (style : Style) (d : Diagnostic) : List Text :=
  [style.severityWord d ++ "[" ++ d.ruleId ++ "]: " ++ style.shown d.message, "  --> " ++ d.name]
  ++ lineUnless d.note.isEmpty ("  = note: " ++ style.shown d.note)
  ++ lineUnless (link d).isEmpty ("  = help: see " ++ link d)

/-- A diagnostic on one line. -/
def oneLine (style : Style) (d : Diagnostic) : Text :=
  d.name ++ ": " ++ d.severityLabel ++ ": " ++ style.shown d.message ++ " [" ++ d.ruleId ++ "]"

/-- A diagnostic as text. The layout for programs writes the numbers of the diagnostic as well, so
it is meant for diagnostics whose numbers have `maxNumberDigits` digits at most. -/
def format (style : Style) (d : Diagnostic) : Text :=
  match style.layout with
  | .report => Text.joinWith "\n" (style.reportLines d)
  | .line => style.oneLine d
  | .json => (Json.object (d.members.map style.shownMember)).render

/-- Diagnostics as text, with an empty line between two. -/
def formatAll (style : Style) (ds : List Diagnostic) : Text :=
  Text.joinWith "\n\n" (ds.map style.format)

end Style

end HtmlDiagnostics
