import HtmlDiagnostics.Diagnostic.Basic
import HtmlDiagnostics.Event
import HtmlDiagnostics.Log
import HtmlDiagnostics.Rule.Known
import HtmlDiagnostics.Rule.Link
import HtmlDiagnostics.Template

/-! # The diagnostic of an event

* **`ParseContext`** — what is known about the parse that an event belongs to.
* **`diagnosticName`** — how a diagnostic is named after its file and its range.
* **`BuildError`** — why there is no diagnostic although there should be one.
* **`ParseContext.build`** — the diagnostic of an event, or nothing if its rule is off.
* **`ParseContext.buildNotes`** — what is noted down about that. -/

namespace HtmlDiagnostics

/-- What is known about the parse that an event belongs to. -/
structure ParseContext where
  /-- The text that is parsed. -/
  source : Text
  /-- The settings of rules. -/
  settings : OrderedMap Setting
  /-- The path of the file that is parsed. -/
  path : Option Text

/-- The tag that tells where the diagnostics of this library come from. -/
def diagnosticSource : Text := "parse-error"

/-- A path that says something: the empty path counts as none. -/
def knownPath : Option Text → Option Text
  | some [] => none
  | path => path

/-- The name of a diagnostic: the label of its range, after the path if there is one. -/
def diagnosticName (path : Option Text) (label : Text) : Text :=
  match knownPath path with
  | none => label
  | some path => path ++ ":" ++ label

/-- The rule of a code, with a stand-in for an unknown one. -/
def ruleOf (code : Text) : Rule := (knownRules.get? (camelCase code)).getD Rule.unknown

/-- Why the diagnostic of an event cannot be built. -/
inductive BuildError where
  /-- A line or a column of the event cannot be written. -/
  | position (error : WriteError)
  /-- A text of the rule cannot be rendered. -/
  | render (error : Template.RenderError)
  deriving DecidableEq

/-- What the error says. -/
def BuildError.message : BuildError → Text
  | .position error => error.message
  | .render error => error.message

namespace ParseContext

/-- The severity of the rule of an event. -/
def severity (context : ParseContext) (e : Event) : Severity :=
  severityOf (camelCase e.code) context.settings

/-- The diagnostic of an event whose rule is on. Its texts are the templates of the rule, filled
in at the start of the event. The range is written before the templates are looked at. -/
def assemble (context : ParseContext) (e : Event) (fatal : Bool) :
    Except BuildError Diagnostic := do
  let rule := ruleOf e.code
  let label ← e.span.label.mapError .position
  let reason ← (Template.render rule.reason context.source e.span.start.offset).mapError .render
  let note ← (Template.render rule.explanation context.source e.span.start.offset).mapError .render
  return { ruleId := e.code
           message := reason
           reason := reason
           note := note
           name := diagnosticName context.path label
           line := e.span.start.line
           column := e.span.start.column
           position := e.span
           fatal := some fatal
           source := some diagnosticSource
           url := if rule.hasAnchor then some (anchorUrl e.code) else none
           file := knownPath context.path }

/-- The diagnostic of an event, or nothing if its rule is off. -/
def build (context : ParseContext) (e : Event) : Except BuildError (Option Diagnostic) :=
  match context.severity e with
  | .off => .ok none
  | .warning => (context.assemble e false).map some
  | .fatal => (context.assemble e true).map some

/-- The notes taken while the diagnostic of an event is built: one if its rule is on and unknown.
The rule is looked up first, so the note is taken also when the building fails. -/
def buildNotes (context : ParseContext) (e : Event) : List Note :=
  if context.severity e = .off ∨ isKnown (camelCase e.code) then [] else [.ruleUnknown e.code]

end ParseContext

end HtmlDiagnostics
