import HtmlDiagnostics.RuleList.Markdown
import HtmlDiagnostics.Text.Search

/-! # The zone for the list of rules

A document reserves a zone for the list between two markers. The zone reaches from the first start
marker to the first end marker behind it.

* **`Zone.find?`** — the text in front of the zone and the text behind it.
* **`Zone.update`** — the document with the current list in its zone. -/

namespace HtmlDiagnostics.RuleList.Zone

/-- The marker in front of the list. -/
def startMarker : Text := "<!-- parse-error start -->"

/-- The marker behind the list. -/
def endMarker : Text := "<!-- parse-error end -->"

/-- The list of all known rules. -/
def ruleList : Text := RuleList.render exampleRepository knownRules

/-- The zone as it should be: both markers, and the list between empty lines. -/
def content : Text := startMarker ++ "\n\n" ++ ruleList ++ "\n" ++ endMarker

/-- The text in front of the zone and the text behind it, `none` if there is no zone. -/
def find? (t : Text) : Option (Text × Text) :=
  match Text.breakOn? startMarker t with
  | none => none
  | some (before, rest) =>
    match Text.breakOn? endMarker rest with
    | none => none
    | some (_, after) => some (before, after)

/-- The document with the current list in its zone, `none` if it has no zone. -/
def update (t : Text) : Option Text :=
  (find? t).map fun (before, after) => before ++ content ++ after

end HtmlDiagnostics.RuleList.Zone
