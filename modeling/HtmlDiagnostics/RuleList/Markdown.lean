import HtmlDiagnostics.Rule.Known
import HtmlDiagnostics.Rule.Link
import HtmlDiagnostics.Text.LowerCase

/-! # The list of rules as Markdown

* **`RuleList.item`** — one rule as a list item: its key, linked to the HTML standard if there is
  an anchor, its reason, and a link to its example.
* **`RuleList.render`** — all rules of a map, one item a line. -/

namespace HtmlDiagnostics.RuleList

/-- The rules without an example: a lone surrogate cannot be stored in a file of UTF-8. -/
def withoutExample : List Text := ["surrogateInInputStream"]

/-- A key as inline code. -/
def inlineCode (key : Text) : Text := CodePoint.ofChar '\x60' :: key ++ [CodePoint.ofChar '\x60']

/-- A link in Markdown. -/
def link (label target : Text) : Text := "[" ++ label ++ "](" ++ target ++ ")"

/-- What an item calls its rule: the key, as a link if the rule has an anchor. -/
def heading (key : Text) (rule : Rule) : Text :=
  if rule.hasAnchor then link (inlineCode key) (anchorUrl (hyphenCase key)) else inlineCode key

/-- The link to the example of a rule, if there is one. -/
def example? (repository key : Text) : Text :=
  if key ∈ withoutExample then []
  else " (" ++ link "example" (exampleUrl repository (hyphenCase key)) ++ ")"

/-- A rule as a list item. The reason goes on with the line, so its first letter is a small one. -/
def item (repository key : Text) (rule : Rule) : Text :=
  "* " ++ heading key rule ++ " — " ++ Text.lowerFirst rule.reason ++ example? repository key

/-- The rules of a map as a list, in order, with a line feed at the end. -/
def render (repository : Text) (rules : OrderedMap Rule) : Text :=
  Text.joinWith "\n" (rules.entries.map fun entry => item repository entry.1 entry.2) ++ "\n"

end HtmlDiagnostics.RuleList
