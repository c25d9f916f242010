import HtmlDiagnostics.Rule.Name

/-! # Links to documentation

* **`anchorUrl code`** — the anchor of a rule in the HTML standard.
* **`exampleUrl repository code`** — the example file of a rule in a repository.

Both go by the code of a rule in hyphen case. -/

namespace HtmlDiagnostics

/-- The chapter of the HTML standard about parsing. -/
def parsingChapterUrl : Text := "https://html.spec.whatwg.org/multipage/parsing.html"

/-- What the anchors of all parse errors start with. -/
def anchorBase : Text := parsingChapterUrl ++ "#parse-error-"

/-- The repository with the examples. -/
def exampleRepository : Text := "syntax-tree/hast-util-from-html"

/-- The anchor of a rule in the HTML standard. -/
def anchorUrl (code : Text) : Text := anchorBase ++ code

/-- The example file of a rule in a repository. -/
def exampleUrl (repository code : Text) : Text :=
  "https://github.com/" ++ repository ++ "/blob/main/test/parse-error/" ++ code ++ "/index.html"

end HtmlDiagnostics
