import HtmlDiagnostics.RuleList.Zone
import HtmlDiagnostics.Encoding.Newline
import HtmlDiagnostics.Encoding.Utf8

/-! # Bringing a document up to date

A document is read as UTF-8 with any line ends, its zone gets the current list, and if that
changes the text, the document is written back with line feeds.

* **`Refresh.read`** — the text of the bytes of a document.
* **`Refresh.run`** — what is to be said about a document, and the bytes to write, if any. -/

namespace HtmlDiagnostics.RuleList.Refresh

/-- What is to be done about a document. -/
structure Report where
  /-- The status that the command ends with. -/
  status : Nat
  /-- What is printed as a result. -/
  output : Text
  /-- What is printed as a complaint. -/
  complaint : Text
  /-- The bytes to write, if the document changes. -/
  content : Option (List UInt8)
  deriving DecidableEq

/-- The text of the bytes of a document. -/
def read (bytes : List UInt8) : Except Utf8.DecodeError Text :=
  (Utf8.decode bytes).map Newline.unify

/-- A line that says something about a document. -/
def line (name remark : Text) : Text := name ++ ": " ++ remark ++ "\n"

/-- The report about a text. A text that is up to date is not written again. -/
def report (name : Text) (checkOnly : Bool) (text : Text) : Report :=
  match Zone.update text with
  | none => ⟨2, [], line name "markers not found", none⟩
  | some updated =>
    if updated = text then ⟨0, line name "up to date", [], none⟩
    else if checkOnly then ⟨1, [], line name "parse error list is out of date", none⟩
    else ⟨0, line name "updated", [], some (Utf8.encode updated)⟩

/-- The report about the bytes of a document with a name. -/
def run (name : Text) (checkOnly : Bool) (bytes : List UInt8) :
    Except Utf8.DecodeError Report :=
  (read bytes).map (report name checkOnly)

end HtmlDiagnostics.RuleList.Refresh
