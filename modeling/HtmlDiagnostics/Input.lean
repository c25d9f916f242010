import HtmlDiagnostics.Path

/-! # What is parsed

* **`InputFile`** — a text with the path it came from, if it came from a file.
* **`InputFile.moveTo?`** — the same file in another directory.
* **`Input`** — what a caller may hand in: a bare text or a file. -/

namespace HtmlDiagnostics

/-- A text to parse, with the path it came from if there is one. -/
structure InputFile where
  /-- The text. -/
  text : Text
  /-- The path. -/
  path : Option Text
  deriving DecidableEq

namespace InputFile

/-- A text that came from no file. -/
def anonymous (text : Text) : InputFile := ⟨text, none⟩

/-- The directory of the file. -/
def directory (file : InputFile) : Option Text := file.path.map Path.directory

/-- The name of the file within its directory. -/
def base (file : InputFile) : Option Text := file.path.map Path.base

/-- The same file in another directory. A text without a path cannot be moved. -/
def moveTo? (file : InputFile) (directory : Text) : Option InputFile :=
  file.path.map fun path => { file with path := some (Path.join directory (Path.base path)) }

/-- The message about moving a text without a path. -/
def notMovable : Text := "Cannot set dirname on a file without a path"

/-- A move leaves the text alone. -/
theorem text_of_moveTo? {file moved : InputFile} {directory : Text}
    (h : file.moveTo? directory = some moved) : moved.text = file.text := by
  obtain ⟨_, _, rfl⟩ := Option.map_eq_some_iff.1 h
  rfl

end InputFile

/-- What a caller may hand in to be parsed. -/
inductive Input where
  /-- A text without a path. -/
  | text (text : Text)
  /-- A file. -/
  | file (file : InputFile)

/-- The file to parse: a bare text becomes a file without a path, a file stays what it is. -/
def Input.toFile : Input → InputFile
  | .text t => .anonymous t
  | .file f => f

end HtmlDiagnostics
