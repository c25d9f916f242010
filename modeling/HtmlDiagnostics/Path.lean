import HtmlDiagnostics.Text.Basic

/-! # Paths as texts

* **`Path.directory`**, **`Path.base`** — a path cut behind its last slash.
* **`Path.join`** — a directory and a name put together. -/

namespace HtmlDiagnostics.Path

/-- The slash between the parts of a path. -/
def slash : CodePoint := '/'

/-- The part of a path up to its last slash, the slash included. -/
def head (path : Text) : Text := (path.reverse.dropWhile (· != slash)).reverse

/-- The part of a path after its last slash, or all of it if it has none. -/
def base (path : Text) : Text := (path.reverse.takeWhile (· != slash)).reverse

/-- A text without the slashes at its end. -/
def trimSlashes (t : Text) : Text := (t.reverse.dropWhile (· == slash)).reverse

/-- A text without the slashes at its end, unless it consists of nothing else. -/
def trimTrailing (t : Text) : Text :=
  let trimmed := trimSlashes t
  if trimmed.isEmpty then t else trimmed

/-- The directory of a path: what stands before its last slash, without the slashes at the end
unless there is nothing else. -/
def directory (path : Text) : Text := trimTrailing (head path)

/-- A name in a directory. The empty directory adds nothing, and no slash is put after one. -/
def join (directory name : Text) : Text :=
  if directory.isEmpty || directory.getLast? == some slash then directory ++ name
  else directory ++ slash :: name

/-- A path is the part up to its last slash followed by its base. -/
theorem head_append_base (path : Text) : head path ++ base path = path := by
  rw [head, base, ← List.reverse_append, List.takeWhile_append_dropWhile, List.reverse_reverse]

end HtmlDiagnostics.Path
