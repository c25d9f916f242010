import HtmlDiagnostics.Encoding.FileName
import HtmlDiagnostics.OrderedMap
import HtmlDiagnostics.Path
import HtmlDiagnostics.Text.Quoted
import HtmlDiagnostics.Text.Search

/-! # Files by path

The files below a working directory, as far as a program that reads and writes one of them can
tell them apart. Names with the same bytes are the same name.

* **`FilePath`** — a path cut into its parts; **`FilePath.ofText`** drops what means nothing.
* **`FileTree`** — the files with their bytes, and the directories; **`FileTree.ofList`** makes
  the directories on the way to each file.
* **`FileTree.locate`** — the file that a path leads to, walking the path part by part.
* **`FileTree.read`**, **`FileTree.write`** — the bytes of a file. -/

namespace HtmlDiagnostics

/-! ## Paths -/

/-- A path cut into its parts. -/
structure FilePath where
  /-- The slashes that it starts with: none, one, or two. -/
  root : Text
  /-- The names on the way. -/
  parts : List Text
  deriving DecidableEq

namespace FilePath

/-- The name that leads to the directory above. -/
def parent : Text := ".."

/-- The path that a text names. Empty parts and single dots lead nowhere and are dropped. Exactly
two slashes at the start are kept, more than two count as one. -/
def ofText (t : Text) : FilePath where
  root :=
    let slashes := t.takeWhile (· == Path.slash)
    if slashes.length ≤ 2 then slashes else [Path.slash]
  parts := (Text.cutAt Path.slash t).filter fun part => part ≠ [] ∧ part ≠ "."

/-- The path as a text. The path without parts is the working directory. -/
def label (p : FilePath) : Text :=
  if p.root = [] ∧ p.parts = [] then "." else p.root ++ Text.joinWith [Path.slash] p.parts

end FilePath

/-! ## Trees of files -/

/-- Why a file cannot be opened. -/
inductive FileError where
  /-- Nothing lies there. -/
  | notFound (path : FilePath)
  /-- A directory lies there. -/
  | isDirectory (path : FilePath)
  /-- A file lies where a directory is needed. -/
  | notADirectory (path : FilePath)
  /-- The path, or a name in it, takes more bytes than it may. -/
  | nameTooLong (path : FilePath)
  /-- A zero byte stands in the path. -/
  | zeroByte
  /-- A code point of the path has no bytes. -/
  | noBytes (error : FileName.EncodeError)
  deriving DecidableEq

/-- What the error says. -/
def FileError.message : FileError → Text
  | .notFound path => "[Errno 2] No such file or directory: " ++ path.label.quoted
  | .isDirectory path => "[Errno 21] Is a directory: " ++ path.label.quoted
  | .notADirectory path => "[Errno 20] Not a directory: " ++ path.label.quoted
  | .nameTooLong path => "[Errno 36] File name too long: " ++ path.label.quoted
  | .zeroByte => "embedded null byte"
  | .noBytes error => error.message

/-- The files below a working directory. A file or directory goes by the names on the way to it,
with slashes between them. -/
structure FileTree where
  /-- The bytes of the files. -/
  files : OrderedMap (List UInt8)
  /-- Directories, with or without a file in them. -/
  directories : List Text

namespace FileTree

/-- The most bytes that a name may take. -/
def maxNameSize : Nat := 255

/-- The most bytes that a path may take. -/
def maxPathSize : Nat := 4095

/-- Whether a name takes more bytes than it may. -/
def isTooLong (name : Text) : Bool := maxNameSize < (FileName.bytes name).length

/-- The key of the file or directory that some names lead to. -/
def keyOf (names : List Text) : Text := FileName.canonical (Text.joinWith [Path.slash] names)

/-- Whether some names lead to a file. -/
def isFile (tree : FileTree) (names : List Text) : Bool := (tree.files.get? (keyOf names)).isSome

/-- Whether some names lead to a directory: the working directory, one that is listed, or one with
a file in it. -/
def isDirectory (tree : FileTree) (names : List Text) : Bool :=
  names.isEmpty || tree.directories.contains (keyOf names)
    || tree.files.keys.any ((keyOf names ++ [Path.slash]).isPrefixOf ·)

/-! ## Filling a tree -/

/-- The tree without files. -/
def empty : FileTree := ⟨.empty, []⟩

/-- The places that one comes to by going along some names, each as the names that lead there from
the working directory, unless the way leads above that. -/
def places? (here : List Text) : List Text → Option (List (List Text))
  | [] => some []
  | name :: rest =>
    if name = FilePath.parent then
      if here.isEmpty then none
      else (places? here.dropLast rest).map (here.dropLast :: ·)
    else (places? (here ++ [name]) rest).map ((here ++ [name]) :: ·)

/-- The tree with one more file, and with the directories on the way to it. A file that lies
elsewhere adds nothing. -/
def add (tree : FileTree) (path : FilePath) (bytes : List UInt8) : FileTree :=
  match places? [] path.parts with
  | none => tree
  | some places =>
    { files := tree.files.insert (keyOf (places.getLast?.getD [])) bytes
      directories := tree.directories ++ places.dropLast.map keyOf }

/-- The tree with the given files. -/
def ofList (files : List (Text × List UInt8)) : FileTree :=
  files.foldl (fun tree file => tree.add (.ofText file.1) file.2) empty

/-! ## Finding a file -/

/-- What some names lead to outside the working directory. Nothing is known to lie there except
the directories above. -/
def errorOutside (path : FilePath) (names : List Text) : FileError :=
  match names.dropWhile (· = FilePath.parent) with
  | [] => .isDirectory path
  | name :: _ => if isTooLong name then .nameTooLong path else .notFound path

/-- The names that lead from the working directory to the file at the end of a path. Every name
but the last has to lead to a directory. -/
def walk (tree : FileTree) (path : FilePath) (here : List Text) :
    List Text → Except FileError (List Text)
  | [] =>
    if tree.isFile here then .ok here
    else if tree.isDirectory here then .error (.isDirectory path)
    else .error (.notFound path)
  | name :: rest =>
    if tree.isFile here then .error (.notADirectory path)
    else if !tree.isDirectory here then .error (.notFound path)
    else if name = FilePath.parent then
      if here.isEmpty then .error (errorOutside path rest)
      else walk tree path here.dropLast rest
    else if isTooLong name then .error (.nameTooLong path)
    else walk tree path (here ++ [name]) rest

/-- The key of the file that a path leads to. A path is looked at as a whole before it is walked.
One that starts with a slash leads out of the tree. -/
def locate (tree : FileTree) (path : FilePath) : Except FileError Text :=
  match FileName.encode path.label with
  | .error error => .error (.noBytes error)
  | .ok bytes =>
    if 0 ∈ bytes then .error .zeroByte
    else if maxPathSize < bytes.length then .error (.nameTooLong path)
    else if path.root = [] then (tree.walk path [] path.parts).map keyOf
    else .error (errorOutside path path.parts)

/-- The bytes of the file that a path leads to. -/
def read (tree : FileTree) (path : FilePath) : Except FileError (List UInt8) :=
  match tree.locate path with
  | .error e => .error e
  | .ok key => .ok ((tree.files.get? key).getD [])

/-- The tree after writing bytes to the file that a path leads to. -/
def write (tree : FileTree) (path : FilePath) (bytes : List UInt8) : FileTree :=
  match tree.locate path with
  | .error _ => tree
  | .ok key => { tree with files := tree.files.insert key bytes }

/-- The files in the order of their keys. -/
def sortedFiles (tree : FileTree) : List (Text × List UInt8) :=
  tree.files.entries.mergeSort fun a b => decide (a.1 ≤ b.1)

end FileTree

end HtmlDiagnostics
