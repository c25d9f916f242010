import HtmlDiagnostics.Text.DecimalDigit
import HtmlDiagnostics.Text.Quoted

/-! # Arguments of the command

The command takes one path, which may be left out, and two options: one to check only, one for
help. Options and the path may stand in any order. A long option may be shortened to any start
that only one of them has. After two hyphens that stand alone everything is a path.

* **`Word`** — what a single argument means.
* **`Word.ofText`** — the meaning of an argument in front of two lone hyphens.
* **`Request`** — what the caller wants.
* **`Request.ofArguments`** — the request that some arguments make. -/

namespace HtmlDiagnostics.RuleList

/-! ## Requests -/

/-- Why arguments are refused. -/
inductive UsageError where
  /-- The start of a long option that both of them have. -/
  | ambiguous (written : Text)
  /-- A value for an option that takes none. -/
  | unusedValue (option value : Text)
  /-- Arguments that nothing is made of. -/
  | unrecognized (arguments : List Text)
  deriving DecidableEq

/-- What the refusal says. -/
def UsageError.message : UsageError → Text
  | .ambiguous written => "ambiguous option: " ++ written ++ " could match --help, --check"
  | .unusedValue option value =>
    "argument " ++ option ++ ": ignored explicit argument " ++ value.quoted
  | .unrecognized arguments => "unrecognized arguments: " ++ Text.joinWith " " arguments

/-- What the caller wants. -/
inductive Request where
  /-- To see the help. -/
  | help
  /-- To have the list in a file brought up to date, or only checked. -/
  | refresh (path : Text) (checkOnly : Bool)
  deriving DecidableEq

/-- The file that is meant if none is named. -/
def defaultPath : Text := "README.md"

/-! ## Single arguments -/

/-- The hyphen that options start with. -/
def hyphen : CodePoint := '-'

/-- The sign between an option and its value. -/
def equalsSign : CodePoint := '='

/-- What a single argument means. -/
inductive Word where
  /-- A path. -/
  | path (path : Text)
  /-- The option for help. -/
  | help
  /-- The option to check only. -/
  | check
  /-- An option used in a wrong way. -/
  | misused (error : UsageError)
  /-- An option that does not exist. -/
  | unknown (written : Text)
  deriving DecidableEq

/-- The two names of the option for help, as a message shows them. -/
def helpNames : Text := "-h/--help"

/-- The name of the option to check only. -/
def checkName : Text := "--check"

/-- What stands behind the short option for help in the same argument: more short options, of which
only the same one exists. Anything else, and an empty value, is a value that it does not take. -/
def Word.ofShortHelp (attached : Text) : Word :=
  if attached.isEmpty then .misused (.unusedValue helpNames [])
  else match attached.dropWhile (· == CodePoint.ofChar 'h') with
    | [] => .help
    | rest => .misused (.unusedValue helpNames rest)

/-- A long option that takes no value. -/
def Word.ofLong (word : Word) (name : Text) : Option Text → Word
  | none => word
  | some value => .misused (.unusedValue name value)

/-- An argument cut at its first equals sign: what stands in front and what stands behind it. -/
def cutAtEquals (argument : Text) : Text × Option Text :=
  (argument.takeWhile (· != equalsSign),
   match argument.dropWhile (· != equalsSign) with
   | [] => none
   | _ :: value => some value)

/-- Whether digits make up all of a text, and there is at least one. -/
def areDigits (t : Text) : Bool := !t.isEmpty && t.all CodePoint.isDigit

/-- Whether a text is a number without its sign: digits, or a point with digits behind it and
maybe in front. A line feed at the end does not count. -/
def isNumeral (t : Text) : Bool :=
  let body := if t.getLast? = some (CodePoint.ofChar '\n') then t.dropLast else t
  let whole := body.takeWhile CodePoint.isDigit
  match body.dropWhile CodePoint.isDigit with
  | [] => !whole.isEmpty
  | c :: fraction => c = CodePoint.ofChar '.' && areDigits fraction

/-- What an argument means that starts like an option but is none: a negative number or a text
with a space is a path after all. -/
def Word.ofUnmatched (argument : Text) : Word :=
  if isNumeral argument.tail || argument.contains (CodePoint.ofChar ' ') then .path argument
  else .unknown argument

/-- What an argument means in front of two lone hyphens. A start that both long options have is
refused at once. -/
def Word.ofText (argument : Text) : Except UsageError Word :=
  match argument with
  | [] => .ok (.path [])
  | [c] => .ok (.path [c])
  | c :: d :: rest =>
    if c ≠ hyphen then .ok (.path argument)
    else
      let (name, value) := cutAtEquals argument
      if d = hyphen then
        let matchesHelp := name.isPrefixOf "--help"
        let matchesCheck := name.isPrefixOf checkName
        if matchesHelp && matchesCheck then .error (.ambiguous argument)
        else if matchesHelp then .ok (Word.help.ofLong helpNames value)
        else if matchesCheck then .ok (Word.check.ofLong checkName value)
        else .ok (.ofUnmatched argument)
      else if d = CodePoint.ofChar 'h' then
        match rest with
        | [] => .ok .help
        | e :: attached =>
          if e = equalsSign then .ok (.ofShortHelp attached)
          else .ok (.ofShortHelp (e :: attached))
      else .ok (.ofUnmatched argument)

/-! ## All arguments -/

/-- Two hyphens that stand alone. -/
def separator : Text := "--"

/-- The meanings of the arguments up to two lone hyphens, and what comes behind those if they are
there. -/
def words : List Text → Except UsageError (List Word × Option (List Text))
  | [] => .ok ([], none)
  | argument :: rest =>
    if argument = separator then .ok ([], some rest)
    else do
      let word ← Word.ofText argument
      let (following, behind) ← words rest
      return (word :: following, behind)

/-- What has been gathered from the arguments so far. -/
structure Gathered where
  /-- The path. -/
  path : Option Text
  /-- Whether the path was the last thing gathered. -/
  pathIsLast : Bool
  /-- Whether to check only. -/
  checkOnly : Bool
  /-- Arguments that nothing was made of. -/
  unrecognized : List Text

/-- What a run through the arguments ends with. -/
inductive Gathering where
  /-- The help was asked for on the way. -/
  | help
  /-- An option was misused on the way. -/
  | misused (error : UsageError)
  /-- All words have been gathered. -/
  | done (gathered : Gathered)

/-- Gathers words from left to right. The first path is the path, and everything that nothing can
be made of is kept. -/
def gather (g : Gathered) : List Word → Gathering
  | [] => .done g
  | .help :: _ => .help
  | .misused error :: _ => .misused error
  | .check :: rest => gather { g with checkOnly := true, pathIsLast := false } rest
  | .unknown written :: rest =>
    gather { g with unrecognized := g.unrecognized ++ [written], pathIsLast := false } rest
  | .path path :: rest =>
    if g.path.isNone then gather { g with path := some path, pathIsLast := true } rest
    else gather { g with unrecognized := g.unrecognized ++ [path], pathIsLast := false } rest

/-- Gathers what stands behind two lone hyphens. The hyphens themselves are dropped next to the
path that they belong to, and kept as unrecognized elsewhere. -/
def gatherBehind (g : Gathered) : Option (List Text) → Gathered
  | none => g
  | some behind =>
    if g.path.isNone then
      { g with path := behind.head?, unrecognized := g.unrecognized ++ behind.tail }
    else if g.pathIsLast then { g with unrecognized := g.unrecognized ++ behind }
    else { g with unrecognized := g.unrecognized ++ separator :: behind }

/-- The request that some arguments make. -/
def Request.ofArguments (arguments : List Text) : Except UsageError Request := do
  let (words, behind) ← words arguments
  match gather ⟨none, false, false, []⟩ words with
  | .help => return .help
  | .misused error => throw error
  | .done g =>
    let g := gatherBehind g behind
    if g.unrecognized.isEmpty then return .refresh (g.path.getD defaultPath) g.checkOnly
    else throw (.unrecognized g.unrecognized)

end HtmlDiagnostics.RuleList
