import HtmlDiagnostics.RuleList.Arguments
import HtmlDiagnostics.RuleList.Refresh
import HtmlDiagnostics.FileTree

/-! # The command

* **`Command.helpText`**, **`Command.usageLine`** — what the command says about itself.
* **`Command.run`** — the command on a tree of files: what it prints, how it ends, and the files
  afterwards. -/

namespace HtmlDiagnostics.RuleList

namespace Command

/-- The name of the command. -/
def programName : Text := "generate_parse_error_docs.py"

/-- How the command is used. -/
def usageLine : Text := "usage: " ++ programName ++ " [-h] [--check] [path]\n"

/-- What the command says when it is asked for help. -/
def helpText : Text :=
  usageLine
    ++ "\nRegenerate the parse error list in README.md.\n"
    ++ "\npositional arguments:\n  path\n"
    ++ "\noptions:\n"
    ++ "  -h, --help  show this help message and exit\n"
    ++ "  --check     Do not write; exit 1 if the file would change\n"

/-- What the command says when it does not understand its arguments. -/
def usageMessage (e : UsageError) : Text :=
  usageLine ++ programName ++ ": error: " ++ e.message ++ "\n"

/-- Why the command fails on a file. -/
inductive CommandError where
  /-- The file cannot be opened. -/
  | file (error : FileError)
  /-- The file is no UTF-8. -/
  | decode (error : Utf8.DecodeError)
  deriving DecidableEq

/-- What the failure says. -/
def CommandError.message : CommandError → Text
  | .file error => error.message
  | .decode error => error.message

/-- How the command ends. -/
inductive Ending where
  /-- It has done its work, with a status. -/
  | finished (status : Nat)
  /-- It has not started on its work because of its arguments, with a status. -/
  | usage (status : Nat)
  /-- It has failed on a file. -/
  | failed (error : CommandError)
  deriving DecidableEq

/-- What comes of the command. -/
structure Outcome where
  /-- How it ends. -/
  ending : Ending
  /-- What it prints as a result. -/
  output : Text
  /-- What it prints as a complaint. -/
  complaint : Text
  /-- The files afterwards. -/
  files : FileTree

/-- Brings the list in one file up to date, or only checks it. -/
def refresh (files : FileTree) (path : FilePath) (checkOnly : Bool) : Outcome :=
  match files.read path with
  | .error error => ⟨.failed (.file error), [], [], files⟩
  | .ok bytes =>
    match Refresh.run path.label checkOnly bytes with
    | .error error => ⟨.failed (.decode error), [], [], files⟩
    | .ok report =>
      { ending := .finished report.status
        output := report.output
        complaint := report.complaint
        files := match report.content with
          | none => files
          | some bytes => files.write path bytes }

/-- The command with its arguments. -/
def run (files : FileTree) (arguments : List Text) : Outcome :=
  match Request.ofArguments arguments with
  | .error error => ⟨.usage 2, [], usageMessage error, files⟩
  | .ok .help => ⟨.usage 0, helpText, [], files⟩
  | .ok (.refresh path checkOnly) => refresh files (FilePath.ofText path) checkOnly

end Command

end HtmlDiagnostics.RuleList
