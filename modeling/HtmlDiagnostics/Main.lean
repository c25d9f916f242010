import HtmlDiagnostics.RuleList.Command

/-! # The command line

Brings the list of rules in a document up to date. What the command says and does is decided in
`HtmlDiagnostics.RuleList.Command`; here files are read and written, and texts are printed. -/

namespace HtmlDiagnostics.RuleList

/-- Reads a document, writes it if it changes, and prints the report about it. -/
def refreshFile (path : FilePath) (checkOnly : Bool) : IO UInt32 := do
  let bytes ← IO.FS.readBinFile path.label.display
  match Refresh.run path.label checkOnly bytes.toList with
  | .error error =>
    IO.eprintln error.message.display
    return 1
  | .ok report =>
    if let some content := report.content then
      IO.FS.writeBinFile path.label.display content.toByteArray
    IO.print report.output.display
    IO.eprint report.complaint.display
    return report.status.toUInt32

/-- The command with the arguments of the command line. -/
def runCommandLine (arguments : List String) : IO UInt32 := do
  match Request.ofArguments (arguments.map Text.ofString) with
  | .error error =>
    IO.eprint (Command.usageMessage error).display
    return 2
  | .ok .help =>
    IO.print Command.helpText.display
    return 0
  | .ok (.refresh path checkOnly) => refreshFile (FilePath.ofText path) checkOnly

end HtmlDiagnostics.RuleList

/-- Runs the command. -/
def main (arguments : List String) : IO UInt32 :=
  HtmlDiagnostics.RuleList.runCommandLine arguments
