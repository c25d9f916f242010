import HtmlDiagnostics.Diagnostic.Basic

/-! # Sinks

* **`Sink σ ε`** — who receives the diagnostics: a step from one state to the next that may fail. -/

namespace HtmlDiagnostics

/-- A receiver of diagnostics. It goes from one state to the next, or fails and keeps its state. -/
abbrev Sink (σ ε : Type) := σ → Diagnostic → Except ε σ

end HtmlDiagnostics
