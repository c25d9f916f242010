import HtmlDiagnostics.Configuration
import HtmlDiagnostics.Delivery
import HtmlDiagnostics.Input

/-! # Parsing with diagnostics

A parser of HTML is a part that others supply: it reads a text, tells of parse errors while it
does so, and returns a tree. A parse drives such a parser, hands its errors to the sink of the
caller as diagnostics, and converts the tree.

* **`HtmlParser τ`** — which errors a parser tells of, and which tree it returns.
* **`Configuration.listener`** — who listens to the errors: nobody if there is no sink.
* **`parse`** — one parse. Without a listener the parser reads no event at all. -/

namespace HtmlDiagnostics

variable {σ ε τ ρ : Type}

/-- A parser of HTML. -/
structure HtmlParser (τ : Type) where
  /-- The events that it tells of, in order. -/
  events : Mode → Text → List RawEvent
  /-- The tree that it returns. -/
  tree : Mode → Text → τ

/-- What a parser is asked to do. -/
structure ParserCall where
  /-- The text to parse. -/
  source : Text
  /-- What the text is. -/
  mode : Mode
  /-- Whether somebody listens to its errors. -/
  listening : Bool
  deriving DecidableEq

/-- What comes of a parse. -/
structure Parsed (σ ε ρ : Type) where
  /-- What the parser was asked to do. -/
  call : ParserCall
  /-- The state of the sink afterwards. -/
  state : σ
  /-- The notes taken. -/
  notes : List Note
  /-- The converted tree, or the failure that ended the parse. -/
  result : Except (Failure ε) ρ

/-- Who listens to the errors of a parser: a sink that knows about the parse, or nobody if there
is no sink. -/
def Configuration.listener (configuration : Configuration σ ε) (file : InputFile) :
    Option (ParseContext × Sink σ ε) :=
  configuration.sink.map fun sink => (⟨file.text, configuration.settings, file.path⟩, sink)

/-- The parser at work: while somebody listens it tells of its events one by one, until one of
them fails; with nobody listening it tells of none. -/
def HtmlParser.run (parser : HtmlParser τ) (mode : Mode) (text : Text)
    (listener : Option (ParseContext × Sink σ ε)) (state : σ) : Run σ ε :=
  match listener with
  | none => .start state
  | some (context, sink) => context.receive (some sink) state (parser.events mode text)

/-- Parses a text or a file. -/
def parse (parser : HtmlParser τ) (configuration : Configuration σ ε) (convert : τ → InputFile → ρ)
    (input : Input) (state : σ) : Parsed σ ε ρ :=
  let file := input.toFile
  let listener := configuration.listener file
  let run := parser.run configuration.mode file.text listener state
  { call := ⟨file.text, configuration.mode, listener.isSome⟩
    state := run.state
    notes := .parsing file.path file.text.length configuration.mode :: run.notes
    result := match run.failure with
      | some failure => .error failure
      | none => .ok (convert (parser.tree configuration.mode file.text) file) }

/-- The conversion that leaves the tree as it is. -/
def keepTree (tree : τ) (_ : InputFile) : τ := tree

end HtmlDiagnostics
