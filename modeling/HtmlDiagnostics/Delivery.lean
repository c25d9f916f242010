import HtmlDiagnostics.Diagnostic.Build
import HtmlDiagnostics.Sink

/-! # Delivering diagnostics

The events of a parse are turned into diagnostics one by one, and each diagnostic is handed to the
sink before the next event is looked at.

* **`Run σ ε`** — how far the events were handled: the state of the sink, the notes taken, and the
  failure that ended it, if there was one.
* **`ParseContext.report`** — one event: build the diagnostic, note it down, hand it to the sink.
* **`ParseContext.reportAll`**, **`ParseContext.receive`** — events one after the other, until one
  fails. -/

namespace HtmlDiagnostics

variable {σ ε : Type}

/-! ## Runs -/

/-- Why the handling of events ended early. -/
inductive Failure (ε : Type) where
  /-- An event on the wire lacked a field. -/
  | missingField (field : EventField)
  /-- The diagnostic of an event could not be built. -/
  | build (error : BuildError)
  /-- The sink failed. -/
  | sink (error : ε)
  deriving DecidableEq

/-- How far the events were handled. -/
structure Run (σ ε : Type) where
  /-- The state of the sink afterwards. -/
  state : σ
  /-- The notes taken. -/
  notes : List Note
  /-- What ended the run, if it did not reach the end. -/
  failure : Option (Failure ε)

/-- The run over no events. -/
def Run.start (state : σ) : Run σ ε := ⟨state, [], none⟩

/-- One run after the other. A run that failed is not continued. -/
def Run.andThen (run : Run σ ε) (next : σ → Run σ ε) : Run σ ε :=
  match run.failure with
  | some _ => run
  | none => { next run.state with notes := run.notes ++ (next run.state).notes }

/-- A run that failed stays what it is. -/
theorem Run.andThen_of_failure {run : Run σ ε} {failure : Failure ε}
    (h : run.failure = some failure) (next : σ → Run σ ε) : run.andThen next = run := by
  rw [andThen, h]

/-- A run over no events adds nothing to what follows. -/
@[simp] theorem Run.start_andThen (state : σ) (next : σ → Run σ ε) :
    (Run.start state).andThen next = next state := rfl

/-- Runs can be put together in any grouping. -/
theorem Run.andThen_assoc (run : Run σ ε) (next last : σ → Run σ ε) :
    (run.andThen next).andThen last = run.andThen fun state => (next state).andThen last := by
  obtain ⟨state, notes, failure⟩ := run
  cases failure with
  | some failure => rfl
  | none =>
    simp only [andThen]
    split <;> rename_i h <;> simp only [h, List.append_assoc]

/-! ## Events -/

/-- Hands a diagnostic to the sink, if there is one. -/
def deliver (sink : Option (Sink σ ε)) (state : σ) (d : Diagnostic) : Run σ ε :=
  match sink with
  | none => .start state
  | some sink =>
    match sink state d with
    | .ok state => .start state
    | .error e => ⟨state, [], some (.sink e)⟩

namespace ParseContext

/-- Handles one event: a diagnostic is noted down before the sink gets it. -/
def report (context : ParseContext) (sink : Option (Sink σ ε)) (state : σ) (e : Event) :
    Run σ ε :=
  match context.build e with
  | .error error => ⟨state, context.buildNotes e, some (.build error)⟩
  | .ok none => ⟨state, context.buildNotes e, none⟩
  | .ok (some d) =>
    Run.andThen ⟨state, context.buildNotes e ++ [.reported d.ruleId d.name], none⟩
      fun state => deliver sink state d

/-- Handles events in order until one fails. -/
def reportAll (context : ParseContext) (sink : Option (Sink σ ε)) (state : σ) :
    List Event → Run σ ε
  | [] => .start state
  | e :: rest =>
    (context.report sink state e).andThen fun state => context.reportAll sink state rest

/-- Handles events on the wire in order until one cannot be read or fails. The next event is read
only when the one before it has been handled. -/
def receive (context : ParseContext) (sink : Option (Sink σ ε)) (state : σ) :
    List RawEvent → Run σ ε
  | [] => .start state
  | raw :: rest =>
    match raw.read with
    | .error field => ⟨state, [], some (.missingField field)⟩
    | .ok e => (context.report sink state e).andThen fun state => context.receive sink state rest

/-- Events that arrive with all their fields are handled as they are. -/
theorem receive_map_toRaw (context : ParseContext) (sink : Option (Sink σ ε)) (state : σ)
    (events : List Event) :
    context.receive sink state (events.map Event.toRaw) = context.reportAll sink state events := by
  induction events generalizing state with
  | nil => rfl
  | cons e rest ih => simp only [List.map_cons, receive, reportAll, Event.read_toRaw, ih]

end ParseContext

end HtmlDiagnostics
