import HtmlDiagnostics.Proofs.Reception

/-! # Several parses with one configuration

A configuration can serve any number of parses, one after the other. All that one parse leaves
behind for the next is the state of the sink, and all that the next one can tell of that state are
the answers of the sink to its own diagnostics.

* **`Sink.attempts`**, **`Sink.answers`**, **`Sink.next`** — a sink over several diagnostics: those
  it is handed, what it answers, and where that leads it.
* **`ParseContext.heard`** — the diagnostics of events up to the first one that cannot be read or
  built.
* **`receive_induction`** — events on the wire, one by one.
* **`receive_left`**, **`receive_handed`**, **`receive_congr`** — one run over events on the wire:
  where it leads the sink, what it hands over, and on what it depends.
* **`ParseRequest`**, **`ParseOutcome`**, **`Configuration.outcomes`** — several parses, and what
  comes of each of them.
* **`parses_isolated`** — parses with one configuration do not interfere. -/

namespace HtmlDiagnostics

variable {σ ε τ ρ : Type}

/-! ## A sink over several diagnostics -/

namespace Sink

/-- The diagnostics that a sink is handed in turn. Once it has refused one it gets no more. -/
def attempts (sink : Sink σ ε) (state : σ) : List Diagnostic → List Diagnostic
  | [] => []
  | d :: rest =>
    match sink state d with
    | .ok next => d :: attempts sink next rest
    | .error _ => [d]

/-- What a sink answers to them: nothing when it takes a diagnostic, and its error when it refuses
one. -/
def answers (sink : Sink σ ε) (state : σ) : List Diagnostic → List (Option ε)
  | [] => []
  | d :: rest =>
    match sink state d with
    | .ok next => none :: answers sink next rest
    | .error error => [some error]

/-- Where a diagnostic leads a sink. A refusal may change its state as well: into which one is
decided by `settle`. -/
def next (sink : Sink σ ε) (settle : σ → ε → σ) (state : σ) (d : Diagnostic) : σ :=
  match sink state d with
  | .ok next => next
  | .error error => settle state error

variable {sink : Sink σ ε} {state : σ}

/-- There is one answer to each diagnostic that is handed over, so the answers tell which these
are. -/
theorem attempts_eq_take (ds : List Diagnostic) :
    sink.attempts state ds = ds.take (sink.answers state ds).length := by
  induction ds generalizing state with
  | nil => rfl
  | cons d rest ih =>
    rw [attempts, answers]
    cases sink state d with
    | ok next => simp only [List.length_cons, List.take_succ_cons, ih]
    | error error => rfl

/-- A sink that never refuses a diagnostic answers the same from every state. -/
theorem answers_of_forall_ok (never : ∀ state d, ∃ next, sink state d = .ok next)
    (ds : List Diagnostic) : sink.answers state ds = List.replicate ds.length none := by
  induction ds generalizing state with
  | nil => rfl
  | cons d rest ih =>
    obtain ⟨next, hnext⟩ := never state d
    rw [answers, hnext]
    simp only [ih, List.length_cons, List.replicate_succ]

end Sink

/-! ## One run over events on the wire -/

/-- The state in which a run leaves the sink. -/
def Run.left (settle : σ → ε → σ) (run : Run σ ε) : σ :=
  match run.failure with
  | some (.sink error) => settle run.state error
  | _ => run.state

namespace ParseContext

variable (context : ParseContext)

/-- The diagnostics of events on the wire, up to the first event that cannot be read or whose
diagnostic cannot be built. -/
def heard : List RawEvent → List Diagnostic
  | [] => []
  | raw :: rest =>
    match raw.read with
    | .error _ => []
    | .ok e =>
      match context.build e with
      | .error _ => []
      | .ok built => built.toList ++ heard rest

variable {context} {sink : Sink σ ε} {state : σ} {raw : RawEvent} {e : Event} {d : Diagnostic}

/-- An event that cannot be read ends the run. -/
theorem receive_of_missing {field : EventField} (h : raw.read = .error field)
    (rest : List RawEvent) :
    context.receive (some sink) state (raw :: rest) = ⟨state, [], some (.missingField field)⟩ := by
  rw [receive, h]

/-- An event whose diagnostic cannot be built ends the run. -/
theorem receive_of_unbuilt {error : BuildError} (h : raw.read = .ok e)
    (hbuild : context.build e = .error error) (rest : List RawEvent) :
    context.receive (some sink) state (raw :: rest)
      = ⟨state, context.notesOf e, some (.build error)⟩ := by
  rw [receive, h]
  simp only [report_of_unbuilt hbuild, Run.andThen]

/-- An event of a rule that is off is passed over. -/
theorem receive_of_off (h : raw.read = .ok e) (hbuild : context.build e = .ok none)
    (rest : List RawEvent) :
    context.receive (some sink) state (raw :: rest) = context.receive (some sink) state rest := by
  rw [receive, h]
  simp only [report_of_none hbuild, Run.start_andThen]

/-- An event whose diagnostic is taken adds its notes, and the run goes on from the next state. -/
theorem receive_of_taken {next : σ} (h : raw.read = .ok e)
    (hbuild : context.build e = .ok (some d)) (htaken : sink state d = .ok next)
    (rest : List RawEvent) :
    context.receive (some sink) state (raw :: rest) =
      { context.receive (some sink) next rest with
        notes := context.notesOf e ++ (context.receive (some sink) next rest).notes } := by
  rw [receive, h]
  simp only [report_of_ok hbuild htaken, Run.andThen]

/-- An event whose diagnostic is refused ends the run. -/
theorem receive_of_refused {error : ε} (h : raw.read = .ok e)
    (hbuild : context.build e = .ok (some d)) (hrefused : sink state d = .error error)
    (rest : List RawEvent) :
    context.receive (some sink) state (raw :: rest)
      = ⟨state, context.notesOf e, some (.sink error)⟩ := by
  rw [receive, h]
  simp only [report_of_error hbuild hrefused, Run.andThen]

/-- The diagnostics that are heard of, event by event. -/
theorem heard_of_missing {field : EventField} (h : raw.read = .error field)
    (rest : List RawEvent) : context.heard (raw :: rest) = [] := by
  rw [heard, h]

theorem heard_of_unbuilt {error : BuildError} (h : raw.read = .ok e)
    (hbuild : context.build e = .error error) (rest : List RawEvent) :
    context.heard (raw :: rest) = [] := by
  rw [heard, h]
  simp only [hbuild]

theorem heard_of_off (h : raw.read = .ok e) (hbuild : context.build e = .ok none)
    (rest : List RawEvent) : context.heard (raw :: rest) = context.heard rest := by
  rw [heard, h]
  simp only [hbuild, Option.toList_none, List.nil_append]

theorem heard_of_on (h : raw.read = .ok e) (hbuild : context.build e = .ok (some d))
    (rest : List RawEvent) : context.heard (raw :: rest) = d :: context.heard rest := by
  rw [heard, h]
  simp only [hbuild, Option.toList_some, List.singleton_append]

/-- Events on the wire are gone through one by one: there are none left, or the first one cannot be
read, or its diagnostic cannot be built, or it is of a rule that is off, or it has a diagnostic. -/
theorem receive_induction {motive : List RawEvent → Prop} (context : ParseContext)
    (nil : motive [])
    (missing : ∀ raw field rest, raw.read = .error field → motive (raw :: rest))
    (unbuilt : ∀ raw e error rest, raw.read = .ok e → context.build e = .error error →
      motive (raw :: rest))
    (off : ∀ raw e rest, raw.read = .ok e → context.build e = .ok none → motive rest →
      motive (raw :: rest))
    (on : ∀ raw e d rest, raw.read = .ok e → context.build e = .ok (some d) → motive rest →
      motive (raw :: rest)) (raws : List RawEvent) : motive raws := by
  induction raws with
  | nil => exact nil
  | cons raw rest ih =>
    cases hread : raw.read with
    | error field => exact missing raw field rest hread
    | ok e =>
      cases hbuild : context.build e with
      | error error => exact unbuilt raw e error rest hread hbuild
      | ok built =>
        cases built with
        | none => exact off raw e rest hread hbuild ih
        | some d => exact on raw e d rest hread hbuild ih

/-- **A run leads the sink where the diagnostics lead it** that it is handed. -/
theorem receive_left (settle : σ → ε → σ) (raws : List RawEvent) :
    (context.receive (some sink) state raws).left settle
      = (sink.attempts state (context.heard raws)).foldl (sink.next settle) state := by
  induction raws using context.receive_induction generalizing state with
  | nil => rfl
  | missing raw field rest hread =>
    rw [receive_of_missing hread, heard_of_missing hread]
    rfl
  | unbuilt raw e error rest hread hbuild =>
    rw [receive_of_unbuilt hread hbuild, heard_of_unbuilt hread hbuild]
    rfl
  | off raw e rest hread hbuild ih =>
    rw [receive_of_off hread hbuild, heard_of_off hread hbuild, ih]
  | on raw e d rest hread hbuild ih =>
    rw [heard_of_on hread hbuild, Sink.attempts]
    cases hsink : sink state d with
    | error error =>
      rw [receive_of_refused hread hbuild hsink]
      simp only [Run.left, List.foldl_cons, List.foldl_nil, Sink.next, hsink]
    | ok next =>
      have hnext : sink.next settle state d = next := by rw [Sink.next, hsink]
      rw [receive_of_taken hread hbuild hsink, List.foldl_cons, hnext, ← ih]
      rfl

/-- **A run hands the sink the diagnostics that are heard of**, up to the first refusal. -/
theorem receive_handed (record : List Diagnostic) (raws : List RawEvent) :
    (context.receive (some sink.traced) (state, record) raws).handed
      = record ++ sink.attempts state (context.heard raws) := by
  induction raws using context.receive_induction generalizing state record with
  | nil => exact (List.append_nil record).symm
  | missing raw field rest hread =>
    rw [receive_of_missing hread, heard_of_missing hread]
    exact (List.append_nil record).symm
  | unbuilt raw e error rest hread hbuild =>
    rw [receive_of_unbuilt hread hbuild, heard_of_unbuilt hread hbuild]
    exact (List.append_nil record).symm
  | off raw e rest hread hbuild ih =>
    rw [receive_of_off hread hbuild, heard_of_off hread hbuild, ih]
  | on raw e d rest hread hbuild ih =>
    rw [heard_of_on hread hbuild, Sink.attempts]
    cases hsink : sink state d with
    | error error =>
      rw [receive_of_refused hread hbuild (Sink.traced_of_error hsink record)]
      rfl
    | ok next =>
      -- the record grows at its end, so the rest starts from a longer one
      have hrest : (context.receive (some sink.traced) (next, record ++ [d]) rest).handed
          = record ++ d :: sink.attempts next (context.heard rest) := by
        rw [ih, List.append_assoc, List.singleton_append]
      rw [receive_of_taken hread hbuild (Sink.traced_of_ok hsink record), ← hrest]
      rfl

/-- **A run depends on the state of the sink only through its answers**: from two states that the
sink gives the same answers in, the notes are the same, and so is the failure. -/
theorem receive_congr {state' : σ} {raws : List RawEvent}
    (h : sink.answers state (context.heard raws) = sink.answers state' (context.heard raws)) :
    (context.receive (some sink) state raws).notes
        = (context.receive (some sink) state' raws).notes ∧
      (context.receive (some sink) state raws).failure
        = (context.receive (some sink) state' raws).failure := by
  induction raws using context.receive_induction generalizing state state' with
  | nil => exact ⟨rfl, rfl⟩
  | missing raw field rest hread =>
    rw [receive_of_missing hread, receive_of_missing hread]
    exact ⟨rfl, rfl⟩
  | unbuilt raw e error rest hread hbuild =>
    rw [receive_of_unbuilt hread hbuild, receive_of_unbuilt hread hbuild]
    exact ⟨rfl, rfl⟩
  | off raw e rest hread hbuild ih =>
    rw [heard_of_off hread hbuild] at h
    rw [receive_of_off hread hbuild, receive_of_off hread hbuild]
    exact ih h
  | on raw e d rest hread hbuild ih =>
    rw [heard_of_on hread hbuild, Sink.answers, Sink.answers] at h
    -- the first answers are the same, so both runs go on or both end here
    cases hsink : sink state d with
    | ok next =>
      cases hsink' : sink state' d with
      | error error =>
        simp only [hsink, hsink'] at h
        cases h
      | ok next' =>
        simp only [hsink, hsink', List.cons.injEq, true_and] at h
        rw [receive_of_taken hread hbuild hsink, receive_of_taken hread hbuild hsink']
        obtain ⟨hnotes, hfailure⟩ := ih h
        exact ⟨congrArg (context.notesOf e ++ ·) hnotes, hfailure⟩
    | error error =>
      cases hsink' : sink state' d with
      | ok next' =>
        simp only [hsink, hsink'] at h
        cases h
      | error error' =>
        simp only [hsink, hsink', List.cons.injEq, Option.some.injEq, and_true] at h
        rw [receive_of_refused hread hbuild hsink, receive_of_refused hread hbuild hsink', h]
        exact ⟨rfl, rfl⟩

end ParseContext

/-! ## Several parses -/

/-- What one parse of several has of its own. -/
structure ParseRequest (τ ρ : Type) where
  /-- The parser that is driven. -/
  parser : HtmlParser τ
  /-- The conversion of its tree. -/
  convert : τ → InputFile → ρ
  /-- What is parsed. -/
  input : Input

/-- What comes of one parse of several, the state of the sink apart. -/
structure ParseOutcome (ε ρ : Type) where
  /-- What the parser was asked to do. -/
  call : ParserCall
  /-- The diagnostics that the sink was handed. -/
  handed : List Diagnostic
  /-- The notes taken. -/
  notes : List Note
  /-- The converted tree, or the failure that ended the parse. -/
  result : Except (Failure ε) ρ

/-- The configuration whose sink writes down what it is handed. -/
def Configuration.traced (configuration : Configuration σ ε) :
    Configuration (σ × List Diagnostic) (ε × List Diagnostic) where
  mode := configuration.mode
  sink := configuration.sink.map Sink.traced
  settings := configuration.settings
  strict := configuration.strict
  known := configuration.known

/-- The state in which a parse leaves the sink. -/
def Parsed.left (settle : σ → ε → σ) (parsed : Parsed σ ε ρ) : σ :=
  match parsed.result with
  | .error (.sink error) => settle parsed.state error
  | _ => parsed.state

/-- What the sink of a parse was handed, as it has written it down. -/
def Parsed.handed (parsed : Parsed (σ × List Diagnostic) (ε × List Diagnostic) ρ) :
    List Diagnostic :=
  match parsed.result with
  | .error (.sink (_, handed)) => handed
  | _ => parsed.state.2

namespace ParseRequest

variable (request : ParseRequest τ ρ) (configuration : Configuration σ ε)

/-- The parse of a request. -/
def perform (state : σ) : Parsed σ ε ρ :=
  parse request.parser configuration request.convert request.input state

/-- What comes of it. -/
def outcome (state : σ) : ParseOutcome ε ρ where
  call := (request.perform configuration state).call
  handed := (request.perform configuration.traced (state, [])).handed
  notes := (request.perform configuration state).notes
  result := (request.perform configuration state).result

/-- What is known about the parse of a request. -/
def context : ParseContext :=
  ⟨request.input.toFile.text, configuration.settings, request.input.toFile.path⟩

/-- The events that the parser of a request tells of. -/
def events (mode : Mode) : List RawEvent := request.parser.events mode request.input.toFile.text

/-- The diagnostics of its events, up to the first one that cannot be read or built. -/
def diagnostics : List Diagnostic :=
  (request.context configuration).heard (request.events configuration.mode)

/-- What comes of a parse that somebody listens to, by the run over its events. -/
def parsed (mode : Mode) (run : Run σ ε) : Parsed σ ε ρ where
  call := ⟨request.input.toFile.text, mode, true⟩
  state := run.state
  notes := .parsing request.input.toFile.path request.input.toFile.text.length mode :: run.notes
  result :=
    match run.failure with
    | some failure => .error failure
    | none =>
      .ok (request.convert (request.parser.tree mode request.input.toFile.text)
        request.input.toFile)

end ParseRequest

namespace Configuration

variable (configuration : Configuration σ ε) (settle : σ → ε → σ)

/-- The state in which several parses leave the sink. -/
def left (state : σ) (requests : List (ParseRequest τ ρ)) : σ :=
  requests.foldl (fun state request => (request.perform configuration state).left settle) state

/-- What comes of several parses, each of which finds the sink as the one before has left it. -/
def outcomes (state : σ) : List (ParseRequest τ ρ) → List (ParseOutcome ε ρ)
  | [] => []
  | request :: rest =>
    request.outcome configuration state
      :: outcomes ((request.perform configuration state).left settle) rest

end Configuration

namespace ParseRequest

variable {configuration : Configuration σ ε} {sink : Sink σ ε}

/-- A parse leaves the sink where the run over its events leaves it. -/
theorem left_parsed (request : ParseRequest τ ρ) (mode : Mode) (settle : σ → ε → σ)
    (run : Run σ ε) : (request.parsed mode run).left settle = run.left settle := by
  obtain ⟨final, notes, failure⟩ := run
  cases failure with
  | none => rfl
  | some failure => cases failure <;> rfl

/-- A parse hands the sink what the run over its events hands it. -/
theorem handed_parsed (request : ParseRequest τ ρ) (mode : Mode)
    (run : Run (σ × List Diagnostic) (ε × List Diagnostic)) :
    (request.parsed mode run).handed = run.handed := by
  obtain ⟨final, notes, failure⟩ := run
  cases failure with
  | none => rfl
  | some failure => cases failure <;> rfl

/-- A parse with a sink is a run over the events that the parser tells of. -/
theorem perform_of_sink (hsink : configuration.sink = some sink) (request : ParseRequest τ ρ)
    (state : σ) :
    request.perform configuration state
      = request.parsed configuration.mode
          ((request.context configuration).receive (some sink) state
            (request.events configuration.mode)) :=
  parse_of_sink hsink request.parser request.convert request.input state

/-- **A parse leads the sink where the diagnostics lead it** that it is handed. -/
theorem left_perform (hsink : configuration.sink = some sink) (settle : σ → ε → σ)
    (request : ParseRequest τ ρ) (state : σ) :
    (request.perform configuration state).left settle
      = (sink.attempts state (request.diagnostics configuration)).foldl (sink.next settle) state
    := by
  rw [perform_of_sink hsink, left_parsed, ParseContext.receive_left, diagnostics]

/-- **A parse hands the sink the diagnostics of its events**, up to the first refusal. -/
theorem handed_outcome (hsink : configuration.sink = some sink) (request : ParseRequest τ ρ)
    (state : σ) :
    (request.outcome configuration state).handed
      = sink.attempts state (request.diagnostics configuration) := by
  have htraced : configuration.traced.sink = some sink.traced := by
    rw [Configuration.traced, hsink, Option.map_some]
  calc (request.outcome configuration state).handed
    _ = (request.perform configuration.traced (state, [])).handed := rfl
    _ = ((request.context configuration).receive (some sink.traced) (state, [])
          (request.events configuration.mode)).handed := by
        rw [perform_of_sink htraced, handed_parsed]
        rfl
    _ = sink.attempts state (request.diagnostics configuration) := by
        rw [ParseContext.receive_handed, List.nil_append, diagnostics]

/-- **What comes of a parse depends on the state of the sink only through its answers** to the
diagnostics of this parse. -/
theorem outcome_congr (hsink : configuration.sink = some sink) {request : ParseRequest τ ρ}
    {state state' : σ}
    (h : sink.answers state (request.diagnostics configuration)
      = sink.answers state' (request.diagnostics configuration)) :
    request.outcome configuration state = request.outcome configuration state' := by
  have hhanded : (request.outcome configuration state).handed
      = (request.outcome configuration state').handed := by
    rw [handed_outcome hsink, handed_outcome hsink, Sink.attempts_eq_take, h,
      ← Sink.attempts_eq_take]
  obtain ⟨hnotes, hfailure⟩ := ParseContext.receive_congr h
  rw [outcome, outcome] at hhanded ⊢
  rw [ParseOutcome.mk.injEq, perform_of_sink hsink, perform_of_sink hsink, parsed, parsed, hnotes,
    hfailure]
  exact ⟨rfl, hhanded, rfl, rfl⟩

end ParseRequest

namespace Configuration

variable {configuration : Configuration σ ε} {sink : Sink σ ε} {settle : σ → ε → σ} {state : σ}

/-- **Several parses lead the sink where the diagnostics lead it** that they hand it, one parse
after the other. -/
theorem left_eq_foldl (hsink : configuration.sink = some sink)
    (requests : List (ParseRequest τ ρ)) :
    configuration.left settle state requests
      = ((configuration.outcomes settle state requests).map ParseOutcome.handed).flatten.foldl
          (sink.next settle) state := by
  induction requests generalizing state with
  | nil => rfl
  | cons request rest ih =>
    rw [left, List.foldl_cons, ← left, ih, outcomes, List.map_cons, List.flatten_cons,
      List.foldl_append, ParseRequest.handed_outcome hsink, ← ParseRequest.left_perform hsink]

/-- Parses can be split in two parts, of which the second finds the sink as the first has left
it. -/
theorem outcomes_append (front back : List (ParseRequest τ ρ)) :
    configuration.outcomes settle state (front ++ back)
      = configuration.outcomes settle state front
        ++ configuration.outcomes settle (configuration.left settle state front) back := by
  induction front generalizing state with
  | nil => rfl
  | cons request rest ih =>
    rw [List.cons_append, outcomes, outcomes, ih, List.cons_append, left, left, List.foldl_cons]

/-- What comes of parses into a sink that never refuses a diagnostic does not depend on the state
of the sink: each of them comes to what it comes to from any fixed state. -/
theorem outcomes_of_forall_ok (hsink : configuration.sink = some sink)
    (never : ∀ state d, ∃ next, sink state d = .ok next) (fixed : σ)
    (requests : List (ParseRequest τ ρ)) :
    configuration.outcomes settle state requests
      = requests.map fun request => request.outcome configuration fixed := by
  induction requests generalizing state with
  | nil => rfl
  | cons request rest ih =>
    have hhead : request.outcome configuration state = request.outcome configuration fixed :=
      ParseRequest.outcome_congr hsink (by
        rw [Sink.answers_of_forall_ok never, Sink.answers_of_forall_ok never])
    rw [outcomes, ih, hhead, List.map_cons]

/-- Parses in another order come to the same, each of them, if the sink never refuses a
diagnostic. -/
theorem zip_outcomes_perm (hsink : configuration.sink = some sink)
    (never : ∀ state d, ∃ next, sink state d = .ok next) (state' : σ)
    {requests requests' : List (ParseRequest τ ρ)} (h : requests.Perm requests') :
    (requests.zip (configuration.outcomes settle state requests)).Perm
      (requests'.zip (configuration.outcomes settle state' requests')) := by
  rw [outcomes_of_forall_ok hsink never state, outcomes_of_forall_ok hsink never state,
    ← List.map_prod_left_eq_zip, ← List.map_prod_left_eq_zip]
  exact h.map _

end Configuration

/-! ## No interference -/

/-- **Parses with one configuration do not interfere.** They lead the sink where it is led by the
diagnostics that they hand it, one parse after the other. Each of them finds the sink as those
before have left it, also those that failed, and hands it the diagnostics of its own events up to
the first event that cannot be read or whose diagnostic cannot be built or is refused. From two
states that the sink gives the same answers in to these diagnostics, a parse comes to the same: the
same diagnostics handed over, the same notes, the same tree or failure. And if the sink never
refuses a diagnostic, every parse comes to the same in whichever order they are done. Into which
state a refusal leads the sink is any matter of its state and of its error, which may hold the
diagnostic. -/
theorem parses_isolated {configuration : Configuration σ ε} {sink : Sink σ ε}
    (hsink : configuration.sink = some sink) (settle : σ → ε → σ) :
    (∀ (state : σ) (requests : List (ParseRequest τ ρ)),
      configuration.left settle state requests
        = ((configuration.outcomes settle state requests).map ParseOutcome.handed).flatten.foldl
            (sink.next settle) state) ∧
    (∀ (state : σ) (earlier later : List (ParseRequest τ ρ)) (request : ParseRequest τ ρ),
      configuration.outcomes settle state (earlier ++ request :: later)
        = configuration.outcomes settle state earlier
          ++ request.outcome configuration (configuration.left settle state earlier)
            :: configuration.outcomes settle
                (configuration.left settle state (earlier ++ [request])) later) ∧
    (∀ (state : σ) (request : ParseRequest τ ρ),
      (request.outcome configuration state).handed
        = sink.attempts state (request.diagnostics configuration)) ∧
    (∀ (state state' : σ) (request : ParseRequest τ ρ),
      sink.answers state (request.diagnostics configuration)
        = sink.answers state' (request.diagnostics configuration) →
      request.outcome configuration state = request.outcome configuration state') ∧
    ((∀ state d, ∃ next, sink state d = .ok next) →
      ∀ (state state' : σ) (requests requests' : List (ParseRequest τ ρ)),
        requests.Perm requests' →
        (requests.zip (configuration.outcomes settle state requests)).Perm
          (requests'.zip (configuration.outcomes settle state' requests'))) := by
  refine ⟨fun state requests => Configuration.left_eq_foldl hsink requests, ?_,
    fun state request => request.handed_outcome hsink state,
    fun state state' request h => ParseRequest.outcome_congr hsink h,
    fun never state state' requests requests' h =>
      Configuration.zip_outcomes_perm hsink never state' h⟩
  intro state earlier later request
  rw [Configuration.outcomes_append, Configuration.outcomes, Configuration.left,
    Configuration.left, List.foldl_append, List.foldl_cons, List.foldl_nil]

/-- The sink that counts the diagnostics, and refuses none. -/
def Sink.counting : Sink Nat Empty := fun count _ => .ok (count + 1)

/-- The configuration of a caller who only asks for the number of diagnostics. -/
def Configuration.counting : Configuration Nat Empty :=
  { (.standard : Configuration Nat Empty) with sink := some Sink.counting }

/-- A parse that tells of one error and then of one that lacks its code. -/
def ParseRequest.broken : ParseRequest Unit Unit where
  parser :=
    { events := fun _ _ =>
        [Event.toRaw ⟨"eof-in-tag", ⟨⟨1, 4, 3⟩, ⟨1, 4, 3⟩⟩⟩,
          { Event.toRaw ⟨"eof-in-tag", ⟨⟨1, 4, 3⟩, ⟨1, 4, 3⟩⟩⟩ with code := none }]
      tree := fun _ _ => () }
  convert := keepTree
  input := .text "<a "

/-- A parse that tells of no error. -/
def ParseRequest.clean : ParseRequest Unit Unit where
  parser := { events := fun _ _ => [], tree := fun _ _ => () }
  convert := keepTree
  input := .text "a"

/-- A parse that fails midway, before a parse without errors and after it, and after itself. -/
theorem parses_isolated_of_broken :
    let settle : Nat → Empty → Nat := fun count _ => count
    (∀ count d, ∃ next, Sink.counting count d = .ok next) ∧
    [ParseRequest.broken, .clean].Perm [.clean, .broken] ∧
    Configuration.counting.left settle 0 [ParseRequest.broken, .clean]
      = ((Configuration.counting.outcomes settle 0 [ParseRequest.broken, .clean]).map
          ParseOutcome.handed).flatten.foldl (Sink.counting.next settle) 0 ∧
    ParseRequest.broken.outcome .counting
        (Configuration.counting.left settle 0 [ParseRequest.broken])
      = ParseRequest.broken.outcome .counting 0 ∧
    ([ParseRequest.broken, .clean].zip
        (Configuration.counting.outcomes settle 0 [ParseRequest.broken, .clean])).Perm
      ([ParseRequest.clean, .broken].zip
        (Configuration.counting.outcomes settle 0 [ParseRequest.clean, .broken])) := by
  intro settle
  have never : ∀ count d, ∃ next, Sink.counting count d = .ok next :=
    fun count d => ⟨count + 1, rfl⟩
  have horder : [ParseRequest.broken, .clean].Perm [.clean, .broken] := .swap ..
  obtain ⟨hleft, -, -, hsame, hperm⟩ :=
    @parses_isolated Nat Empty Unit Unit .counting Sink.counting rfl settle
  have hanswers := hsame (Configuration.counting.left settle 0 [ParseRequest.broken]) 0 .broken
    (by rw [Sink.answers_of_forall_ok never, Sink.answers_of_forall_ok never])
  exact ⟨never, horder, hleft 0 _, hanswers, hperm never 0 0 _ _ horder⟩

end HtmlDiagnostics
