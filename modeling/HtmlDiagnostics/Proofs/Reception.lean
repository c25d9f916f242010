import HtmlDiagnostics.Parse
import HtmlDiagnostics.Proofs.Delivery

/-! # How a parse ends

Events on the wire add one way to fail: a field may be missing. A parse that somebody listens to
goes through the events that the parser tells of in the given mode, one by one, and the first of
them that cannot be read or whose diagnostic cannot be built or is refused ends it. A parse that
nobody listens to reads no event at all.

* **`RawEvent.firstMissing?`** — the first missing field of an event on the wire.
* **`RawEvent.Fails`** — an event that ends a run, with the failure and the notes of the event.
* **`Reception`** — the two ways in which a run over events on the wire ends.
* **`reception_iff`** — receiving events is such a run, and the only one.
* **`parse_outcome`** — what comes of a parse, with and without a listener.
* **`parse_of_long_line`** — a line whose number is too long ends a parse that should not end. -/

namespace HtmlDiagnostics

variable {σ ε τ ρ : Type}

/-! ## Reading one event -/

/-- The fields of an event in the order in which they are looked for. -/
def EventField.order : List EventField :=
  [.code, .startLine, .startColumn, .startOffset, .endLine, .endColumn, .endOffset]

namespace RawEvent

/-- Whether an event on the wire has a field. -/
def has (raw : RawEvent) : EventField → Bool
  | .code => raw.code.isSome
  | .startLine => raw.startLine.isSome
  | .startColumn => raw.startColumn.isSome
  | .startOffset => raw.startOffset.isSome
  | .endLine => raw.endLine.isSome
  | .endColumn => raw.endColumn.isSome
  | .endOffset => raw.endOffset.isSome

/-- The first field that an event on the wire lacks. -/
def firstMissing? (raw : RawEvent) : Option EventField :=
  EventField.order.find? fun field => !raw.has field

/-- An event on the wire either has all its fields or lacks one of them, and reading it tells
which. -/
theorem read_cases (raw : RawEvent) :
    (∃ e : Event, raw = e.toRaw ∧ raw.read = .ok e ∧ raw.firstMissing? = none) ∨
      ∃ field, raw.read = .error field ∧ raw.firstMissing? = some field := by
  obtain ⟨code, startLine, startColumn, startOffset, endLine, endColumn, endOffset⟩ := raw
  -- Both look at the fields in one order, so the first field that is missing ends both.
  cases code with
  | none => exact .inr ⟨.code, rfl, rfl⟩
  | some code =>
  cases startLine with
  | none => exact .inr ⟨.startLine, rfl, rfl⟩
  | some startLine =>
  cases startColumn with
  | none => exact .inr ⟨.startColumn, rfl, rfl⟩
  | some startColumn =>
  cases startOffset with
  | none => exact .inr ⟨.startOffset, rfl, rfl⟩
  | some startOffset =>
  cases endLine with
  | none => exact .inr ⟨.endLine, rfl, rfl⟩
  | some endLine =>
  cases endColumn with
  | none => exact .inr ⟨.endColumn, rfl, rfl⟩
  | some endColumn =>
  cases endOffset with
  | none => exact .inr ⟨.endOffset, rfl, rfl⟩
  | some endOffset =>
    exact .inl ⟨⟨code, ⟨startLine, startColumn, startOffset⟩, ⟨endLine, endColumn, endOffset⟩⟩,
      rfl, rfl, rfl⟩

/-- An event is read from the record that holds all its fields, and from no other. -/
theorem read_eq_ok_iff {raw : RawEvent} {e : Event} : raw.read = .ok e ↔ raw = e.toRaw := by
  constructor
  · intro h
    rcases raw.read_cases with ⟨e', hraw, hread, -⟩ | ⟨field, hread, -⟩
    · rw [hread] at h
      rw [hraw, Except.ok.inj h]
    · rw [hread] at h
      cases h
  · rintro rfl
    exact e.read_toRaw

/-- An event cannot be read exactly when it lacks a field, and the first one is named. -/
theorem read_eq_error_iff {raw : RawEvent} {field : EventField} :
    raw.read = .error field ↔ raw.firstMissing? = some field := by
  rcases raw.read_cases with ⟨e, -, hread, hmissing⟩ | ⟨field', hread, hmissing⟩
  · rw [hread, hmissing]
    exact iff_of_false nofun nofun
  · rw [hread, hmissing]
    constructor
    · intro h
      exact congrArg some (Except.error.inj h)
    · intro h
      exact congrArg Except.error (Option.some.inj h)

/-- Several events can be read exactly when their records hold all their fields. -/
theorem mapM_read_eq_ok_iff {raws : List RawEvent} {events : List Event} :
    raws.mapM read = .ok events ↔ raws = events.map Event.toRaw := by
  induction raws generalizing events with
  | nil =>
    constructor
    · intro h
      obtain rfl : [] = events := Except.ok.inj h
      rfl
    · intro h
      obtain rfl := List.map_eq_nil_iff.1 h.symm
      rfl
  | cons raw rest ih =>
    rw [List.mapM_cons]
    constructor
    · intro h
      cases hread : raw.read with
      | error field => rw [hread] at h; cases h
      | ok e =>
        cases hrest : rest.mapM read with
        | error field => rw [hread, hrest] at h; cases h
        | ok more =>
          rw [hread, hrest] at h
          obtain rfl : e :: more = events := Except.ok.inj h
          rw [List.map_cons, read_eq_ok_iff.1 hread, ih.1 hrest]
    · intro h
      cases events with
      | nil => cases h
      | cons e more =>
        obtain ⟨rfl, hrest⟩ := List.cons.inj h
        rw [Event.read_toRaw, ih.2 hrest]
        rfl

/-- Events on the wire start with events that can be read, up to the first that cannot. -/
theorem exists_readable_prefix (raws : List RawEvent) :
    (∃ events : List Event, raws = events.map Event.toRaw) ∨
      ∃ (events : List Event) (raw : RawEvent) (back : List RawEvent) (field : EventField),
        raws = events.map Event.toRaw ++ raw :: back ∧ raw.firstMissing? = some field := by
  induction raws with
  | nil => exact .inl ⟨[], rfl⟩
  | cons raw rest ih =>
    rcases raw.read_cases with ⟨e, rfl, -, -⟩ | ⟨field, -, hmissing⟩
    · rcases ih with ⟨events, rfl⟩ | ⟨events, raw', back, field, rfl, hmissing⟩
      · exact .inl ⟨e :: events, rfl⟩
      · exact .inr ⟨e :: events, raw', back, field, rfl, hmissing⟩
    · exact .inr ⟨[], raw, rest, field, rfl, hmissing⟩

/-- An event on the wire that ends a run when its turn comes, where the sink is in the given state:
it lacks a field, or the sink refuses its diagnostic, or its rule is on and a line or a column has
too many digits to be written. The notes are those that the event adds. -/
inductive Fails (context : ParseContext) (sink : Sink σ ε) (state : σ) (raw : RawEvent) :
    Failure ε → List Note → Prop
  /-- A field is missing. -/
  | malformed {field : EventField} (missing : raw.firstMissing? = some field) :
      Fails context sink state raw (.missingField field) []
  /-- The sink refuses the diagnostic. -/
  | refused {e : Event} {d : Diagnostic} {error : ε} (read : raw.read = .ok e)
      (built : context.build e = .ok (some d)) (refusal : sink state d = .error error) :
      Fails context sink state raw (.sink error) (context.notesOf e)
  /-- The range cannot be written. -/
  | unwritable {e : Event} (read : raw.read = .ok e) (on : context.severity e ≠ .off)
      (unwritable : ¬ e.span.IsWritable) :
      Fails context sink state raw (.build (.position .tooManyDigits)) (context.notesOf e)

/-- No line and no column of an event on the wire keeps its diagnostic from being built, if it can
be read and its rule is on. -/
def CanBuild (context : ParseContext) (raw : RawEvent) : Prop :=
  ∀ e, raw.read = .ok e → context.severity e = .off ∨ e.span.IsWritable

end RawEvent

/-! ## Receiving events -/

/-- How a run over events on the wire ends. Either all of them can be read and the sink takes all
their diagnostics, or there is a first one that fails: then the events behind it are not read, and
the run keeps the state that the sink has reached before. -/
inductive Reception (context : ParseContext) (sink : Sink σ ε) (state : σ)
    (raws : List RawEvent) : Run σ ε → Prop
  /-- Every event is read and its diagnostic is taken. -/
  | complete {events : List Event} {ds : List Diagnostic} {final : σ}
      (read : raws.mapM RawEvent.read = .ok events) (built : context.diagnostics events = .ok ds)
      (taken : ds.foldlM sink state = .ok final) :
      Reception context sink state raws ⟨final, events.flatMap context.notesOf, none⟩
  /-- One event fails, after all before it were read and their diagnostics were taken. -/
  | stopped {front back : List RawEvent} {raw : RawEvent} {events : List Event}
      {ds : List Diagnostic} {mid : σ} {failure : Failure ε} {notes : List Note}
      (split : raws = front ++ raw :: back) (read : front.mapM RawEvent.read = .ok events)
      (built : context.diagnostics events = .ok ds) (taken : ds.foldlM sink state = .ok mid)
      (fails : raw.Fails context sink mid failure notes) :
      Reception context sink state raws
        ⟨mid, events.flatMap context.notesOf ++ notes, some failure⟩

/-- Events that can be read are handled before those behind them. -/
theorem ParseContext.receive_append (context : ParseContext) (sink : Option (Sink σ ε)) (state : σ)
    (events : List Event) (back : List RawEvent) :
    context.receive sink state (events.map Event.toRaw ++ back)
      = (context.reportAll sink state events).andThen
          fun state => context.receive sink state back := by
  induction events generalizing state with
  | nil => rfl
  | cons e rest ih =>
    simp only [List.map_cons, List.cons_append, receive, reportAll, Event.read_toRaw, ih]
    rw [Run.andThen_assoc]

namespace Reception

variable {context : ParseContext} {sink : Sink σ ε} {state : σ} {raws : List RawEvent}

/-- Every run over events on the wire ends in one of the two ways. -/
theorem exists_of_events (context : ParseContext) (sink : Sink σ ε) (state : σ)
    (raws : List RawEvent) : ∃ run, Reception context sink state raws run := by
  -- What fails among the events that can be read comes before the first that cannot.
  have hstopped : ∀ {front behind : List Event} {e : Event} {ds : List Diagnostic} {mid : σ}
      {failure : Failure ε} {notes : List Note} (back : List RawEvent),
      context.diagnostics front = .ok ds → ds.foldlM sink state = .ok mid →
      e.toRaw.Fails context sink mid failure notes →
      ∃ run, Reception context sink state
        ((front ++ e :: behind).map Event.toRaw ++ back) run := by
    intro front behind e ds mid failure notes back built taken fails
    have hsplit : (front ++ e :: behind).map Event.toRaw ++ back
        = front.map Event.toRaw ++ e.toRaw :: (behind.map Event.toRaw ++ back) := by
      rw [List.map_append, List.map_cons, List.append_assoc, List.cons_append]
    exact ⟨_, .stopped hsplit (RawEvent.mapM_read_eq_ok_iff.2 rfl) built taken fails⟩
  -- So the run over the events that can be read decides, and the others only if it gets to them.
  have hreadable : ∀ (events : List Event) (back : List RawEvent),
      (∀ {ds : List Diagnostic} {final : σ}, context.diagnostics events = .ok ds →
        ds.foldlM sink state = .ok final →
        ∃ run, Reception context sink state (events.map Event.toRaw ++ back) run) →
      ∃ run, Reception context sink state (events.map Event.toRaw ++ back) run := by
    intro events back hcomplete
    obtain ⟨run, handed, h⟩ := Delivery.exists_of_events context sink state events
    cases h with
    | complete built taken => exact hcomplete built taken
    | @refused _ _ e _ _ _ _ split built taken last refusal =>
      rw [split]
      exact hstopped back built taken (.refused e.read_toRaw last refusal)
    | @unbuilt _ _ e _ _ _ split built taken failed =>
      obtain ⟨on, unwritable, -⟩ := ParseContext.build_eq_error_iff.1 failed
      rw [split]
      exact hstopped back built taken (.unwritable e.read_toRaw on unwritable)
  rcases RawEvent.exists_readable_prefix raws with
    ⟨events, rfl⟩ | ⟨events, raw, back, field, rfl, hmissing⟩
  · rw [← List.append_nil (List.map _ _)]
    refine hreadable events [] fun built taken => ?_
    rw [List.append_nil]
    exact ⟨_, .complete (RawEvent.mapM_read_eq_ok_iff.2 rfl) built taken⟩
  · exact hreadable events (raw :: back) fun built taken =>
      ⟨_, .stopped rfl (RawEvent.mapM_read_eq_ok_iff.2 rfl) built taken (.malformed hmissing)⟩

/-- A run that ends in one of the two ways is what comes of receiving the events. -/
theorem eq_receive {run : Run σ ε} (h : Reception context sink state raws run) :
    run = context.receive (some sink) state raws := by
  cases h with
  | complete read built taken =>
    obtain rfl := RawEvent.mapM_read_eq_ok_iff.1 read
    rw [ParseContext.receive_map_toRaw, ParseContext.reportAll_eq_of_foldlM built taken]
  | stopped split read built taken fails =>
    obtain rfl := RawEvent.mapM_read_eq_ok_iff.1 read
    rw [split, ParseContext.receive_append, ParseContext.reportAll_eq_of_foldlM built taken]
    cases fails with
    | malformed missing =>
      simp only [Run.andThen, ParseContext.receive, RawEvent.read_eq_error_iff.2 missing]
    | refused hread last refusal =>
      simp only [Run.andThen, ParseContext.receive, hread,
        ParseContext.report_of_error last refusal]
    | unwritable hread on unwritable =>
      have hbuild := ParseContext.build_eq_error_iff.2 ⟨on, unwritable, rfl⟩
      simp only [Run.andThen, ParseContext.receive, hread, ParseContext.report_of_unbuilt hbuild]

/-- The run fails over no diagnostic that cannot be built if the lines and columns of all events can
be written. -/
theorem failure_ne_build {run : Run σ ε} (h : Reception context sink state raws run)
    (writable : ∀ raw ∈ raws, raw.CanBuild context) (error : BuildError) :
    run.failure ≠ some (.build error) := by
  cases h with
  | complete read built taken => exact nofun
  | @stopped _ _ raw _ _ _ _ _ split read built taken fails =>
    cases fails with
    | malformed missing => exact nofun
    | refused hread last refusal => exact nofun
    | @unwritable e hread on unwritable =>
      have hmem : raw ∈ raws := by
        rw [split]
        exact List.mem_append_cons_self
      exact absurd (writable raw hmem e hread) (not_or.2 ⟨on, unwritable⟩)

end Reception

/-- **Receiving events on the wire** is a run that ends in one of the two ways, and the only one. -/
theorem reception_iff (context : ParseContext) (sink : Sink σ ε) (state : σ)
    (raws : List RawEvent) (run : Run σ ε) :
    Reception context sink state raws run ↔ run = context.receive (some sink) state raws := by
  constructor
  · exact Reception.eq_receive
  · rintro rfl
    obtain ⟨run, h⟩ := Reception.exists_of_events context sink state raws
    rw [← h.eq_receive]
    exact h

/-! ## Parses -/

/-- A parse with a sink is a run over the events that the parser tells of. -/
theorem parse_of_sink {configuration : Configuration σ ε} {sink : Sink σ ε}
    (hsink : configuration.sink = some sink) (parser : HtmlParser τ)
    (convert : τ → InputFile → ρ) (input : Input) (state : σ) :
    parse parser configuration convert input state =
      let file := input.toFile
      let run := (ParseContext.mk file.text configuration.settings file.path).receive (some sink)
        state (parser.events configuration.mode file.text)
      { call := ⟨file.text, configuration.mode, true⟩
        state := run.state
        notes := .parsing file.path file.text.length configuration.mode :: run.notes
        result := match run.failure with
          | some failure => .error failure
          | none => .ok (convert (parser.tree configuration.mode file.text) file) } := by
  simp only [parse, Configuration.listener, hsink, Option.map_some, HtmlParser.run]
  rfl

/-- A parse whose first event ends the run fails as that event does. -/
theorem result_parse_of_fails {configuration : Configuration σ ε} {sink : Sink σ ε}
    (hsink : configuration.sink = some sink) {parser : HtmlParser τ} {convert : τ → InputFile → ρ}
    {input : Input} {state : σ} {raw : RawEvent} {back : List RawEvent} {failure : Failure ε}
    {notes : List Note}
    (first : parser.events configuration.mode input.toFile.text = raw :: back)
    (fails : raw.Fails ⟨input.toFile.text, configuration.settings, input.toFile.path⟩ sink state
      failure notes) :
    (parse parser configuration convert input state).result = .error failure := by
  have split : parser.events configuration.mode input.toFile.text = [] ++ raw :: back := first
  have hrun := Reception.eq_receive (.stopped split rfl rfl rfl fails)
  rw [parse_of_sink hsink]
  simp only [← hrun]

/-- **What comes of a parse.** Without a sink the parser has no listener: no event is read, so none
can fail, and the tree is converted. With a sink the events of the configured mode are received,
and the parse fails exactly as their reception does; then the tree is not converted. As long as the
lines and columns of the events whose rules are on have no more than `maxNumberDigits` digits, it
fails over a missing field or a refusal only. The note about the parse comes first. The fields of an
event are looked for under seven names, in this order. -/
theorem parse_outcome (parser : HtmlParser τ) (configuration : Configuration σ ε)
    (convert : τ → InputFile → ρ) (input : Input) (state : σ) :
    let file := input.toFile
    let mode := configuration.mode
    let context : ParseContext := ⟨file.text, configuration.settings, file.path⟩
    let opening := Note.parsing file.path file.text.length mode
    let tree := convert (parser.tree mode file.text) file
    (EventField.order.map EventField.wireName : List Text)
      = ["code", "startLine", "startCol", "startOffset", "endLine", "endCol", "endOffset"].map
          Text.ofString ∧
    match configuration.sink with
    | none =>
      parse parser configuration convert input state
        = ⟨⟨file.text, mode, false⟩, state, [opening], .ok tree⟩
    | some sink =>
      ∃ run : Run σ ε,
        (∀ other, Reception context sink state (parser.events mode file.text) other
          ↔ other = run) ∧
        ((∀ raw ∈ parser.events mode file.text, raw.CanBuild context) →
          ∀ error, run.failure ≠ some (.build error)) ∧
        parse parser configuration convert input state
          = ⟨⟨file.text, mode, true⟩, run.state, opening :: run.notes,
              match run.failure with
              | some failure => .error failure
              | none => .ok tree⟩ := by
  intro file mode context opening tree
  refine ⟨rfl, ?_⟩
  cases hsink : configuration.sink with
  | none =>
    simp only [parse, Configuration.listener, hsink, Option.map_none, HtmlParser.run]
    rfl
  | some sink =>
    have hrun := reception_iff context sink state (parser.events mode file.text)
    refine ⟨_, hrun, ?_, ?_⟩
    · intro writable
      exact ((hrun _).2 rfl).failure_ne_build writable
    · exact parse_of_sink hsink parser convert input state

/-- The parser that tells of the same events whatever it reads. -/
def HtmlParser.telling (raws : List RawEvent) : HtmlParser Unit where
  events := fun _ _ => raws
  tree := fun _ _ => ()

/-- The configuration of a caller whose sink takes every diagnostic. -/
def Configuration.silent : Configuration Unit Empty :=
  { (.standard : Configuration Unit Empty) with sink := some .silent }

/-- An event with a negative line, which is short enough. -/
theorem parse_outcome_of_short_line :
    let raw := Event.toRaw ⟨"missing-doctype", ⟨⟨-12, 1, 0⟩, ⟨1, 1, 0⟩⟩⟩
    raw.CanBuild ⟨"a", .empty, none⟩ ∧
      ∀ error, (parse (.telling [raw]) .silent keepTree (.text "a") ()).result
        ≠ .error (.build error) := by
  intro raw
  have hcan : raw.CanBuild ⟨"a", .empty, none⟩ := by
    intro e hread
    obtain rfl := Except.ok.inj hread
    exact .inr (by decide)
  obtain ⟨-, run, -, hbuild, hparse⟩ :=
    parse_outcome (.telling [raw]) .silent keepTree (.text "a") ()
  refine ⟨hcan, fun error h => ?_⟩
  have hfailure := hbuild (fun other hother => List.mem_singleton.1 hother ▸ hcan) error
  rw [hparse] at h
  cases hrun : run.failure with
  | none =>
    simp only [hrun] at h
    cases h
  | some failure =>
    simp only [hrun] at h
    rw [hrun, Except.error.inj h] at hfailure
    exact hfailure rfl

/-- An event with all its fields, and a sink that refuses nothing: the parse fails all the same, as
the line of the event has one digit too many. -/
theorem parse_of_long_line :
    let raw := Event.toRaw ⟨"missing-doctype", .farDown⟩
    raw.firstMissing? = none ∧
      (∀ state d, (Sink.silent : Sink Unit Empty) state d = .ok state) ∧
      (parse (.telling [raw]) .silent keepTree (.text "a") ()).result
        = .error (.build (.position .tooManyDigits)) := by
  intro raw
  have fails : raw.Fails ⟨"a", .empty, none⟩ (Sink.silent : Sink Unit Empty) ()
      (.build (.position .tooManyDigits)) _ :=
    .unwritable (Event.read_toRaw _) nofun Span.not_isWritable_farDown
  exact ⟨rfl, fun _ _ => rfl, result_parse_of_fails rfl rfl fails⟩

end HtmlDiagnostics
