import HtmlDiagnostics.Delivery
import HtmlDiagnostics.Proofs.Building
import Mathlib.Data.List.Induction

/-! # What a sink is handed

Handling events in order hands the sink the diagnostics of these events in order, up to and
including the first one that the sink refuses, and up to the first one that cannot be built. It
takes the notes of every event that was looked at.

* **`Sink.traced`**, **`Run.handed`** — a sink that writes down what it is handed, and what it has
  written at the end of a run.
* **`Sink.silent`** — a sink that does nothing; **`reportAll_no_sink`** — it is like no sink.
* **`Delivery`** — the three ways in which a run over events ends: every diagnostic is taken, one is
  refused, or one cannot be built.
* **`reportAll_eq_of_foldlM`** — a run over events whose diagnostics are all taken.
* **`reportAll_delivers`** — handling events is such a run, and the only one. -/

namespace HtmlDiagnostics

variable {σ ε : Type}

/-! ## Sinks that keep a record -/

/-- The sink that also writes down what it is handed. A diagnostic that is refused is written down
with the refusal. -/
def Sink.traced (sink : Sink σ ε) : Sink (σ × List Diagnostic) (ε × List Diagnostic) :=
  fun (state, handed) d =>
    match sink state d with
    | .ok next => .ok (next, handed ++ [d])
    | .error error => .error (error, handed ++ [d])

/-- What the sink of a run was handed, as it has written it down. -/
def Run.handed (run : Run (σ × List Diagnostic) (ε × List Diagnostic)) : List Diagnostic :=
  match run.failure with
  | some (.sink (_, handed)) => handed
  | _ => run.state.2

theorem Sink.traced_of_ok {sink : Sink σ ε} {state next : σ} {d : Diagnostic}
    (h : sink state d = .ok next) (handed : List Diagnostic) :
    sink.traced (state, handed) d = .ok (next, handed ++ [d]) := by
  simp only [traced, h]

theorem Sink.traced_of_error {sink : Sink σ ε} {state : σ} {d : Diagnostic} {error : ε}
    (h : sink state d = .error error) (handed : List Diagnostic) :
    sink.traced (state, handed) d = .error (error, handed ++ [d]) := by
  simp only [traced, h]

/-- A sink takes a diagnostic and then the others exactly when it takes all of them. -/
theorem Sink.foldlM_cons_eq_ok_iff {sink : Sink σ ε} {state final : σ} {d : Diagnostic}
    {rest : List Diagnostic} :
    (d :: rest).foldlM sink state = .ok final
      ↔ ∃ next, sink state d = .ok next ∧ rest.foldlM sink next = .ok final := by
  rw [List.foldlM_cons]
  cases sink state d with
  | error error => exact ⟨nofun, fun ⟨_, h, _⟩ => nomatch h⟩
  | ok next =>
    constructor
    · intro h
      exact ⟨next, rfl, h⟩
    · rintro ⟨_, ⟨⟩, h⟩
      exact h

/-- A sink that takes all diagnostics has written them all down. -/
theorem Sink.foldlM_traced {sink : Sink σ ε} {ds : List Diagnostic} {state final : σ}
    (h : ds.foldlM sink state = .ok final) (handed : List Diagnostic) :
    ds.foldlM sink.traced (state, handed) = .ok (final, handed ++ ds) := by
  induction ds generalizing state handed with
  | nil =>
    obtain rfl : state = final := Except.ok.inj h
    rw [List.append_nil]
    rfl
  | cons d rest ih =>
    -- the record grows at its end, so the rest starts from a longer one
    obtain ⟨next, htaken, hrest⟩ := foldlM_cons_eq_ok_iff.1 h
    refine foldlM_cons_eq_ok_iff.2 ⟨(next, handed ++ [d]), traced_of_ok htaken handed, ?_⟩
    rw [ih hrest, List.append_assoc, List.singleton_append]

/-- The sink that takes every diagnostic and does nothing with it. -/
def Sink.silent : Sink σ ε := fun state _ => .ok state

/-- It stays as it is. -/
theorem Sink.foldlM_silent (ds : List Diagnostic) (state : σ) :
    ds.foldlM (Sink.silent : Sink σ ε) state = .ok state := by
  induction ds with
  | nil => rfl
  | cons d rest ih => exact foldlM_cons_eq_ok_iff.2 ⟨state, rfl, ih⟩

namespace ParseContext

variable {context : ParseContext} {e : Event} {d : Diagnostic}

/-! ## One event -/

/-- An event of a rule that is off leaves no trace. -/
theorem report_of_none (h : context.build e = .ok none) (sink : Option (Sink σ ε)) (state : σ) :
    context.report sink state e = .start state := by
  rw [report, h, buildNotes_of_none h]
  rfl

/-- An event of a rule that is on is noted down, and then it is the sink's turn. -/
theorem report_of_some (h : context.build e = .ok (some d)) (sink : Option (Sink σ ε))
    (state : σ) :
    context.report sink state e
      = Run.andThen ⟨state, context.notesOf e, none⟩ fun state => deliver sink state d := by
  rw [report, h, notesOf_of_some h]

/-- An event whose diagnostic cannot be built ends the run. -/
theorem report_of_unbuilt {error : BuildError} (h : context.build e = .error error)
    (sink : Option (Sink σ ε)) (state : σ) :
    context.report sink state e = ⟨state, context.notesOf e, some (.build error)⟩ := by
  rw [report, h, notesOf_of_error h]

/-- An event whose diagnostic is taken. -/
theorem report_of_ok {sink : Sink σ ε} {state next : σ} (h : context.build e = .ok (some d))
    (htaken : sink state d = .ok next) :
    context.report (some sink) state e = ⟨next, context.notesOf e, none⟩ := by
  rw [report_of_some h]
  simp only [Run.andThen, deliver, htaken, Run.start, List.append_nil]

/-- An event whose diagnostic is refused. -/
theorem report_of_error {sink : Sink σ ε} {state : σ} {error : ε}
    (h : context.build e = .ok (some d)) (hrefused : sink state d = .error error) :
    context.report (some sink) state e = ⟨state, context.notesOf e, some (.sink error)⟩ := by
  rw [report_of_some h]
  simp only [Run.andThen, deliver, hrefused, List.append_nil]

/-- Having no sink is like having a silent one. -/
theorem report_no_sink (context : ParseContext) (state : σ) (e : Event) :
    context.report (none : Option (Sink σ ε)) state e
      = context.report (some .silent) state e := rfl

/-! ## Several events -/

/-- Events can be handled in two parts. -/
theorem reportAll_append (context : ParseContext) (sink : Option (Sink σ ε)) (state : σ)
    (front back : List Event) :
    context.reportAll sink state (front ++ back)
      = (context.reportAll sink state front).andThen
          fun state => context.reportAll sink state back := by
  induction front generalizing state with
  | nil => rfl
  | cons e rest ih =>
    simp only [List.cons_append, reportAll, ih]
    rw [Run.andThen_assoc]

/-- **Having no sink is like having a silent one**, for several events as well. -/
theorem reportAll_no_sink (context : ParseContext) (state : σ) (events : List Event) :
    context.reportAll (none : Option (Sink σ ε)) state events
      = context.reportAll (some .silent) state events := by
  induction events generalizing state with
  | nil => rfl
  | cons e rest ih =>
    rw [reportAll, reportAll, report_no_sink]
    simp only [ih]

/-- **A run over events whose diagnostics are all taken** notes every event down and ends where
the sink does. -/
theorem reportAll_eq_of_foldlM {sink : Sink σ ε} {events : List Event} {ds : List Diagnostic}
    {state final : σ} (hbuilt : context.diagnostics events = .ok ds)
    (htaken : ds.foldlM sink state = .ok final) :
    context.reportAll (some sink) state events
      = ⟨final, events.flatMap context.notesOf, none⟩ := by
  induction events generalizing state ds with
  | nil =>
    obtain rfl : [] = ds := Except.ok.inj hbuilt
    obtain rfl : state = final := Except.ok.inj htaken
    rfl
  | cons e rest ih =>
    rw [reportAll, List.flatMap_cons]
    cases hbuild : context.build e with
    | error error =>
      rw [diagnostics_cons_of_error hbuild] at hbuilt
      cases hbuilt
    | ok built =>
      cases built with
      | none =>
        -- an event of a rule that is off is no step of the sink
        rw [diagnostics_cons_of_none hbuild] at hbuilt
        rw [report_of_none hbuild, Run.start_andThen, ih hbuilt htaken, notesOf_of_none hbuild,
          List.nil_append]
      | some d =>
        rw [diagnostics_cons_of_some hbuild] at hbuilt
        cases hrest : context.diagnostics rest with
        | error error =>
          rw [hrest] at hbuilt
          cases hbuilt
        | ok more =>
          rw [hrest] at hbuilt
          obtain rfl : d :: more = ds := Except.ok.inj hbuilt
          obtain ⟨next, hnext, hmore⟩ := Sink.foldlM_cons_eq_ok_iff.1 htaken
          rw [report_of_ok hbuild hnext]
          simp only [Run.andThen, ih hrest hmore]

/-- A run that meets an event at which it fails, after events whose diagnostics are all taken, ends
there. -/
theorem reportAll_eq_of_failure {sink : Sink σ ε} {front back : List Event} {ds : List Diagnostic}
    {state mid : σ} {failure : Failure ε} (hbuilt : context.diagnostics front = .ok ds)
    (htaken : ds.foldlM sink state = .ok mid)
    (hfailed : context.report (some sink) mid e = ⟨mid, context.notesOf e, some failure⟩) :
    context.reportAll (some sink) state (front ++ e :: back)
      = ⟨mid, (front ++ [e]).flatMap context.notesOf, some failure⟩ := by
  rw [reportAll_append, reportAll_eq_of_foldlM hbuilt htaken]
  simp only [Run.andThen, reportAll, hfailed, List.flatMap_append, List.flatMap_singleton]

end ParseContext

/-! ## Whole runs -/

/-- How a run over events ends, and what the sink was handed until then. Either the diagnostics of
all events are built and the sink takes them, or there is a first event at which that goes wrong:
then the events behind it are not looked at, and the run keeps the state that the sink has reached
before. A diagnostic that is refused was handed over, one that cannot be built was not. The notes
are those of the events that were looked at, in order. -/
inductive Delivery (context : ParseContext) (sink : Sink σ ε) (state : σ) (events : List Event) :
    Run σ ε → List Diagnostic → Prop
  /-- Every diagnostic is built and taken. -/
  | complete {ds : List Diagnostic} {final : σ} (built : context.diagnostics events = .ok ds)
      (taken : ds.foldlM sink state = .ok final) :
      Delivery context sink state events ⟨final, events.flatMap context.notesOf, none⟩ ds
  /-- One diagnostic is refused, after all before it were built and taken. -/
  | refused {front back : List Event} {e : Event} {ds : List Diagnostic} {d : Diagnostic} {mid : σ}
      {error : ε} (split : events = front ++ e :: back) (built : context.diagnostics front = .ok ds)
      (taken : ds.foldlM sink state = .ok mid) (last : context.build e = .ok (some d))
      (refusal : sink mid d = .error error) :
      Delivery context sink state events
        ⟨mid, (front ++ [e]).flatMap context.notesOf, some (.sink error)⟩ (ds ++ [d])
  /-- One diagnostic cannot be built, after all before it were built and taken. -/
  | unbuilt {front back : List Event} {e : Event} {ds : List Diagnostic} {mid : σ}
      {error : BuildError} (split : events = front ++ e :: back)
      (built : context.diagnostics front = .ok ds) (taken : ds.foldlM sink state = .ok mid)
      (failed : context.build e = .error error) :
      Delivery context sink state events
        ⟨mid, (front ++ [e]).flatMap context.notesOf, some (.build error)⟩ ds

namespace Delivery

variable {context : ParseContext} {sink : Sink σ ε} {state : σ} {events : List Event}

/-- Every run over events ends in one of the three ways. -/
theorem exists_of_events (context : ParseContext) (sink : Sink σ ε) (state : σ)
    (events : List Event) : ∃ run handed, Delivery context sink state events run handed := by
  -- The events are taken off at the end: whether the last one is looked at hangs on those before.
  induction events using List.reverseRecOn with
  | nil => exact ⟨_, _, .complete rfl rfl⟩
  | append_singleton front e ih =>
    obtain ⟨run, handed, hfront⟩ := ih
    -- a run that has ended before does not see the last event
    have hsplit : ∀ {before behind : List Event} {e' : Event}, front = before ++ e' :: behind →
        front ++ [e] = before ++ e' :: (behind ++ [e]) := by
      rintro before behind e' rfl
      rw [List.append_assoc, List.cons_append]
    cases hfront with
    | refused split built taken last refusal =>
      exact ⟨_, _, .refused (hsplit split) built taken last refusal⟩
    | unbuilt split built taken failed => exact ⟨_, _, .unbuilt (hsplit split) built taken failed⟩
    | @complete _ mid built taken =>
      cases hbuild : context.build e with
      | error error => exact ⟨_, _, .unbuilt rfl built taken hbuild⟩
      | ok last =>
        cases last with
        | none =>
          have hall : context.diagnostics (front ++ [e]) = .ok (handed ++ []) := by
            rw [ParseContext.diagnostics_append built,
              ParseContext.diagnostics_cons_of_none hbuild]
            rfl
          rw [List.append_nil] at hall
          exact ⟨_, _, .complete hall taken⟩
        | some d =>
          cases hsink : sink mid d with
          | error error => exact ⟨_, _, .refused rfl built taken hbuild hsink⟩
          | ok next =>
            have hall : context.diagnostics (front ++ [e]) = .ok (handed ++ [d]) := by
              rw [ParseContext.diagnostics_append built,
                ParseContext.diagnostics_cons_of_some hbuild]
              rfl
            have htaken : (handed ++ [d]).foldlM sink state = .ok next := by
              rw [List.foldlM_append, taken]
              exact Sink.foldlM_cons_eq_ok_iff.2 ⟨next, hsink, rfl⟩
            exact ⟨_, _, .complete hall htaken⟩

/-- A run that ends in one of the three ways is the run of the events, and what the sink was handed
is what it writes down if it keeps a record. -/
theorem eq_reportAll {run : Run σ ε} {handed : List Diagnostic}
    (h : Delivery context sink state events run handed) :
    run = context.reportAll (some sink) state events ∧
      handed = (context.reportAll (some sink.traced) (state, []) events).handed := by
  cases h with
  | complete built taken =>
    constructor
    · rw [ParseContext.reportAll_eq_of_foldlM built taken]
    · rw [ParseContext.reportAll_eq_of_foldlM built (Sink.foldlM_traced taken [])]
      rfl
  | refused split built taken last refusal =>
    subst split
    constructor
    · rw [ParseContext.reportAll_eq_of_failure built taken
        (ParseContext.report_of_error last refusal)]
    · rw [ParseContext.reportAll_eq_of_failure built (Sink.foldlM_traced taken [])
        (ParseContext.report_of_error last (Sink.traced_of_error refusal _))]
      rfl
  | unbuilt split built taken failed =>
    subst split
    constructor
    · rw [ParseContext.reportAll_eq_of_failure built taken
        (ParseContext.report_of_unbuilt failed _ _)]
    · rw [ParseContext.reportAll_eq_of_failure built (Sink.foldlM_traced taken [])
        (ParseContext.report_of_unbuilt failed _ _)]
      rfl

end Delivery

/-- A run meets no diagnostic that cannot be built if nothing keeps any of them from it. -/
theorem ParseContext.failure_reportAll_ne_build {context : ParseContext} {events : List Event}
    (h : ∀ e ∈ events, context.CanBuild e) (sink : Sink σ ε) (state : σ) (error : BuildError) :
    (context.reportAll (some sink) state events).failure ≠ some (.build error) := by
  obtain ⟨run, handed, hrun⟩ := Delivery.exists_of_events context sink state events
  rw [← hrun.eq_reportAll.1]
  cases hrun with
  | complete built taken => exact nofun
  | refused split built taken last refusal => exact nofun
  | @unbuilt _ _ e _ _ _ split built taken failed =>
    have hmem : e ∈ events := by
      rw [split]
      exact List.mem_append_cons_self
    rw [build_eq_ok (h e hmem)] at failed
    cases failed

/-- **Handling events hands the sink the diagnostics of these events**, in order and up to the
first refusal, which ends the run, or up to the first one that cannot be built, which ends it as
well. Without a sink the same happens as with one that takes everything. As long as the lines and
columns of events whose rules are on have no more than `maxNumberDigits` digits, refusals are all
that ends a run early, and without a sink nothing does. What an event leads to depends on the event
alone: it has no diagnostic if its rule is off, one if the rule is on and its range can be written,
and else a failure; and building a diagnostic does not note it down. -/
theorem reportAll_delivers (context : ParseContext) (state : σ) (events : List Event) :
    (∀ (sink : Sink σ ε) (run : Run σ ε) (handed : List Diagnostic),
      Delivery context sink state events run handed ↔
        run = context.reportAll (some sink) state events ∧
          handed = (context.reportAll (some sink.traced) (state, []) events).handed) ∧
    context.reportAll (none : Option (Sink σ ε)) state events
      = context.reportAll (some .silent) state events ∧
    ((∀ e ∈ events, context.severity e = .off ∨ e.span.IsWritable) →
      (∀ (sink : Sink σ ε) (error : BuildError),
        (context.reportAll (some sink) state events).failure ≠ some (.build error)) ∧
      context.reportAll (none : Option (Sink σ ε)) state events
        = ⟨state, events.flatMap context.notesOf, none⟩) ∧
    ∀ e,
      (context.build e = .ok none ↔ context.severity e = .off) ∧
      ((∃ d, context.build e = .ok (some d)) ↔ context.severity e ≠ .off ∧ e.span.IsWritable) ∧
      ∀ ruleId name, .reported ruleId name ∉ context.buildNotes e := by
  refine ⟨?_, context.reportAll_no_sink state events, ?_, ?_⟩
  · intro sink run handed
    constructor
    · exact Delivery.eq_reportAll
    · rintro ⟨rfl, rfl⟩
      obtain ⟨run, handed, h⟩ := Delivery.exists_of_events context sink state events
      obtain ⟨hrun, hhanded⟩ := h.eq_reportAll
      rw [← hrun, ← hhanded]
      exact h
  · intro h
    refine ⟨fun sink error => ParseContext.failure_reportAll_ne_build h sink state error, ?_⟩
    obtain ⟨ds, hds⟩ := ParseContext.exists_diagnostics_eq_ok h
    rw [ParseContext.reportAll_no_sink,
      ParseContext.reportAll_eq_of_foldlM hds (Sink.foldlM_silent ds state)]
  · intro e
    refine ⟨ParseContext.build_eq_none_iff, ParseContext.exists_build_eq_some_iff, ?_⟩
    intro ruleId name h
    exact absurd (ParseContext.eq_ruleUnknown_of_mem_buildNotes h) nofun

/-- An event of a known rule and one of an unknown rule, without a sink. -/
theorem reportAll_delivers_of_two_events :
    let context : ParseContext := ⟨"a", .empty, none⟩
    let e : Event := ⟨"missing-doctype", ⟨⟨1, 1, 0⟩, ⟨1, 1, 0⟩⟩⟩
    let e' : Event := ⟨"no-such-rule", ⟨⟨-1, 2, 1⟩, ⟨1, 2, 1⟩⟩⟩
    e.span.IsWritable ∧ e'.span.IsWritable ∧
      context.reportAll (none : Option (Sink Unit Empty)) () [e, e']
        = ⟨(), context.notesOf e ++ context.notesOf e', none⟩ := by
  intro context e e'
  have writable : e.span.IsWritable := by decide
  have writable' : e'.span.IsWritable := by decide
  obtain ⟨-, -, hwritable, -⟩ := @reportAll_delivers Unit Empty context () [e, e']
  have hall : ∀ f ∈ [e, e'], context.severity f = .off ∨ f.span.IsWritable := by
    intro f hf
    rcases List.mem_cons.1 hf with rfl | hf
    · exact .inr writable
    · obtain rfl := List.mem_singleton.1 hf
      exact .inr writable'
  refine ⟨writable, writable', ?_⟩
  rw [(hwritable hall).2, List.flatMap_cons, List.flatMap_singleton]

/-- On a line whose number has one digit too many, a rule that is on is neither noted down nor
reported: the run fails, although there is no sink that could refuse a diagnostic. -/
theorem reportAll_of_long_line :
    let context : ParseContext := ⟨[], .empty, none⟩
    let e : Event := ⟨"missing-doctype", .farDown⟩
    context.severity e ≠ .off ∧
      context.reportAll (none : Option (Sink Unit Empty)) () [e]
        = ⟨(), [], some (.build (.position .tooManyDigits))⟩ := by
  intro context e
  have on : context.severity e ≠ .off := nofun
  have hbuild : context.build e = .error (.position .tooManyDigits) :=
    ParseContext.build_eq_error_iff.2 ⟨on, Span.not_isWritable_farDown, rfl⟩
  have hknown : isKnown (camelCase e.code) = true := by decide +kernel
  have hnotes : context.notesOf e = [] := by
    rw [ParseContext.notesOf_of_error hbuild]
    exact if_pos (.inr hknown)
  refine ⟨on, ?_⟩
  rw [ParseContext.reportAll, ParseContext.report_of_unbuilt hbuild, hnotes]
  rfl

end HtmlDiagnostics
