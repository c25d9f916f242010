import HtmlDiagnostics.Proofs.Position
import HtmlDiagnostics.Proofs.Rendering
import Mathlib.Data.List.ReduceOption

/-! # What is built for an event

The templates of the rules can always be rendered, so one thing is left that keeps the diagnostic of
an event from being built: its range has no label because a line or a column has too many digits.
For every other event there is a plain function behind the building. Nothing goes wrong with an
event whose rule is off, as its range is never written.

* **`described`** — the diagnostic of an event whose rule is on, field by field.
* **`diagnostic?`** — what is built for an event if nothing keeps it from being built.
* **`CanBuild`** — when that is; **`build_eq_ok`**, **`build_eq_error`** — what building comes to.
* **`build_eq_none_iff`**, **`exists_build_eq_some_iff`**, **`build_eq_error_iff`** — the outcomes.
* **`eq_described_of_build`** — what is built is described.
* **`diagnostics`** — what is built for several events.
* **`notesOf`** — what one event adds to the log when it is handled. -/

namespace HtmlDiagnostics

namespace ParseContext

/-- The diagnostic of an event whose rule is on. -/
def described (context : ParseContext) (e : Event) (fatal : Bool) : Diagnostic where
  ruleId := e.code
  message := Template.rendered (ruleOf e.code).reason context.source e.span.start.offset
  reason := Template.rendered (ruleOf e.code).reason context.source e.span.start.offset
  note := Template.rendered (ruleOf e.code).explanation context.source e.span.start.offset
  name := diagnosticName context.path e.span.written
  line := e.span.start.line
  column := e.span.start.column
  position := e.span
  fatal := some fatal
  source := some diagnosticSource
  url := if (ruleOf e.code).hasAnchor then some (anchorUrl e.code) else none
  file := knownPath context.path

/-- A diagnostic is put together if the range can be written. -/
theorem assemble_eq_ok (context : ParseContext) {e : Event} (writable : e.span.IsWritable)
    (fatal : Bool) : context.assemble e fatal = .ok (context.described e fatal) := by
  obtain ⟨hreason, hnote⟩ := render_ruleOf e.code context.source e.span.start.offset
  simp only [assemble, Span.label_eq_ok writable, hreason, hnote]
  rfl

/-- It is not if the range cannot be written. -/
theorem assemble_eq_error (context : ParseContext) {e : Event} (h : ¬ e.span.IsWritable)
    (fatal : Bool) : context.assemble e fatal = .error (.position .tooManyDigits) := by
  simp only [assemble, Span.label_eq_error h]
  rfl

/-! ## The outcomes of building -/

/-- The diagnostic of an event, by the severity of its rule. -/
def diagnostic? (context : ParseContext) (e : Event) : Option Diagnostic :=
  match context.severity e with
  | .off => none
  | .warning => some (context.described e false)
  | .fatal => some (context.described e true)

/-- Nothing keeps the diagnostic of an event from being built: there is none to build, or the range
of the event can be written. -/
def CanBuild (context : ParseContext) (e : Event) : Prop :=
  context.severity e = .off ∨ e.span.IsWritable

variable {context : ParseContext} {e : Event}

/-- Only the range of an event whose rule is on matters. -/
theorem canBuild_iff :
    context.CanBuild e ↔ (context.severity e ≠ .off → e.span.IsWritable) :=
  or_iff_not_imp_left

/-- **Building comes to the diagnostic of the event**, or to none. -/
theorem build_eq_ok (h : context.CanBuild e) : context.build e = .ok (context.diagnostic? e) := by
  unfold build diagnostic?
  rcases h with hoff | writable
  · rw [hoff]
  · cases context.severity e with
    | off => rfl
    | warning => exact congrArg (Except.map some) (context.assemble_eq_ok writable false)
    | fatal => exact congrArg (Except.map some) (context.assemble_eq_ok writable true)

/-- **Nothing else keeps a diagnostic from being built.** -/
theorem build_eq_error (h : ¬ context.CanBuild e) :
    context.build e = .error (.position .tooManyDigits) := by
  obtain ⟨on, unwritable⟩ := not_or.1 h
  unfold build
  cases hseverity : context.severity e with
  | off => exact absurd hseverity on
  | warning => exact congrArg (Except.map some) (context.assemble_eq_error unwritable false)
  | fatal => exact congrArg (Except.map some) (context.assemble_eq_error unwritable true)

/-- There is no diagnostic of an event exactly if its rule is off. -/
theorem diagnostic?_eq_none_iff (context : ParseContext) (e : Event) :
    context.diagnostic? e = none ↔ context.severity e = .off := by
  unfold diagnostic?
  cases context.severity e with
  | off => exact iff_of_true rfl rfl
  | warning => exact iff_of_false nofun nofun
  | fatal => exact iff_of_false nofun nofun

/-- A diagnostic of an event says whether the rule is fatal and is described otherwise. -/
theorem eq_described_of_diagnostic? {d : Diagnostic} (h : context.diagnostic? e = some d) :
    ∃ fatal, d = context.described e fatal := by
  unfold diagnostic? at h
  cases hseverity : context.severity e with
  | off =>
    rw [hseverity] at h
    cases h
  | warning =>
    rw [hseverity] at h
    exact ⟨false, (Option.some.inj h).symm⟩
  | fatal =>
    rw [hseverity] at h
    exact ⟨true, (Option.some.inj h).symm⟩

/-- What has been built could be built, and it is the diagnostic of the event, or none. -/
theorem build_eq_ok_iff {built : Option Diagnostic} :
    context.build e = .ok built ↔ context.CanBuild e ∧ context.diagnostic? e = built := by
  by_cases h : context.CanBuild e
  · rw [build_eq_ok h, Except.ok.injEq]
    exact (and_iff_right h).symm
  · rw [build_eq_error h]
    exact iff_of_false nofun fun hbuilt => h hbuilt.1

/-- **Nothing is built exactly when the rule is off.** -/
theorem build_eq_none_iff : context.build e = .ok none ↔ context.severity e = .off := by
  rw [build_eq_ok_iff, diagnostic?_eq_none_iff]
  exact and_iff_right_of_imp .inl

/-- **A diagnostic is built exactly when the rule is on and the range can be written.** -/
theorem exists_build_eq_some_iff :
    (∃ d, context.build e = .ok (some d)) ↔ context.severity e ≠ .off ∧ e.span.IsWritable := by
  constructor
  · rintro ⟨d, h⟩
    obtain ⟨hcan, hd⟩ := build_eq_ok_iff.1 h
    have on : context.severity e ≠ .off := by
      rw [ne_eq, ← diagnostic?_eq_none_iff, hd]
      exact Option.some_ne_none d
    exact ⟨on, hcan.resolve_left on⟩
  · rintro ⟨on, writable⟩
    rw [ne_eq, ← diagnostic?_eq_none_iff, ← ne_eq, Option.ne_none_iff_exists'] at on
    obtain ⟨d, hd⟩ := on
    exact ⟨d, build_eq_ok_iff.2 ⟨.inr writable, hd⟩⟩

/-- **Building fails exactly when the rule is on and the range cannot be written**, and there is one
reason for it. -/
theorem build_eq_error_iff {error : BuildError} :
    context.build e = .error error ↔
      context.severity e ≠ .off ∧ ¬ e.span.IsWritable ∧ error = .position .tooManyDigits := by
  by_cases h : context.CanBuild e
  · rw [build_eq_ok h]
    refine iff_of_false nofun ?_
    rintro ⟨on, unwritable, -⟩
    exact h.elim on unwritable
  · rw [build_eq_error h, Except.error.injEq]
    obtain ⟨on, unwritable⟩ := not_or.1 h
    exact ⟨fun heq => ⟨on, unwritable, heq.symm⟩, fun ⟨_, _, heq⟩ => heq.symm⟩

/-- What is built is described. -/
theorem eq_described_of_build {d : Diagnostic} (h : context.build e = .ok (some d)) :
    ∃ fatal, d = context.described e fatal :=
  eq_described_of_diagnostic? (build_eq_ok_iff.1 h).2

/-! ## Several events -/

/-- The diagnostics of events in order, without those of the rules that are off, if all of them can
be built. -/
def diagnostics (context : ParseContext) (events : List Event) :
    Except BuildError (List Diagnostic) :=
  (events.mapM context.build).map List.reduceOption

@[simp] theorem diagnostics_nil (context : ParseContext) : context.diagnostics [] = .ok [] := rfl

theorem diagnostics_cons_of_none (h : context.build e = .ok none) (rest : List Event) :
    context.diagnostics (e :: rest) = context.diagnostics rest := by
  rw [diagnostics, diagnostics, List.mapM_cons, h]
  cases rest.mapM context.build <;> rfl

theorem diagnostics_cons_of_some {d : Diagnostic} (h : context.build e = .ok (some d))
    (rest : List Event) :
    context.diagnostics (e :: rest) = (context.diagnostics rest).map (d :: ·) := by
  rw [diagnostics, diagnostics, List.mapM_cons, h]
  cases rest.mapM context.build <;> rfl

theorem diagnostics_cons_of_error {error : BuildError} (h : context.build e = .error error)
    (rest : List Event) : context.diagnostics (e :: rest) = .error error := by
  rw [diagnostics, List.mapM_cons, h]
  rfl

/-- Events behind others whose diagnostics are built. -/
theorem diagnostics_append {front : List Event} {ds : List Diagnostic}
    (h : context.diagnostics front = .ok ds) (back : List Event) :
    context.diagnostics (front ++ back) = (context.diagnostics back).map (ds ++ ·) := by
  unfold diagnostics at h ⊢
  rw [List.mapM_append]
  cases hfront : front.mapM context.build with
  | error error =>
    rw [hfront] at h
    cases h
  | ok built =>
    rw [hfront] at h
    obtain rfl : built.reduceOption = ds := Except.ok.inj h
    cases back.mapM context.build with
    | error error => rfl
    | ok more => exact congrArg Except.ok (List.reduceOption_append built more)

/-- The diagnostics of several events can be built if nothing keeps any of them from it. -/
theorem exists_diagnostics_eq_ok {events : List Event} (h : ∀ e ∈ events, context.CanBuild e) :
    ∃ ds, context.diagnostics events = .ok ds := by
  induction events with
  | nil => exact ⟨[], rfl⟩
  | cons e rest ih =>
    obtain ⟨ds, hds⟩ := ih fun e he => h e (List.mem_cons_of_mem _ he)
    have hbuild := build_eq_ok (h e List.mem_cons_self)
    cases hd : context.diagnostic? e with
    | none =>
      rw [hd] at hbuild
      exact ⟨ds, by rw [diagnostics_cons_of_none hbuild, hds]⟩
    | some d =>
      rw [hd] at hbuild
      exact ⟨d :: ds, by rw [diagnostics_cons_of_some hbuild, hds]; rfl⟩

/-! ## Notes -/

/-- What an event adds to the log: nothing if its rule is off, and else a note that the rule is
unknown, if it is, and a note that the diagnostic is on its way, if it has been built. -/
def notesOf (context : ParseContext) (e : Event) : List Note :=
  if context.severity e = .off then []
  else
    (if isKnown (camelCase e.code) then [] else [.ruleUnknown e.code])
      ++ match context.build e with
        | .ok (some d) => [.reported d.ruleId d.name]
        | _ => []

theorem notesOf_of_none (h : context.build e = .ok none) : context.notesOf e = [] :=
  if_pos (build_eq_none_iff.1 h)

/-- Building itself notes nothing down for a rule that is off. -/
theorem buildNotes_of_none (h : context.build e = .ok none) : context.buildNotes e = [] :=
  if_pos (.inl (build_eq_none_iff.1 h))

/-- For a rule that is on, what is noted down while the diagnostic is built comes first. -/
theorem notesOf_of_on (on : context.severity e ≠ .off) :
    context.notesOf e = context.buildNotes e
      ++ match context.build e with
        | .ok (some d) => [.reported d.ruleId d.name]
        | _ => [] := by
  rw [notesOf, if_neg on, buildNotes]
  simp only [on, false_or]

/-- The note about an unknown rule is taken while the diagnostic is built, the note about the
diagnostic afterwards. -/
theorem notesOf_of_some {d : Diagnostic} (h : context.build e = .ok (some d)) :
    context.notesOf e = context.buildNotes e ++ [.reported d.ruleId d.name] := by
  rw [notesOf_of_on (exists_build_eq_some_iff.1 ⟨d, h⟩).1, h]

/-- If the diagnostic cannot be built, only the note about an unknown rule is taken. -/
theorem notesOf_of_error {error : BuildError} (h : context.build e = .error error) :
    context.notesOf e = context.buildNotes e := by
  rw [notesOf_of_on (build_eq_error_iff.1 h).1, h]
  exact List.append_nil _

/-- Building takes no note but the one about an unknown rule. -/
theorem eq_ruleUnknown_of_mem_buildNotes {note : Note} (h : note ∈ context.buildNotes e) :
    note = .ruleUnknown e.code := by
  rw [buildNotes] at h
  split at h
  · cases h
  · exact List.mem_singleton.1 h

end ParseContext

end HtmlDiagnostics
