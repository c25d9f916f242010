import HtmlDiagnostics.Proofs.Building
import HtmlDiagnostics.Proofs.Template.Places
import Mathlib.Data.Option.Defs

/-! # Diagnostics depend on two source characters

The texts of a diagnostic come from the templates of its rule, and these read the source at the
start of the event and right before it. Whether there is a diagnostic at all is up to the settings,
but for a range that cannot be written. So two events of one code get the same texts as soon as
their sources look alike at these two places, wherever the places are, and a text put in front of
the source changes nothing.

* **`SameView`** — two sources look alike at an offset each and right before it.
* **`Diagnostic.SameTexts`** — two diagnostics say the same.
* **`build_of_sameView`** — where sources look alike, diagnostics say the same.
* **`SameView.prepend`** — a text in front of the source, with the offset moved along.
* **`build_local`** — both together.
* **`build_of_lines_apart`** — two events at one offset, of which only one can be written. -/

namespace HtmlDiagnostics

/-! ## Two sources -/

/-- Two sources look alike at an offset each and right before it: the same code point stands
there, or both places are outside. -/
structure SameView (source : Text) (offset : Int) (source' : Text) (offset' : Int) : Prop where
  /-- At the offset. -/
  here : Text.at? source offset = Text.at? source' offset'
  /-- Right before the offset. -/
  before : Text.at? source (offset - 1) = Text.at? source' (offset' - 1)

/-- A place in a text that got another text in front. -/
theorem Text.at?_append (front t : Text) {i : Int} (h : 0 ≤ i) :
    Text.at? (front ++ t) (i + front.length) = Text.at? t i := by
  obtain ⟨n, rfl⟩ := Int.eq_ofNat_of_zero_le h
  rw [← Int.natCast_add, Text.at?_ofNat, Text.at?_ofNat,
    List.getElem?_append_right (Nat.le_add_left ..), Nat.add_sub_cancel]

/-- A text in front of the source changes nothing if the offset is moved along. Right before the
first code point there was nothing, so the offset must not have been zero. -/
theorem SameView.prepend (front source : Text) {offset : Int} (h : 1 ≤ offset) :
    SameView source offset (front ++ source) (offset + front.length) where
  here := (Text.at?_append front source (by omega)).symm
  before := by
    have hmove : offset + front.length - 1 = offset - 1 + front.length := by omega
    rw [hmove]
    exact (Text.at?_append front source (by omega)).symm

variable {source source' : Text} {offset offset' : Int}

/-- Sources that look alike look the same to the templates of every code. -/
theorem SameView.agree (h : SameView source offset source' offset') (code : Text) :
    Template.Agree (Template.tokens (ruleOf code).reason) source offset source' offset' ∧
      Template.Agree (Template.tokens (ruleOf code).explanation) source offset source' offset' := by
  have hplace : ∀ place : Int, place = 0 ∨ place = -1 →
      Text.at? source (offset + place) = Text.at? source' (offset' + place) := by
    rintro place (rfl | rfl)
    · rw [Int.add_zero, Int.add_zero]
      exact h.here
    · exact h.before
  constructor
  · intro token ht place hp
    exact hplace place (place?_of_mem_rule code (.inl ht) hp)
  · intro token ht place hp
    exact hplace place (place?_of_mem_rule code (.inr ht) hp)

/-! ## Two diagnostics -/

/-- Two diagnostics say the same. -/
structure Diagnostic.SameTexts (d d' : Diagnostic) : Prop where
  /-- They have the same message. -/
  message : d.message = d'.message
  /-- They have the same reason. -/
  reason : d.reason = d'.reason
  /-- They have the same note. -/
  note : d.note = d'.note

namespace ParseContext

variable {settings : OrderedMap Setting} {path : Option Text} {e e' : Event}

/-- Diagnostics of the same code say the same where the sources look alike. -/
theorem sameTexts_described (hcode : e.code = e'.code)
    (h : SameView source e.span.start.offset source' e'.span.start.offset) (fatal : Bool) :
    ((ParseContext.mk source settings path).described e fatal).SameTexts
      ((ParseContext.mk source' settings path).described e' fatal) := by
  obtain ⟨hreason, hnote⟩ := h.agree e.code
  have hreason := Template.rendered_eq_of_agree hreason
  have hnote := Template.rendered_eq_of_agree hnote
  rw [hcode] at hreason hnote
  refine ⟨?_, ?_, ?_⟩
  · simp only [described, hcode, hreason]
  · simp only [described, hcode, hreason]
  · simp only [described, hcode, hnote]

/-- Diagnostics of the same event are equal where the sources look alike. -/
theorem described_eq_of_sameView
    (h : SameView source e.span.start.offset source' e.span.start.offset) (fatal : Bool) :
    (ParseContext.mk source settings path).described e fatal
      = (ParseContext.mk source' settings path).described e fatal := by
  obtain ⟨hreason, hnote⟩ := h.agree e.code
  simp only [described, Template.rendered_eq_of_agree hreason, Template.rendered_eq_of_agree hnote]

/-- **Where sources look alike, diagnostics say the same**: events of the same code whose
diagnostics can be built either both lead to none, which is if their rule is off, or to two with the
same texts, and the same event leads to the same diagnostic. -/
theorem build_of_sameView (hcode : e.code = e'.code)
    (can : (ParseContext.mk source settings path).CanBuild e)
    (can' : (ParseContext.mk source' settings path).CanBuild e')
    (h : SameView source e.span.start.offset source' e'.span.start.offset) :
    ∃ built built' : Option Diagnostic,
      (ParseContext.mk source settings path).build e = .ok built ∧
      (ParseContext.mk source' settings path).build e' = .ok built' ∧
      (built = none ↔ severityOf (camelCase e.code) settings = .off) ∧
      Option.Rel Diagnostic.SameTexts built built' ∧ (e = e' → built = built') := by
  refine ⟨_, _, build_eq_ok can, build_eq_ok can', diagnostic?_eq_none_iff _ e, ?_⟩
  -- the severity goes by the code and the settings
  have hseverity : (ParseContext.mk source' settings path).severity e'
      = (ParseContext.mk source settings path).severity e := by
    rw [severity, severity, hcode]
  rw [diagnostic?, diagnostic?, hseverity]
  have hsame : ∀ fatal, e = e' → (ParseContext.mk source settings path).described e fatal
      = (ParseContext.mk source' settings path).described e' fatal := by
    rintro fatal rfl
    exact described_eq_of_sameView h fatal
  cases (ParseContext.mk source settings path).severity e with
  | off => exact ⟨.none, fun _ => rfl⟩
  | warning =>
    exact ⟨.some (sameTexts_described hcode h false), fun he => congrArg some (hsame false he)⟩
  | fatal =>
    exact ⟨.some (sameTexts_described hcode h true), fun he => congrArg some (hsame true he)⟩

end ParseContext

/-! ## Locality -/

/-- **Diagnostics are local.** Under the same settings and path, take two events of the same code,
each over a source of its own, whose rule is off or whose ranges can be written. If the code points
at their start offsets are the same, and those right before as well, where a place outside the
source counts as having none, then no diagnostic is built for either, which is if their rule is off,
or two that have the same texts; for equal events these are equal altogether. So the end, the lines
and the columns of an event have no part in the texts as long as they can be written, nor has
anything else of the source. In particular a text in front of the source changes no text of a
diagnostic if the offset is moved along, unless the event starts at the very beginning. -/
theorem build_local (settings : OrderedMap Setting) (path : Option Text) (source : Text)
    (e e' : Event) (hcode : e.code = e'.code)
    (writable : severityOf (camelCase e.code) settings ≠ .off →
      e.span.IsWritable ∧ e'.span.IsWritable) :
    (∀ source' : Text,
      Text.at? source e.span.start.offset = Text.at? source' e'.span.start.offset →
      Text.at? source (e.span.start.offset - 1) = Text.at? source' (e'.span.start.offset - 1) →
      ∃ built built' : Option Diagnostic,
        (ParseContext.mk source settings path).build e = .ok built ∧
        (ParseContext.mk source' settings path).build e' = .ok built' ∧
        (built = none ↔ severityOf (camelCase e.code) settings = .off) ∧
        Option.Rel Diagnostic.SameTexts built built' ∧ (e = e' → built = built')) ∧
    (∀ front : Text, 1 ≤ e.span.start.offset →
      e'.span.start.offset = e.span.start.offset + front.length →
      ∃ built built' : Option Diagnostic,
        (ParseContext.mk source settings path).build e = .ok built ∧
        (ParseContext.mk (front ++ source) settings path).build e' = .ok built' ∧
        (built = none ↔ severityOf (camelCase e.code) settings = .off) ∧
        Option.Rel Diagnostic.SameTexts built built') := by
  have can : ∀ source, (ParseContext.mk source settings path).CanBuild e := fun source =>
    ParseContext.canBuild_iff.2 fun on => (writable on).1
  have can' : ∀ source, (ParseContext.mk source settings path).CanBuild e' := by
    -- the rules of both events are the same
    rw [hcode] at writable
    exact fun source => ParseContext.canBuild_iff.2 fun on => (writable on).2
  constructor
  · intro source' hhere hbefore
    exact ParseContext.build_of_sameView hcode (can _) (can' _) ⟨hhere, hbefore⟩
  · intro front hoffset hmoved
    have hview : SameView source e.span.start.offset (front ++ source) e'.span.start.offset := by
      rw [hmoved]
      exact SameView.prepend front source hoffset
    have hbuilds := @ParseContext.build_of_sameView source (front ++ source) settings path e e'
      hcode (can _) (can' _) hview
    obtain ⟨built, built', hbuilt, hbuilt', hnone, htexts, -⟩ := hbuilds
    exact ⟨built, built', hbuilt, hbuilt', hnone, htexts⟩

/-- A slash before the start of an event, once in a long text and once in a short one, and the same
with a text in front. -/
theorem build_local_of_slash :
    let e : Event := ⟨"end-tag-with-trailing-solidus", ⟨⟨1, 5, 4⟩, ⟨1, 5, 4⟩⟩⟩
    let e' : Event := ⟨"end-tag-with-trailing-solidus", ⟨⟨7, 2, 1⟩, ⟨9, 9, 9⟩⟩⟩
    let moved : Event := ⟨"end-tag-with-trailing-solidus", ⟨⟨0, 0, 6⟩, ⟨0, 0, 0⟩⟩⟩
    (∃ d d' : Diagnostic,
      (ParseContext.mk "</x/>" .empty none).build e = .ok (some d) ∧
      (ParseContext.mk "/> and more" .empty none).build e' = .ok (some d') ∧ d.SameTexts d') ∧
    ∃ d d' : Diagnostic,
      (ParseContext.mk "</x/>" .empty none).build e = .ok (some d) ∧
      (ParseContext.mk ("<x" ++ "</x/>") .empty none).build moved = .ok (some d') ∧
      d.SameTexts d' := by
  intro e e' moved
  -- nothing is set for the rule, so it is on
  have hon : severityOf (camelCase e.code) .empty ≠ .off := nofun
  have writable : e.span.IsWritable := by decide
  have writable' : e'.span.IsWritable := by decide
  have hmoved : moved.span.IsWritable := by decide
  constructor
  · obtain ⟨built, built', hbuilt, hbuilt', hnone, htexts, -⟩ :=
      (build_local .empty none "</x/>" e e' rfl fun _ => ⟨writable, writable'⟩).1 "/> and more"
        (by decide) (by decide)
    cases htexts with
    | none => exact absurd (hnone.1 rfl) hon
    | some htexts => exact ⟨_, _, hbuilt, hbuilt', htexts⟩
  · obtain ⟨built, built', hbuilt, hbuilt', hnone, htexts⟩ :=
      (build_local .empty none "</x/>" e moved rfl fun _ => ⟨writable, hmoved⟩).2 "<x"
        (by decide) (by decide)
    cases htexts with
    | none => exact absurd (hnone.1 rfl) hon
    | some htexts => exact ⟨_, _, hbuilt, hbuilt', htexts⟩

/-- Two events of one code at the same offset of the same source. The line of one has a digit too
many, so it leads to no diagnostic, and the other one does. -/
theorem build_of_lines_apart :
    let context : ParseContext := ⟨"a", .empty, none⟩
    let e : Event := ⟨"missing-doctype", ⟨⟨1, 1, 0⟩, ⟨1, 1, 0⟩⟩⟩
    let e' : Event := ⟨"missing-doctype", .farDown⟩
    e.code = e'.code ∧ e.span.start.offset = e'.span.start.offset ∧
      (∃ d, context.build e = .ok (some d)) ∧
      context.build e' = .error (.position .tooManyDigits) := by
  intro context e e'
  exact ⟨rfl, rfl, ParseContext.exists_build_eq_some_iff.2 ⟨nofun, by decide⟩,
    ParseContext.build_eq_error_iff.2 ⟨nofun, Span.not_isWritable_farDown, rfl⟩⟩

end HtmlDiagnostics
