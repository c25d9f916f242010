import HtmlDiagnostics.Proofs.Building
import HtmlDiagnostics.Proofs.Text.Numeral

/-! # A name tells the file and the range

A name is the path, if there is one, and the range, with colons and a hyphen in between. These also
stand in paths, and hyphens are the signs of numbers as well. All the same a name can be taken
apart from its end: no numeral has a colon, so the last colon is in front of the last column, the
colon before is in front of the first one, and if there is a third one, the path ends there.

* **`nameHead`**, **`diagnosticName_eq`** — a name up to its first column, and all of it.
* **`diagnosticName_eq_iff`** — when two names are equal.
* **`build_name_eq_iff`** — the same for the names of what is built. -/

namespace HtmlDiagnostics

/-- The start of a name: the path, if there is one, and the first line. -/
def nameHead (path : Option Text) (line : Int) : Text :=
  match knownPath path with
  | none => Text.ofInt line
  | some path => path ++ CodePoint.ofChar ':' :: Text.ofInt line

/-- A name, with its last two colons set apart. -/
theorem diagnosticName_eq (path : Option Text) (span : Span) :
    diagnosticName path span.written
      = nameHead path span.start.line
        ++ CodePoint.ofChar ':' :: (Text.ofInt span.start.column
          ++ CodePoint.ofChar '-' :: Text.ofInt span.stop.line)
        ++ CodePoint.ofChar ':' :: Text.ofInt span.stop.column := by
  have hcolon : (":" : Text) = [CodePoint.ofChar ':'] := rfl
  have hhyphen : ("-" : Text) = [CodePoint.ofChar '-'] := rfl
  rw [diagnosticName, nameHead]
  cases knownPath path <;>
    simp only [Span.written, Point.written, hcolon, hhyphen, List.append_assoc, List.cons_append,
      List.nil_append]

/-- No numeral of an integer has a colon. -/
theorem colon_notMem_ofInt (n : Int) : CodePoint.ofChar ':' ∉ Text.ofInt n :=
  Text.notMem_ofInt (by decide) (by decide) n

/-- The start of a name tells the path and the line, as a colon is in it only behind a path. -/
theorem nameHead_injective {path path' : Option Text} {line line' : Int}
    (h : nameHead path line = nameHead path' line') :
    knownPath path = knownPath path' ∧ line = line' := by
  rw [nameHead, nameHead] at h
  cases hpath : knownPath path with
  | none =>
    cases hpath' : knownPath path' with
    | none =>
      rw [hpath, hpath'] at h
      exact ⟨rfl, Text.ofInt_injective h⟩
    | some known' =>
      rw [hpath, hpath'] at h
      simp only at h
      refine absurd ?_ (colon_notMem_ofInt line)
      rw [h]
      exact List.mem_append_cons_self
  | some known =>
    cases hpath' : knownPath path' with
    | none =>
      rw [hpath, hpath'] at h
      simp only at h
      refine absurd ?_ (colon_notMem_ofInt line')
      rw [← h]
      exact List.mem_append_cons_self
    | some known' =>
      rw [hpath, hpath'] at h
      obtain ⟨rfl, hline⟩ :=
        Text.append_cons_inj_of_last (colon_notMem_ofInt line) (colon_notMem_ofInt line') h
      exact ⟨rfl, Text.ofInt_injective hline⟩

/-- **Two names are equal exactly if the path, the lines and the columns are.** -/
theorem diagnosticName_eq_iff {path path' : Option Text} {span span' : Span} :
    diagnosticName path span.written = diagnosticName path' span'.written ↔
      knownPath path = knownPath path' ∧
        span.start.line = span'.start.line ∧ span.start.column = span'.start.column ∧
        span.stop.line = span'.stop.line ∧ span.stop.column = span'.stop.column := by
  constructor
  · intro h
    rw [diagnosticName_eq, diagnosticName_eq] at h
    obtain ⟨h, hstopColumn⟩ :=
      Text.append_cons_inj_of_last (colon_notMem_ofInt _) (colon_notMem_ofInt _) h
    -- what stands between the last two colons has none either
    have hmiddle : ∀ m n : Int,
        CodePoint.ofChar ':' ∉ Text.ofInt m ++ CodePoint.ofChar '-' :: Text.ofInt n := by
      intro m n
      rw [List.mem_append, List.mem_cons]
      rintro (hm | hc | hn)
      · exact colon_notMem_ofInt m hm
      · exact absurd hc (by decide)
      · exact colon_notMem_ofInt n hn
    obtain ⟨hhead, hmiddle⟩ := Text.append_cons_inj_of_last (hmiddle _ _) (hmiddle _ _) h
    obtain ⟨hstartColumn, hstopLine⟩ := Text.ofInt_append_hyphen_inj hmiddle
    obtain ⟨hpath, hstartLine⟩ := nameHead_injective hhead
    exact ⟨hpath, hstartLine, hstartColumn, Text.ofInt_injective hstopLine,
      Text.ofInt_injective hstopColumn⟩
  · rintro ⟨hpath, hstartLine, hstartColumn, hstopLine, hstopColumn⟩
    rw [diagnosticName_eq, diagnosticName_eq, nameHead, nameHead, hpath, hstartLine, hstartColumn,
      hstopLine, hstopColumn]

namespace ParseContext

/-- What is built for an event is named after the path and the range of the event. -/
theorem name_of_build {context : ParseContext} {e : Event} {d : Diagnostic}
    (built : context.build e = .ok (some d)) :
    d.name = diagnosticName context.path e.span.written := by
  obtain ⟨fatal, rfl⟩ := eq_described_of_build built
  rfl

/-- **A name tells the file and the range.** Take two events, each with a source, settings and a path
of its own, for which diagnostics are built. Their names are equal exactly if the paths are, where
the empty path counts as none, and the first and last lines and columns are. In particular a name
with a path is never one without. -/
theorem build_name_eq_iff {context context' : ParseContext} {e e' : Event} {d d' : Diagnostic}
    (built : context.build e = .ok (some d)) (built' : context'.build e' = .ok (some d')) :
    (d.name = d'.name ↔
      knownPath context.path = knownPath context'.path ∧
        e.span.start.line = e'.span.start.line ∧ e.span.start.column = e'.span.start.column ∧
        e.span.stop.line = e'.span.stop.line ∧ e.span.stop.column = e'.span.stop.column) ∧
    ((knownPath context.path).isSome ≠ (knownPath context'.path).isSome → d.name ≠ d'.name) := by
  rw [name_of_build built, name_of_build built']
  refine ⟨diagnosticName_eq_iff, fun hpath h => hpath ?_⟩
  rw [(diagnosticName_eq_iff.1 h).1]

/-- The path of one file looks like the start of a name, and the path of the other one is missing;
a range with signs in it is told from both. -/
theorem build_name_eq_iff_of_signs :
    let e : Event := ⟨"missing-doctype", ⟨⟨1, -2, 0⟩, ⟨-3, 4, 9⟩⟩⟩
    let e' : Event := ⟨"eof-in-tag", ⟨⟨1, -2, 7⟩, ⟨-3, 4, 7⟩⟩⟩
    ∃ d d' d'' : Diagnostic,
      (ParseContext.mk "a" .empty (some "a:1:-2-")).build e = .ok (some d) ∧
      (ParseContext.mk "b" .empty (some "")).build e' = .ok (some d') ∧
      (ParseContext.mk "c" .empty none).build e = .ok (some d'') ∧
      d.name ≠ d'.name ∧ d'.name = d''.name := by
  intro e e'
  -- nothing is set for the rules, so they are on
  have writable : e.span.IsWritable := by decide
  have writable' : e'.span.IsWritable := by decide
  have built : (ParseContext.mk "a" .empty (some "a:1:-2-")).build e = _ :=
    build_eq_ok (.inr writable)
  have built' : (ParseContext.mk "b" .empty (some "")).build e' = _ := build_eq_ok (.inr writable')
  have built'' : (ParseContext.mk "c" .empty none).build e = _ := build_eq_ok (.inr writable)
  refine ⟨_, _, _, built, built', built'', ?_, ?_⟩
  · exact (build_name_eq_iff built built').2 (by decide)
  · exact (build_name_eq_iff built' built'').1.2 ⟨rfl, rfl, rfl, rfl, rfl⟩

end ParseContext

end HtmlDiagnostics
