import HtmlDiagnostics.Proofs.Listing
import HtmlDiagnostics.Proofs.Rule.Spelling
import HtmlDiagnostics.Proofs.Shortening
import HtmlDiagnostics.Proofs.Template.Splitting

/-! # A diagnostic on one line

The layout with one line puts the name of a diagnostic first, and a name may hold anything: it
starts with a path. But the line can be taken apart from its end. A code of a known rule has letters
and hyphens only, so the last bracket is the one in front of the code; the reason of a known rule
has no placeholders and no colons, so the last colon in front of that is the one in front of the
message, and the colon before it stands behind the name. And no line feed comes in but from the
path.

* **`rendered_reason_of_isKnown`** — the reason of a known rule stands for itself.
* **`Diagnostic.IsLegible`** — diagnostics that are read from one line; **`isLegible_of_build`**.
* **`Style.oneLine_eq`**, **`Style.oneLine_inj`** — the parts of a line, and that it tells them.
* **`Style.line_tells_diagnostic`** — what is told by the line of a diagnostic of a known rule. -/

namespace HtmlDiagnostics

open Newline (lineFeed)

/-! ## The reasons of the known rules -/

/-- A code with a known key has the rule of that key. -/
theorem mem_knownRuleEntries_of_isKnown {code : Text} (known : isKnown (camelCase code)) :
    (camelCase code, ruleOf code) ∈ knownRuleEntries := by
  obtain ⟨rule, hrule⟩ := Option.isSome_iff_exists.1 known
  rw [ruleOf, hrule]
  exact OrderedMap.mem_entries_of_get? hrule

/-- The reasons of the known rules have no placeholders, no colons and no line feeds. -/
theorem reason_of_mem_knownRuleEntries : ∀ entry ∈ knownRuleEntries,
    Template.isPlain entry.2.reason = true ∧ CodePoint.ofChar ':' ∉ entry.2.reason ∧
      lineFeed ∉ entry.2.reason := by
  decide +kernel

/-- **The reason of a known rule stands for itself**, over any source and at any offset. -/
theorem rendered_reason_of_isKnown {code : Text} (known : isKnown (camelCase code)) (source : Text)
    (offset : Int) :
    Template.rendered (ruleOf code).reason source offset = (ruleOf code).reason := by
  obtain ⟨hplain, -, -⟩ := reason_of_mem_knownRuleEntries _ (mem_knownRuleEntries_of_isKnown known)
  rw [Template.rendered, Template.render_of_isPlain hplain]

/-! ## Legible diagnostics -/

namespace Diagnostic

/-- A diagnostic that is read from one line: neither code nor message has a line feed, and none has
the mark that stands in front of it on the line. -/
structure IsLegible (d : Diagnostic) : Prop where
  /-- The code has no bracket. -/
  bracket_notMem : CodePoint.ofChar '[' ∉ d.ruleId
  /-- The message has no colon. -/
  colon_notMem : CodePoint.ofChar ':' ∉ d.message
  /-- The code is on one line. -/
  ruleId : lineFeed ∉ d.ruleId
  /-- So is the message. -/
  message : lineFeed ∉ d.message

/-- **What is built for a known rule is legible.** -/
theorem isLegible_of_build {context : ParseContext} {e : Event} {d : Diagnostic}
    (known : isKnown (camelCase e.code)) (built : context.build e = .ok (some d)) :
    d.IsLegible := by
  obtain ⟨fatal, rfl⟩ := ParseContext.eq_described_of_build built
  have hcode : ∀ c ∈ e.code, c.isAsciiLetter = true ∨ c = CodePoint.hyphen :=
    isAsciiLetter_of_isKnown known
  have hmessage : (context.described e fatal).message = (ruleOf e.code).reason :=
    rendered_reason_of_isKnown known context.source e.span.start.offset
  obtain ⟨-, hcolon, hfeed⟩ :=
    reason_of_mem_knownRuleEntries _ (mem_knownRuleEntries_of_isKnown known)
  refine ⟨fun h => ?_, ?_, fun h => ?_, ?_⟩
  · exact absurd (hcode _ h) (by decide)
  · rw [hmessage]
    exact hcolon
  · exact absurd (hcode _ h) (by decide)
  · rw [hmessage]
    exact hfeed

/-- The word for the weight has no colon. -/
theorem colon_notMem_severityLabel (d : Diagnostic) : CodePoint.ofChar ':' ∉ d.severityLabel := by
  rw [severityLabel]
  cases d.isError <;> decide

end Diagnostic

namespace Style

variable {style style' : Style} {d d' : Diagnostic}

/-! ## The line -/

/-- A text as a style shows it has the code points of the text, and dots. -/
theorem mem_or_of_mem_shown {t : Text} {c : CodePoint} (h : c ∈ style.shown t) :
    c ∈ t ∨ c = CodePoint.ofChar '.' := by
  have hdots : ("..." : Text) = List.replicate 3 (CodePoint.ofChar '.') := rfl
  rw [shown, truncate] at h
  split at h
  · split at h
    · rcases List.mem_append.1 h with h | h
      · exact .inl (List.mem_of_mem_take h)
      · rw [hdots] at h
        exact .inr (List.eq_of_mem_replicate h)
    · exact .inl h
  · exact .inl h

/-- The line of a diagnostic, with the marks that it is taken apart at. -/
theorem oneLine_eq (style : Style) (d : Diagnostic) :
    style.oneLine d
      = d.name ++ CodePoint.ofChar ':' :: (CodePoint.ofChar ' ' :: d.severityLabel)
        ++ CodePoint.ofChar ':' :: (CodePoint.ofChar ' ' :: (style.shown d.message
          ++ [CodePoint.ofChar ' ']))
        ++ CodePoint.ofChar '[' :: (d.ruleId ++ [CodePoint.ofChar ']']) := by
  have hcolon : (": " : Text) = [CodePoint.ofChar ':', CodePoint.ofChar ' '] := rfl
  have hopen : (" [" : Text) = [CodePoint.ofChar ' ', CodePoint.ofChar '['] := rfl
  have hclose : ("]" : Text) = [CodePoint.ofChar ']'] := rfl
  simp only [oneLine, hcolon, hopen, hclose, List.append_assoc, List.cons_append, List.nil_append]

/-- **The line of a legible diagnostic has a line feed exactly if the name has one.** -/
theorem lineFeed_mem_oneLine_iff (style : Style) (h : d.IsLegible) :
    lineFeed ∈ style.oneLine d ↔ lineFeed ∈ d.name := by
  have hmessage : lineFeed ∉ style.shown d.message := by
    intro hmem
    rcases mem_or_of_mem_shown hmem with hmem | hdot
    · exact h.message hmem
    · exact absurd hdot (by decide)
  have hcolon : lineFeed ∉ (": " : Text) := by decide
  have hopen : lineFeed ∉ (" [" : Text) := by decide
  have hclose : lineFeed ∉ ("]" : Text) := by decide
  simp only [oneLine, List.mem_append, hcolon, d.lineFeed_notMem_severityLabel, hmessage, hopen,
    h.ruleId, hclose, or_false]

/-- **A line tells what stands on it**, if it is shown in full: legible diagnostics with the same
line have the same name, weight, message and code. -/
theorem oneLine_inj (full : style.shorten = false) (full' : style'.shorten = false)
    (h : d.IsLegible) (h' : d'.IsLegible) (heq : style.oneLine d = style'.oneLine d') :
    d.name = d'.name ∧ d.severityLabel = d'.severityLabel ∧ d.message = d'.message ∧
      d.ruleId = d'.ruleId := by
  -- what stands behind the marks, from the end of the line, lacks them
  have hcode : ∀ {code : Text}, CodePoint.ofChar '[' ∉ code →
      CodePoint.ofChar '[' ∉ code ++ [CodePoint.ofChar ']'] := by
    intro code hcode
    rw [List.mem_append, not_or]
    exact ⟨hcode, by decide⟩
  have hmessage : ∀ {message : Text}, CodePoint.ofChar ':' ∉ message →
      CodePoint.ofChar ':' ∉ CodePoint.ofChar ' ' :: (message ++ [CodePoint.ofChar ' ']) := by
    intro message hmessage
    rw [List.mem_cons, List.mem_append, not_or, not_or]
    exact ⟨by decide, hmessage, by decide⟩
  have hlabel : ∀ d : Diagnostic,
      CodePoint.ofChar ':' ∉ CodePoint.ofChar ' ' :: d.severityLabel := by
    intro d
    exact List.not_mem_cons_of_ne_of_not_mem (by decide) d.colon_notMem_severityLabel
  rw [oneLine_eq, oneLine_eq, shown_of_not_shorten full, shown_of_not_shorten full'] at heq
  obtain ⟨heq, hruleId⟩ :=
    Text.append_cons_inj_of_last (hcode h.bracket_notMem) (hcode h'.bracket_notMem) heq
  obtain ⟨heq, htext⟩ :=
    Text.append_cons_inj_of_last (hmessage h.colon_notMem) (hmessage h'.colon_notMem) heq
  obtain ⟨hname, hword⟩ := Text.append_cons_inj_of_last (hlabel d) (hlabel d') heq
  exact ⟨hname, (List.cons.inj hword).2, List.append_cancel_right (List.cons.inj htext).2,
    List.append_cancel_right hruleId⟩

/-! ## Known rules -/

/-- **A diagnostic of a known rule is on one line, and the line tells it.** Take two events with
codes of known rules, however they are spelled, each with a source, settings, a path and integers of
its own, for which diagnostics are built, and the layout with one line. The line has a line feed
exactly if the path has one, whether it is shortened or not. And two lines that are not shortened
are equal exactly if the paths are, where the empty path counts as none, and the first and last
lines and columns, the words for the weight, the messages and the codes are. -/
theorem line_tells_diagnostic (line : style.layout = .line) (line' : style'.layout = .line)
    {context context' : ParseContext} {e e' : Event} (known : isKnown (camelCase e.code))
    (known' : isKnown (camelCase e'.code)) (built : context.build e = .ok (some d))
    (built' : context'.build e' = .ok (some d')) :
    (lineFeed ∈ style.format d ↔ ∃ path ∈ context.path, lineFeed ∈ path) ∧
    (style.shorten = false → style'.shorten = false →
      (style.format d = style'.format d' ↔
        knownPath context.path = knownPath context'.path ∧
        (e.span.start.line = e'.span.start.line ∧ e.span.start.column = e'.span.start.column ∧
          e.span.stop.line = e'.span.stop.line ∧ e.span.stop.column = e'.span.stop.column) ∧
        d.severityLabel = d'.severityLabel ∧ d.message = d'.message ∧ d.ruleId = d'.ruleId)) := by
  have legible := Diagnostic.isLegible_of_build known built
  have legible' := Diagnostic.isLegible_of_build known' built'
  have hname := ParseContext.name_of_build built
  have hname' := ParseContext.name_of_build built'
  rw [format, line, format, line']
  constructor
  · rw [lineFeed_mem_oneLine_iff style legible, hname, lineFeed_mem_diagnosticName_iff]
  · intro full full'
    constructor
    · intro heq
      obtain ⟨hnames, hlabel, hmessage, hruleId⟩ := oneLine_inj full full' legible legible' heq
      rw [hname, hname', diagnosticName_eq_iff] at hnames
      exact ⟨hnames.1, hnames.2, hlabel, hmessage, hruleId⟩
    · rintro ⟨hpath, hrange, hlabel, hmessage, hruleId⟩
      have hnames : d.name = d'.name := by
        rw [hname, hname', diagnosticName_eq_iff]
        exact ⟨hpath, hrange⟩
      simp only [oneLine, shown_of_not_shorten full, shown_of_not_shorten full', hnames, hlabel,
        hmessage, hruleId]

/-- Two rules with the same reason at the same place, one of them by its key, and a path that looks
like the line of a diagnostic. -/
theorem line_tells_diagnostic_of_same_reason :
    let style : Style := ⟨.line, false, true, 1, by decide⟩
    let context : ParseContext := ⟨"a", .empty, none⟩
    let context' : ParseContext := ⟨"b", .empty, some "1:1-1:1: warning: a [b]\n"⟩
    let e : Event := ⟨"openElementsLeftAfterEof", ⟨⟨1, -1, 0⟩, ⟨1, 1, 0⟩⟩⟩
    let e' : Event := ⟨"eof-before-tag-name", ⟨⟨1, -1, 7⟩, ⟨1, 1, 7⟩⟩⟩
    ∃ d d' : Diagnostic, isKnown (camelCase e.code) ∧ isKnown (camelCase e'.code) ∧
      context.build e = .ok (some d) ∧ context'.build e' = .ok (some d') ∧
      lineFeed ∉ style.format d ∧ lineFeed ∈ style.format d' ∧
      style.format d ≠ style.format d' := by
  intro style context context' e e'
  have line : style.layout = .line := rfl
  have known : isKnown (camelCase e.code) = true := by decide +kernel
  have known' : isKnown (camelCase e'.code) = true := by decide +kernel
  -- nothing is set for the rules, so they are on
  have built : context.build e = _ := ParseContext.build_eq_ok (.inr (by decide))
  have built' : context'.build e' = _ := ParseContext.build_eq_ok (.inr (by decide))
  obtain ⟨hfeed, htold⟩ := line_tells_diagnostic line line known known' built built'
  obtain ⟨hfeed', -⟩ := line_tells_diagnostic line line known' known built' built
  refine ⟨_, _, known, known', built, built', ?_, ?_, ?_⟩
  · rw [hfeed]
    exact nofun
  · rw [hfeed']
    exact ⟨_, rfl, by decide⟩
  · intro heq
    obtain ⟨hpath, -⟩ := (htold rfl rfl).1 heq
    exact absurd hpath (by decide)

end Style

end HtmlDiagnostics
