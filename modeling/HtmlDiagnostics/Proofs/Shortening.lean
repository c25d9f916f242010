import HtmlDiagnostics.Proofs.Message

/-! # Shortening texts and showing diagnostics

A style that shortens cuts the long texts of a diagnostic wherever it shows them. That is the same
as cutting them first and showing the diagnostic in full, in every layout: nothing else that is
shown depends on how long a text is, and a text that was cut is not cut again although it is longer
than the limit.

* **`truncate_truncate`**, **`length_truncate_le`** — cutting twice, and how much is left.
* **`Style.format_abridged`** — showing a diagnostic is showing its abridged form in full.
* **`Style.abridged_abridged`** — an abridged diagnostic stays what it is.
* **`Layout.ShowsWhole`** — the fields that a layout shows and that are never cut.
* **`Style.shortening_commutes`** — a style that shortens, and one that does not. -/

namespace HtmlDiagnostics

/-! ## Texts that are cut -/

variable {limit : Nat} {t : Text}

/-- A text within the limit stays. -/
theorem truncate_of_le (h : t.length ≤ limit) : truncate limit t = t := by
  simp [truncate, Nat.not_lt.2 h]

/-- A longer text becomes its start and three dots. -/
theorem truncate_of_lt (h : limit < t.length) : truncate limit t = t.take limit ++ "..." := by
  simp [truncate, h]

/-- What is cut has three code points more than the limit allows, at most. -/
theorem length_truncate_le (limit : Nat) (t : Text) : (truncate limit t).length ≤ limit + 3 := by
  by_cases h : limit < t.length
  · have hdots : ("..." : Text).length = 3 := by decide
    rw [truncate_of_lt h, List.length_append, hdots, List.length_take]
    omega
  · rw [truncate_of_le (Nat.le_of_not_lt h)]
    omega

/-- **A text that was cut is not cut again**: what comes before the dots is as long as the limit
allows, so cutting in front of them and putting them there again gives the same. -/
theorem truncate_truncate (limit : Nat) (t : Text) :
    truncate limit (truncate limit t) = truncate limit t := by
  by_cases h : limit < t.length
  · have hlength : (t.take limit).length = limit := List.length_take_of_le (Nat.le_of_lt h)
    have hdots : 0 < ("..." : Text).length := by decide
    have hlonger : limit < (t.take limit ++ ("..." : Text)).length := by
      rw [List.length_append, hlength]
      omega
    rw [truncate_of_lt h, truncate_of_lt hlonger, List.take_left' hlength]
  · have hle := Nat.le_of_not_lt h
    rw [truncate_of_le hle, truncate_of_le hle]

/-- Cutting leaves something of a text exactly if there is something. -/
theorem truncate_eq_nil_iff : truncate limit t = [] ↔ t = [] := by
  by_cases h : limit < t.length
  · have hne : t ≠ [] := List.ne_nil_of_length_pos (Nat.zero_lt_of_lt h)
    have hdots : ("..." : Text) ≠ [] := by decide
    simp [truncate_of_lt h, hne, hdots]
  · rw [truncate_of_le (Nat.le_of_not_lt h)]

namespace Style

/-! ## Abridged diagnostics -/

variable {style full : Style} {d : Diagnostic}

/-- A text as a style shows it is shown as it is from then on. -/
theorem shown_shown (style : Style) (t : Text) : style.shown (style.shown t) = style.shown t := by
  unfold shown
  split
  · exact truncate_truncate style.limit t
  · rfl

/-- A text that is shown is empty exactly if it was. -/
theorem shown_eq_nil_iff (style : Style) : style.shown t = [] ↔ t = [] := by
  unfold shown
  split
  · exact truncate_eq_nil_iff
  · rfl

/-- An abridged diagnostic is abridged to itself. -/
theorem abridged_abridged (style : Style) (d : Diagnostic) :
    style.abridged (style.abridged d) = style.abridged d := by
  simp only [abridged, shown_shown]

/-- A style that does not shorten shows texts as they are. -/
theorem shown_of_not_shorten (h : full.shorten = false) (t : Text) : full.shown t = t := by
  simp [shown, h]

/-- The lines of a diagnostic are those of its abridged form in full. Whether there is a note line
is decided by the whole note, and by what is left of it in the same way. -/
theorem reportLines_abridged (hfull : full.shorten = false) (hcolor : full.color = style.color)
    (d : Diagnostic) : style.reportLines d = full.reportLines (style.abridged d) := by
  have hword : style.severityWord d = full.severityWord (style.abridged d) := by
    simp only [severityWord, hcolor]
    rfl
  have hnote : d.note.isEmpty = (style.abridged d).note.isEmpty := by
    rw [Bool.eq_iff_iff, List.isEmpty_iff, List.isEmpty_iff]
    exact (style.shown_eq_nil_iff).symm
  simp only [reportLines, hword, hnote, shown_of_not_shorten hfull]
  rfl

/-- **Showing a diagnostic is showing its abridged form in full**, in every layout. -/
theorem format_abridged (hfull : full.shorten = false) (hcolor : full.color = style.color)
    (hlayout : full.layout = style.layout) (d : Diagnostic) :
    style.format d = full.format (style.abridged d) := by
  cases hstyle : style.layout with
  | report =>
    rw [format, format, hlayout, hstyle]
    show Text.joinWith "\n" _ = Text.joinWith "\n" _
    rw [reportLines_abridged hfull hcolor]
  | line =>
    rw [format, format, hlayout, hstyle]
    show style.oneLine d = full.oneLine (style.abridged d)
    simp only [oneLine, shown_of_not_shorten hfull]
    rfl
  | json =>
    rw [format_of_json hstyle, format_of_json (hlayout.trans hstyle),
      abridged_of_not_shorten hfull]

end Style

/-! ## What is never cut -/

/-- The fields that a layout shows whole, however long they are: the code and the name of a
diagnostic, its link in the layout with several lines, and in the layout for programs every member
of the message but the three long texts. -/
def Layout.ShowsWhole (layout : Layout) (d : Diagnostic) (shown : Text) : Prop :=
  match layout with
  | .report => d.ruleId <:+: shown ∧ d.name <:+: shown ∧ Style.link d <:+: shown
  | .line => d.ruleId <:+: shown ∧ d.name <:+: shown
  | .json => ∃ members, Json.read? shown = some (.object members) ∧
      ∀ member : Text × Json, member.1 ∉ Style.longMembers →
        (member ∈ members ↔ member ∈ d.members)

/-- Every piece of a joined text stands in it. -/
theorem Text.infix_joinWith {separator piece : Text} {pieces : List Text} (h : piece ∈ pieces) :
    piece <:+: Text.joinWith separator pieces := by
  induction pieces with
  | nil => simp at h
  | cons first rest ih =>
    cases rest with
    | nil => simp_all
    | cons second rest =>
      rw [Text.joinWith_cons_cons]
      rcases List.mem_cons.1 h with rfl | hrest
      · rw [List.append_assoc]
        exact (List.prefix_append _ _).isInfix
      · exact (ih hrest).trans (List.suffix_append _ _).isInfix

namespace Style

/-- In a report, code, name and link stand whole. -/
theorem infix_report (style : Style) (d : Diagnostic) :
    d.ruleId <:+: Text.joinWith "\n" (style.reportLines d) ∧
      d.name <:+: Text.joinWith "\n" (style.reportLines d) ∧
      link d <:+: Text.joinWith "\n" (style.reportLines d) := by
  -- every one of them stands in a line of its own
  have hline : ∀ front field back : Text, front ++ field ++ back ∈ style.reportLines d →
      field <:+: Text.joinWith "\n" (style.reportLines d) :=
    fun front field back hmem =>
      (List.infix_append front field back).trans (Text.infix_joinWith hmem)
  refine ⟨?_, ?_, ?_⟩
  · apply hline (style.severityWord d ++ "[") d.ruleId ("]: " ++ style.shown d.message)
    simp [reportLines]
  · apply hline "  --> " d.name []
    simp [reportLines]
  · by_cases hlink : link d = []
    · rw [hlink]
      exact List.nil_infix
    · apply hline "  = help: see " (link d) []
      simp [reportLines, lineUnless, hlink]

/-- On one line, code and name stand whole. -/
theorem infix_oneLine (style : Style) (d : Diagnostic) :
    d.ruleId <:+: style.oneLine d ∧ d.name <:+: style.oneLine d := by
  constructor
  · refine ⟨d.name ++ ": " ++ d.severityLabel ++ ": " ++ style.shown d.message ++ " [", "]", ?_⟩
    simp [oneLine]
  · refine ⟨[], ": " ++ d.severityLabel ++ ": " ++ style.shown d.message ++ " [" ++ d.ruleId ++ "]",
      ?_⟩
    simp [oneLine]

/-- A member of the abridged message that holds no long text is one of the message. -/
theorem mem_members_abridged (style : Style) {member : Text × Json}
    (h : member.1 ∉ longMembers) : member ∈ (style.abridged d).members ↔ member ∈ d.members := by
  rw [members_abridged, List.mem_map]
  constructor
  · rintro ⟨original, hmem, rfl⟩
    rw [fst_shownMember] at h
    rwa [shownMember_of_notMem h]
  · intro hmem
    exact ⟨member, hmem, shownMember_of_notMem h member.2⟩

/-- **No style cuts a field that a layout shows whole.** -/
theorem showsWhole_format (style : Style) (d : Diagnostic) :
    style.layout.ShowsWhole d (style.format d) := by
  cases hlayout : style.layout with
  | report =>
    rw [format, hlayout]
    exact style.infix_report d
  | line =>
    rw [format, hlayout]
    exact style.infix_oneLine d
  | json =>
    refine ⟨(style.abridged d).members, ?_, fun member h => style.mem_members_abridged h⟩
    rw [format_of_json hlayout]
    exact Json.read?_render _

/-- **A style that shortens shows what a style in full shows of the shortened diagnostic.** Take a
diagnostic and cut its message, its reason and its note: a text within the limit stays, and a longer
one becomes its start and three dots. In every layout, in colour or not, showing the diagnostic and
shortening is showing what was cut in full, line by line in a report, where cutting leaves a note
line and a link line exactly if there were some. Cutting twice is cutting once and leaves at most
three code points more than the limit, no other field is ever cut, and shortening does nothing more
to the diagnostic that was cut. -/
theorem shortening_commutes (style : Style) (d : Diagnostic) :
    let shortening : Style := { style with shorten := true }
    let full : Style := { style with shorten := false }
    let cut (t : Text) : Text :=
      if t.length ≤ style.limit then t else t.take style.limit ++ "..."
    let short : Diagnostic :=
      { d with message := cut d.message, reason := cut d.reason, note := cut d.note }
    shortening.format d = full.format short ∧
      (shortening.reportLines d = full.reportLines short ∧
        (short.note = [] ↔ d.note = []) ∧ link short = link d) ∧
      (∀ t, cut (cut t) = cut t ∧ (cut t).length ≤ style.limit + 3) ∧
      style.layout.ShowsWhole d (shortening.format d) ∧
      shortening.format short = shortening.format d := by
  intro shortening full cut short
  have hcut : cut = truncate style.limit := by
    funext t
    by_cases h : t.length ≤ style.limit
    · exact (if_pos h).trans (truncate_of_le h).symm
    · exact (if_neg h).trans (truncate_of_lt (Nat.lt_of_not_le h)).symm
  have hshort : short = shortening.abridged d := by
    simp only [short, hcut]
    rfl
  have hfull : full.shorten = false := rfl
  have hcolor : full.color = shortening.color := rfl
  have hformat : ∀ e, shortening.format e = full.format (shortening.abridged e) :=
    format_abridged hfull hcolor rfl
  refine ⟨?_, ⟨?_, ?_, rfl⟩, ?_, showsWhole_format shortening d, ?_⟩
  · rw [hshort, hformat]
  · rw [hshort]
    exact reportLines_abridged hfull hcolor d
  · rw [hshort]
    exact shortening.shown_eq_nil_iff
  · intro t
    rw [hcut]
    exact ⟨truncate_truncate style.limit t, length_truncate_le style.limit t⟩
  · rw [hshort, hformat, hformat, abridged_abridged]

end Style

end HtmlDiagnostics
