import HtmlDiagnostics.Diagnostic.Layout
import HtmlDiagnostics.Proofs.Json.Rendering

/-! # The message for programs can be read back

A diagnostic and its message determine each other, so nothing is lost on the way to a program and
back, whatever the fields hold.

* **`Diagnostic.toJson_injective`** — the message tells all fields.
* **`Diagnostic.names`** — the names of the members of a message.
* **`Diagnostic.file_mem_names_iff`** — there is a `file` member exactly if there is a file.
* **`Style.members_abridged`** — the message of a diagnostic with its long texts cut is its message
  with the long members cut.
* **`Style.json_lossless`** — what the layout for programs writes is that message and no other, and
  without shortening it tells the diagnostic. -/

namespace HtmlDiagnostics

/-! ## Messages and their fields -/

/-- A place can be told from its object. -/
theorem Point.toJson_injective {p q : Point} (h : p.toJson = q.toJson) : p = q := by
  obtain ⟨line, column, offset⟩ := p
  obtain ⟨line', column', offset'⟩ := q
  simp only [toJson, Json.object.injEq, List.cons.injEq, Prod.mk.injEq, Json.integer.injEq,
    true_and, and_true] at h
  obtain ⟨rfl, rfl, rfl⟩ := h
  rfl

/-- A range can be told from its object. -/
theorem Span.toJson_injective {s t : Span} (h : s.toJson = t.toJson) : s = t := by
  obtain ⟨start, stop⟩ := s
  obtain ⟨start', stop'⟩ := t
  simp only [toJson, Json.object.injEq, List.cons.injEq, Prod.mk.injEq, true_and, and_true] at h
  obtain ⟨hstart, hstop⟩ := h
  rw [Point.toJson_injective hstart, Point.toJson_injective hstop]

namespace Diagnostic

/-- An absent text is told from every text, also the empty one. -/
theorem textOrNull_injective {t u : Option Text} (h : textOrNull t = textOrNull u) : t = u := by
  cases t <;> cases u <;> simp_all [textOrNull]

/-- An absent truth value is told from both truth values. -/
theorem boolOrNull_injective {b c : Option Bool} (h : boolOrNull b = boolOrNull c) : b = c := by
  cases b <;> cases c <;> simp_all [boolOrNull]

/-- An absent file is told from every file. -/
theorem fileMember_injective {f g : Option Text} (h : fileMember f = fileMember g) : f = g := by
  cases f <;> cases g <;> simp_all [fileMember]

/-- **The message tells all fields of the diagnostic.** -/
theorem toJson_injective {d e : Diagnostic} (h : d.toJson = e.toJson) : d = e := by
  have hmembers : d.membersBeforeFile ++ fileMember d.file ++ d.membersAfterFile
      = e.membersBeforeFile ++ fileMember e.file ++ e.membersAfterFile := Json.object.inj h
  -- The members around the file are as many in every message, so the two messages match part by
  -- part.
  obtain ⟨hfront, hafter⟩ := List.append_inj' hmembers rfl
  obtain ⟨hbefore, hfile⟩ := List.append_inj hfront rfl
  have hfile := fileMember_injective hfile
  simp only [membersBeforeFile, List.cons.injEq, Prod.mk.injEq, Json.text.injEq,
    Json.integer.injEq, true_and, and_true] at hbefore
  simp only [membersAfterFile, List.cons.injEq, Prod.mk.injEq, Json.text.injEq, true_and,
    and_true] at hafter
  obtain ⟨hname, hmessage, hreason, hline, hcolumn, hsource, hrule, hposition⟩ := hbefore
  obtain ⟨hfatal, hnote, hurl⟩ := hafter
  have hsource := textOrNull_injective hsource
  have hposition := Span.toJson_injective hposition
  have hfatal := boolOrNull_injective hfatal
  have hurl := textOrNull_injective hurl
  cases d
  cases e
  simp_all only

/-- The names of the members of a message, in order. -/
def names (d : Diagnostic) : List Text := d.members.map Prod.fst

/-- Without a file, a message has eleven members. -/
theorem names_of_file_eq_none {d : Diagnostic} (h : d.file = none) :
    d.names = (["name", "message", "reason", "line", "column", "source", "ruleId", "position",
      "fatal", "note", "url"] : List Text) := by
  unfold names members
  rw [h]
  rfl

/-- With a file, it has one more. -/
theorem names_of_file_eq_some {d : Diagnostic} {path : Text} (h : d.file = some path) :
    d.names = (["name", "message", "reason", "line", "column", "source", "ruleId", "position",
      "file", "fatal", "note", "url"] : List Text) := by
  unfold names members
  rw [h]
  rfl

/-- No two members of a message have the same name. -/
theorem nodup_names (d : Diagnostic) : d.names.Nodup := by
  rcases hfile : d.file with _ | path
  · rw [names_of_file_eq_none hfile]
    decide
  · rw [names_of_file_eq_some hfile]
    decide

/-- A message has a `file` member exactly if there is a file. -/
theorem file_mem_names_iff (d : Diagnostic) : Text.ofString "file" ∈ d.names ↔ d.file ≠ none := by
  rcases hfile : d.file with _ | path
  · rw [names_of_file_eq_none hfile]
    decide
  · rw [names_of_file_eq_some hfile]
    constructor
    · intro _
      exact Option.some_ne_none path
    · intro _
      decide

end Diagnostic

/-! ## The layout for programs -/

namespace Style

/-- A diagnostic whose long texts are shown as the style shows them. -/
def abridged (style : Style) (d : Diagnostic) : Diagnostic :=
  { d with
    message := style.shown d.message
    reason := style.shown d.reason
    note := style.shown d.note }

section Members

variable {style : Style}

theorem shownMember_of_mem {name : Text} (h : name ∈ longMembers) (t : Text) :
    style.shownMember (name, .text t) = (name, .text (style.shown t)) :=
  if_pos (List.contains_iff_mem.2 h)

theorem shownMember_of_notMem {name : Text} (h : name ∉ longMembers) (value : Json) :
    style.shownMember (name, value) = (name, value) :=
  if_neg (mt List.contains_iff_mem.1 h)

/-- A member keeps its name. -/
theorem fst_shownMember (style : Style) (member : Text × Json) :
    (style.shownMember member).1 = member.1 := by
  unfold shownMember
  split <;> rfl

/-- **The message of an abridged diagnostic** is the message of the diagnostic with the long texts
cut where they stand. -/
theorem members_abridged (style : Style) (d : Diagnostic) :
    (style.abridged d).members = d.members.map style.shownMember := by
  have hfile : (Diagnostic.fileMember d.file).map style.shownMember
      = Diagnostic.fileMember d.file := by
    cases d.file with
    | none => rfl
    | some path =>
      rw [Diagnostic.fileMember, List.map_singleton, shownMember_of_notMem (by decide)]
  simp (disch := decide) only [Diagnostic.members, List.map_append, hfile,
    Diagnostic.membersBeforeFile, Diagnostic.membersAfterFile, List.map_cons, List.map_nil,
    shownMember_of_mem, shownMember_of_notMem]
  rfl

end Members

/-- The layout for programs writes the message of the diagnostic as it is shown. -/
theorem format_of_json {style : Style} (json : style.layout = .json) (d : Diagnostic) :
    style.format d = (style.abridged d).toJson.render := by
  rw [format, json, Diagnostic.toJson, members_abridged]

/-- Without shortening, a diagnostic is shown with all it has. -/
theorem abridged_of_not_shorten {style : Style} (h : style.shorten = false) (d : Diagnostic) :
    style.abridged d = d := by
  simp only [abridged, shown, h, Bool.false_eq_true, if_false]

/-- **The layout for programs loses nothing.** What it writes is one JSON object, spells no other
value, holds no control, and is read back as the message of the diagnostic with its three long texts
shortened if the style shortens. No name stands twice in it, and `file` stands in it exactly if
there is a file. Without shortening, diagnostics that are written alike are equal. -/
theorem json_lossless {style : Style} (json : style.layout = .json) (d : Diagnostic) :
    let cut (t : Text) : Text := if style.shorten then truncate style.limit t else t
    let shown : Diagnostic :=
      { d with message := cut d.message, reason := cut d.reason, note := cut d.note }
    Json.Spelled (.value (.object shown.members)) (style.format d)
      ∧ (∀ v : Json, v.IsText (style.format d) ↔ v = shown.toJson)
      ∧ Json.read? (style.format d) = some shown.toJson
      ∧ (∀ c ∈ style.format d, 0x20 ≤ c.val)
      ∧ shown.names.Nodup
      ∧ (Text.ofString "file" ∈ shown.names ↔ d.file ≠ none)
      ∧ (style.shorten = false → ∀ (other : Style) (e : Diagnostic), other.layout = .json →
          other.shorten = false → style.format d = other.format e → d = e) := by
  intro cut shown
  have hformat : style.format d = shown.toJson.render := format_of_json json d
  refine ⟨?_, ?_, ?_, ?_, shown.nodup_names, shown.file_mem_names_iff, ?_⟩
  · rw [hformat]
    exact Json.spelled_render shown.toJson
  · intro v
    rw [hformat]
    exact Json.isText_render_iff
  · rw [hformat]
    exact Json.read?_render shown.toJson
  · rw [hformat]
    exact Json.noControl_render shown.toJson
  · intro hlong other e hother hlong' hsame
    rw [format_of_json json, format_of_json hother, abridged_of_not_shorten hlong,
      abridged_of_not_shorten hlong'] at hsame
    exact Diagnostic.toJson_injective (Json.render_injective hsame)

/-- A message that is cut behind a quote, a note of two surrogates that make a pair, an empty file
and a negative line are read back as they are. -/
theorem json_lossless_of_pair :
    let high : CodePoint := ⟨0xD83D, by decide⟩
    let low : CodePoint := ⟨0xDE00, by decide⟩
    let style : Style := ⟨.json, true, false, 2, by decide⟩
    let place : Point := ⟨-7, 0, 12⟩
    let d : Diagnostic :=
      { ruleId := "x", message := "\x01\"\\", reason := "", note := [high, low], name := "\n",
        line := -7, column := 0, position := ⟨place, place⟩, fatal := none, source := none,
        url := none, file := some "" }
    style.layout = .json
      ∧ Json.read? (style.format d) = some { d with message := "\x01\"..." }.toJson := by
  intro high low style place d
  exact ⟨rfl, (json_lossless rfl d).2.2.1⟩

end Style

end HtmlDiagnostics
