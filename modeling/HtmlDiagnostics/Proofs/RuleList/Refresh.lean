import HtmlDiagnostics.Encoding.Utf8.Lemmas
import HtmlDiagnostics.Proofs.FileTree
import HtmlDiagnostics.Proofs.RuleList.Zone
import HtmlDiagnostics.RuleList.Command

/-! # Checking and writing a document

The command brings the list in a document up to date, or only checks whether it is. Both ways look
at the text of the document, with its line ends unified, but what is at stake are its bytes. They
agree all the same: what is written is read back as the text that was written, so a text that
changes is a change of the bytes, and a document that was written is up to date from then on.

* **`Refresh.IsReadable`** — the texts that can be read from a file, and are read back from the
  bytes they are written as.
* **`Command.HasText`** — the text of a file, if it can be read.
* **`Command.Condition`**, **`Command.condition`** — the four conditions that a file can be in, with
  what the command does in each.
* **`Command.hasText_of_finished`**, **`Command.isCurrent_of_finished`** — a run that writes leaves
  the updated text, which is up to date.
* **`Command.runAll`**, **`Command.runAll_of_isCurrent`** — several runs one after the other.
* **`Command.check_and_write`** — checking and writing agree, and runs are stable. -/

namespace HtmlDiagnostics.RuleList

/-! ## Texts in files -/

namespace Refresh

/-- The text of a file has no carriage returns, as these are line ends, and no surrogates, as these
are nothing that UTF-8 can hold. -/
def IsReadable (t : Text) : Prop :=
  ∀ c ∈ t, c ≠ Newline.carriageReturn ∧ c.isSurrogate = false

instance (t : Text) : Decidable (IsReadable t) :=
  inferInstanceAs (Decidable (∀ c ∈ t, c ≠ Newline.carriageReturn ∧ c.isSurrogate = false))

/-- What is read from bytes is readable. -/
theorem isReadable_of_read {bytes : List UInt8} {t : Text} (h : read bytes = .ok t) :
    IsReadable t := by
  rw [read] at h
  cases hdecode : Utf8.decode bytes with
  | error e =>
    rw [hdecode] at h
    cases h
  | ok raw =>
    rw [hdecode] at h
    obtain rfl := Except.ok.inj h
    intro c hc
    refine ⟨fun hreturn => Newline.carriageReturn_notMem_unify raw (hreturn ▸ hc), ?_⟩
    rcases Newline.mem_of_mem_unify hc with rfl | hraw
    · decide
    · exact Utf8.isSurrogate_of_decode hdecode c hraw

/-- **A readable text is read back** from the bytes that it is written as. -/
theorem read_encode {t : Text} (h : IsReadable t) : read (Utf8.encode t) = .ok t := by
  have hdecode := Utf8.decode_encode fun c hc => (h c hc).2
  rw [read, hdecode]
  exact congrArg Except.ok (Newline.unify_eq_self fun hc => (h _ hc).1 rfl)

/-- The zone is readable. -/
theorem isReadable_content : IsReadable Zone.content := by
  have hmarkers : IsReadable (Zone.startMarker ++ Zone.endMarker) := by decide
  intro c hc
  rw [Zone.content_eq] at hc
  simp only [List.mem_append] at hc
  rcases hc with (hstart | hinner) | hend
  · exact hmarkers c (List.mem_append_left _ hstart)
  · have htame := List.all_eq_true.1 Zone.all_isTame_inner c hinner
    simp only [CodePoint.isTame, Bool.and_eq_true, decide_eq_true_eq, Bool.not_eq_true'] at htame
    exact ⟨htame.1.2, htame.2⟩
  · exact hmarkers c (List.mem_append_right _ hend)

/-- The update of a readable text is readable. -/
theorem isReadable_update {t u : Text} (h : Zone.update t = some u) (ht : IsReadable t) :
    IsReadable u := by
  obtain ⟨before, old, after, rfl, rfl⟩ := Zone.exists_of_update h
  intro c hc
  simp only [List.mem_append] at hc
  -- what is around the zone stood in the document already
  rcases hc with (hc | hc) | hc
  · exact ht c (by simp only [List.mem_append, hc, true_or])
  · exact isReadable_content c hc
  · exact ht c (by simp only [List.mem_append, hc, or_true])

end Refresh

/-! ## What the command does -/

namespace Command

/-- A file can be read, and this is its text. -/
def HasText (files : FileTree) (path : FilePath) (t : Text) : Prop :=
  ∃ bytes, files.read path = .ok bytes ∧ Refresh.read bytes = .ok t

variable {files : FileTree} {path : FilePath}

/-- A file has one text. -/
theorem HasText.unique {t u : Text} (ht : HasText files path t) (hu : HasText files path u) :
    t = u := by
  obtain ⟨bytes, hbytes, ht⟩ := ht
  obtain ⟨bytes', hbytes', hu⟩ := hu
  obtain rfl := Except.ok.inj (hbytes.symm.trans hbytes')
  exact Except.ok.inj (ht.symm.trans hu)

/-- As a file has one text, something holds of a text of it if it holds of this one. -/
theorem HasText.exists_iff {t : Text} (h : HasText files path t) {p : Text → Prop} :
    (∃ u, HasText files path u ∧ p u) ↔ p t := by
  constructor
  · rintro ⟨u, hu, hp⟩
    exact h.unique hu ▸ hp
  · intro hp
    exact ⟨t, h, hp⟩

/-- The text of a file is up to date. -/
def IsCurrent (files : FileTree) (path : FilePath) : Prop :=
  ∃ t, HasText files path t ∧ Zone.update t = some t

/-- What the command does to a file that has a text. -/
theorem refresh_of_hasText {t : Text} (h : HasText files path t) (checkOnly : Bool) :
    (refresh files path checkOnly).ending
        = .finished (Refresh.report path.label checkOnly t).status ∧
      (refresh files path checkOnly).files
        = match (Refresh.report path.label checkOnly t).content with
          | none => files
          | some bytes => files.write path bytes := by
  obtain ⟨bytes, hbytes, ht⟩ := h
  rw [refresh, hbytes]
  simp only [Refresh.run, ht]
  exact ⟨rfl, rfl⟩

/-- What the command does to a file that has no text. -/
theorem refresh_of_no_text (h : ¬∃ t, HasText files path t) (checkOnly : Bool) :
    ∃ error, refresh files path checkOnly = ⟨.failed error, [], [], files⟩ := by
  rw [refresh]
  cases hbytes : files.read path with
  | error e => exact ⟨_, rfl⟩
  | ok bytes =>
    cases ht : Refresh.read bytes with
    | error e =>
      simp only [Refresh.run, ht]
      exact ⟨_, rfl⟩
    | ok t => exact absurd ⟨t, bytes, hbytes, ht⟩ h

/-- The conditions that a file can be in, with what the command does in each. -/
inductive Condition (files : FileTree) (path : FilePath) : Prop
  /-- It is not there, or it is no text. -/
  | unreadable (text : ¬∃ t, HasText files path t)
      (run : ∀ checkOnly, ∃ error, refresh files path checkOnly = ⟨.failed error, [], [], files⟩)
  /-- It has no zone. -/
  | unmarked {t : Text} (text : HasText files path t) (zone : ¬Zone.HasZone t)
      (run : ∀ checkOnly, (refresh files path checkOnly).ending = .finished 2 ∧
        (refresh files path checkOnly).files = files)
  /-- It is up to date. -/
  | current {t : Text} (text : HasText files path t) (zone : Zone.HasZone t)
      (update : Zone.update t = some t)
      (run : ∀ checkOnly, (refresh files path checkOnly).ending = .finished 0 ∧
        (refresh files path checkOnly).files = files)
  /-- It is out of date. -/
  | stale {t u : Text} (text : HasText files path t) (zone : Zone.HasZone t)
      (update : Zone.update t = some u) (change : u ≠ t)
      (checked : (refresh files path true).ending = .finished 1 ∧
        (refresh files path true).files = files)
      (written : (refresh files path false).ending = .finished 0 ∧
        (refresh files path false).files = files.write path (Utf8.encode u))

/-- A file that is up to date is left as it is. -/
theorem refresh_of_isCurrent (h : IsCurrent files path) (checkOnly : Bool) :
    (refresh files path checkOnly).ending = .finished 0 ∧
      (refresh files path checkOnly).files = files := by
  obtain ⟨t, text, update⟩ := h
  obtain ⟨hending, hfiles⟩ := refresh_of_hasText text checkOnly
  have hreport : Refresh.report path.label checkOnly t
      = ⟨0, Refresh.line path.label "up to date", [], none⟩ := by
    rw [Refresh.report, update]
    simp only [if_true]
  rw [hreport] at hending hfiles
  exact ⟨hending, hfiles⟩

/-- **Every file is in one of the conditions.** -/
theorem condition (files : FileTree) (path : FilePath) : Condition files path := by
  by_cases htext : ∃ t, HasText files path t
  · obtain ⟨t, text⟩ := htext
    have hrefresh := refresh_of_hasText text
    cases hupdate : Zone.update t with
    | none =>
      refine .unmarked text (Zone.update_eq_none_iff.1 hupdate) fun checkOnly => ?_
      have h := hrefresh checkOnly
      rw [Refresh.report, hupdate] at h
      exact h
    | some u =>
      have zone : Zone.HasZone t := by
        refine Classical.not_not.1 fun hzone => ?_
        rw [Zone.update_eq_none_iff.2 hzone] at hupdate
        cases hupdate
      by_cases hchange : u = t
      · have update : Zone.update t = some t := hchange ▸ hupdate
        exact .current text zone update (refresh_of_isCurrent ⟨t, text, update⟩)
      · refine .stale text zone hupdate hchange ?_ ?_
        · have h := hrefresh true
          rw [Refresh.report, hupdate] at h
          simp only [if_neg hchange, if_true] at h
          exact h
        · have h := hrefresh false
          rw [Refresh.report, hupdate] at h
          simp only [if_neg hchange, Bool.false_eq_true, if_false] at h
          exact h
  · exact .unreadable htext (refresh_of_no_text htext)

/-! ## Checking and writing -/

/-- **A file that the command writes has the text that it writes.** -/
theorem hasText_write {t u : Text} (h : HasText files path t) (hupdate : Zone.update t = some u) :
    HasText (files.write path (Utf8.encode u)) path u := by
  obtain ⟨bytes, hbytes, ht⟩ := h
  have hu := Refresh.isReadable_update hupdate (Refresh.isReadable_of_read ht)
  exact ⟨Utf8.encode u, FileTree.read_write hbytes _, Refresh.read_encode hu⟩

/-- Writing another text changes the bytes. -/
theorem read_write_ne {t u : Text} (h : HasText files path t) (hupdate : Zone.update t = some u)
    (hchange : u ≠ t) : (files.write path (Utf8.encode u)).read path ≠ files.read path := by
  obtain ⟨bytes, hbytes, hu⟩ := hasText_write h hupdate
  intro hsame
  -- the same bytes would have to be read as both texts
  exact hchange (HasText.unique ⟨bytes, hsame ▸ hbytes, hu⟩ h)

/-- Checking changes nothing. -/
theorem files_refresh_of_checkOnly (files : FileTree) (path : FilePath) :
    (refresh files path true).files = files := by
  cases condition files path with
  | unreadable text run =>
    obtain ⟨error, hrun⟩ := run true
    rw [hrun]
  | unmarked text zone run => exact (run true).2
  | current text zone update run => exact (run true).2
  | stale text zone update change checked written => exact checked.2

/-- **Checking complains exactly if writing would change the bytes.** -/
theorem refresh_eq_one_iff : (refresh files path true).ending = .finished 1 ↔
    (refresh files path false).files.read path ≠ files.read path := by
  cases condition files path with
  | unreadable text run =>
    obtain ⟨error, hchecked⟩ := run true
    obtain ⟨error', hwritten⟩ := run false
    rw [hchecked, hwritten]
    exact iff_of_false nofun (not_not_intro rfl)
  | unmarked text zone run =>
    rw [(run true).1, (run false).2]
    exact iff_of_false nofun (not_not_intro rfl)
  | current text zone update run =>
    rw [(run true).1, (run false).2]
    exact iff_of_false nofun (not_not_intro rfl)
  | stale text zone update change checked written =>
    rw [checked.1, written.2]
    exact iff_of_true rfl (read_write_ne text update change)

/-- **The markers are missed exactly if there is a text without a zone.** -/
theorem refresh_eq_two_iff (checkOnly : Bool) :
    (refresh files path checkOnly).ending = .finished 2 ↔
      ∃ t, HasText files path t ∧ ¬Zone.HasZone t := by
  cases condition files path with
  | unreadable text run =>
    obtain ⟨error, hrun⟩ := run checkOnly
    rw [hrun]
    refine iff_of_false nofun ?_
    rintro ⟨t, ht, -⟩
    exact text ⟨t, ht⟩
  | unmarked text zone run =>
    rw [(run checkOnly).1, text.exists_iff]
    exact iff_of_true rfl zone
  | current text zone update run =>
    rw [(run checkOnly).1, text.exists_iff]
    exact iff_of_false nofun (not_not_intro zone)
  | stale text zone update change checked written =>
    rw [text.exists_iff]
    refine iff_of_false ?_ (not_not_intro zone)
    cases checkOnly with
    | true =>
      rw [checked.1]
      exact nofun
    | false =>
      rw [written.1]
      exact nofun

/-- **Writing ends well exactly if there is a text with a zone.** -/
theorem refresh_eq_zero_iff : (refresh files path false).ending = .finished 0 ↔
    ∃ t, HasText files path t ∧ Zone.HasZone t := by
  cases condition files path with
  | unreadable text run =>
    obtain ⟨error, hrun⟩ := run false
    rw [hrun]
    refine iff_of_false nofun ?_
    rintro ⟨t, ht, -⟩
    exact text ⟨t, ht⟩
  | unmarked text zone run =>
    rw [(run false).1, text.exists_iff]
    exact iff_of_false nofun zone
  | current text zone update run =>
    rw [(run false).1, text.exists_iff]
    exact iff_of_true rfl zone
  | stale text zone update change checked written =>
    rw [written.1, text.exists_iff]
    exact iff_of_true rfl zone

/-- **The command fails exactly if there is no text.** -/
theorem refresh_eq_failed_iff (checkOnly : Bool) :
    (∃ error, (refresh files path checkOnly).ending = .failed error) ↔
      ¬∃ t, HasText files path t := by
  constructor
  · rintro ⟨error, hfailed⟩ ⟨t, text⟩
    rw [(refresh_of_hasText text checkOnly).1] at hfailed
    cases hfailed
  · intro hnone
    obtain ⟨error, hrun⟩ := refresh_of_no_text hnone checkOnly
    exact ⟨error, by rw [hrun]⟩

/-- **A run that writes and ends well leaves the updated text** in the file. -/
theorem hasText_of_finished (h : (refresh files path false).ending = .finished 0) :
    ∃ t u, HasText files path t ∧ Zone.update t = some u ∧
      HasText (refresh files path false).files path u := by
  cases condition files path with
  | unreadable text run =>
    obtain ⟨error, hrun⟩ := run false
    rw [hrun] at h
    cases h
  | unmarked text zone run =>
    rw [(run false).1] at h
    cases h
  | current text zone update run =>
    rw [(run false).2]
    exact ⟨_, _, text, update, text⟩
  | stale text zone update change checked written =>
    rw [written.2]
    exact ⟨_, _, text, update, hasText_write text update⟩

/-- So the file is up to date then, because a second update changes nothing. -/
theorem isCurrent_of_finished (h : (refresh files path false).ending = .finished 0) :
    IsCurrent (refresh files path false).files path := by
  obtain ⟨t, u, -, hupdate, hu⟩ := hasText_of_finished h
  exact ⟨u, hu, Zone.update_update hupdate⟩

/-! ## Several runs -/

/-- What comes of several runs with their arguments, each on the files that the one before it
leaves. -/
def runAll (files : FileTree) : List (List Text) → List Outcome
  | [] => []
  | arguments :: rest => run files arguments :: runAll (run files arguments).files rest

/-- Some arguments ask for a document to be brought up to date, or to be checked. -/
def IsAimedAt (path : Text) (arguments : List Text) : Prop :=
  ∃ checkOnly, Request.ofArguments arguments = .ok (.refresh path checkOnly)

/-- What the command does with arguments that ask for a document. -/
theorem run_of_ofArguments {arguments : List Text} {path : Text} {checkOnly : Bool}
    (h : Request.ofArguments arguments = .ok (.refresh path checkOnly)) (files : FileTree) :
    run files arguments = refresh files (.ofText path) checkOnly := by
  rw [run, h]

/-- **Runs on a document that is up to date** end well, and leave all files as they are. -/
theorem runAll_of_isCurrent {path : Text} (h : IsCurrent files (.ofText path))
    {further : List (List Text)} (haim : ∀ arguments ∈ further, IsAimedAt path arguments) :
    ∀ outcome ∈ runAll files further, outcome.ending = .finished 0 ∧ outcome.files = files := by
  induction further with
  | nil => nofun
  | cons arguments rest ih =>
    obtain ⟨checkOnly, hrequest⟩ := haim arguments List.mem_cons_self
    obtain ⟨hending, hfiles⟩ := refresh_of_isCurrent h checkOnly
    -- the first run leaves the files as they are, so the others start from the same files
    rw [runAll, run_of_ofArguments hrequest, hfiles]
    intro outcome houtcome
    rcases List.mem_cons.1 houtcome with rfl | hrest
    · exact ⟨hending, hfiles⟩
    · exact ih (fun a ha => haim a (List.mem_cons_of_mem arguments ha)) outcome hrest

/-- **Runs that do not end well change nothing**, whatever their arguments are. -/
theorem files_run_of_ending_ne {arguments : List Text}
    (h : (run files arguments).ending ≠ .finished 0) : (run files arguments).files = files := by
  cases hrequest : Request.ofArguments arguments with
  | error e => rw [run, hrequest]
  | ok request =>
    cases request with
    | help => rw [run, hrequest]
    | refresh path checkOnly =>
      rw [run_of_ofArguments hrequest] at h ⊢
      cases condition files (.ofText path) with
      | unreadable text run =>
        obtain ⟨error, hrun⟩ := run checkOnly
        rw [hrun]
      | unmarked text zone run => exact (run checkOnly).2
      | current text zone update run => exact (run checkOnly).2
      | stale text zone update change checked written =>
        -- the only run that changes anything is one that writes, and that ends well
        cases checkOnly with
        | true => exact checked.2
        | false => exact absurd written.1 h

/-- **Checking and writing agree, and runs are stable.** Checking a document changes nothing. It
complains exactly if writing would change the bytes of the document. Both miss the markers exactly
if there is a text without a zone, and both fail exactly if there is no text. No run that does not
end well changes anything. Writing ends well exactly if there is a text with a zone. Then the
document has the updated text, and all further runs on it end well and leave all files as they
are. -/
theorem check_and_write {path : Text} {checking writing : List Text}
    (hchecking : Request.ofArguments checking = .ok (.refresh path true))
    (hwriting : Request.ofArguments writing = .ok (.refresh path false)) (files : FileTree) :
    let target := FilePath.ofText path
    let checked := run files checking
    let written := run files writing
    checked.files = files ∧
    (checked.ending = .finished 1 ↔ written.files.read target ≠ files.read target) ∧
    (∀ outcome ∈ [checked, written],
      (outcome.ending = .finished 2 ↔ ∃ t, HasText files target t ∧ ¬Zone.HasZone t) ∧
      ((∃ error, outcome.ending = .failed error) ↔ ¬∃ t, HasText files target t)) ∧
    (∀ arguments, (run files arguments).ending ≠ .finished 0 →
      (run files arguments).files = files) ∧
    (written.ending = .finished 0 ↔ ∃ t, HasText files target t ∧ Zone.HasZone t) ∧
    (written.ending = .finished 0 →
      (∃ t u, HasText files target t ∧ Zone.update t = some u ∧ HasText written.files target u) ∧
      ∀ further, (∀ arguments ∈ further, IsAimedAt path arguments) →
        ∀ outcome ∈ runAll written.files further,
          outcome.ending = .finished 0 ∧ outcome.files = written.files) := by
  intro target checked written
  have hchecked : checked = refresh files target true := run_of_ofArguments hchecking files
  have hwritten : written = refresh files target false := run_of_ofArguments hwriting files
  refine ⟨?_, ?_, ?_, fun arguments => files_run_of_ending_ne, ?_, ?_⟩
  · rw [hchecked]
    exact files_refresh_of_checkOnly files target
  · rw [hchecked, hwritten]
    exact refresh_eq_one_iff
  · intro outcome houtcome
    obtain ⟨checkOnly, hrefresh⟩ : ∃ checkOnly, outcome = refresh files target checkOnly := by
      rcases List.mem_cons.1 houtcome with rfl | htail
      · exact ⟨true, hchecked⟩
      · exact ⟨false, (List.mem_singleton.1 htail).trans hwritten⟩
    rw [hrefresh]
    exact ⟨refresh_eq_two_iff checkOnly, refresh_eq_failed_iff checkOnly⟩
  · rw [hwritten]
    exact refresh_eq_zero_iff
  · intro hfinished
    rw [hwritten] at hfinished ⊢
    exact ⟨hasText_of_finished hfinished,
      fun _ haim => runAll_of_isCurrent (isCurrent_of_finished hfinished) haim⟩

/-- A document with both markers and nothing else is written, and after that it is up to date. -/
theorem check_and_write_of_markers :
    let document := Zone.startMarker ++ Zone.endMarker
    let files := FileTree.ofList [("README.md", Utf8.encode document)]
    let written := run files []
    written.ending = .finished 0 ∧
      ∀ outcome ∈ runAll written.files [["--check"], []],
        outcome.ending = .finished 0 ∧ outcome.files = written.files := by
  intro document files written
  have hwriting : Request.ofArguments [] = .ok (.refresh "README.md" false) := rfl
  have hchecking : Request.ofArguments ["--check"] = .ok (.refresh "README.md" true) := rfl
  have htext : HasText files (.ofText "README.md") document :=
    ⟨Utf8.encode document, by rfl, Refresh.read_encode (by decide)⟩
  obtain ⟨-, -, -, -, hzone, hstable⟩ := check_and_write hchecking hwriting files
  have hfinished : written.ending = .finished 0 :=
    hzone.2 ⟨document, htext, [], [], [], by decide⟩
  refine ⟨hfinished, (hstable hfinished).2 [["--check"], []] ?_⟩
  simp only [List.forall_mem_cons, List.not_mem_nil, false_implies, implies_true, and_true]
  exact ⟨⟨true, hchecking⟩, ⟨false, hwriting⟩⟩

end Command

end HtmlDiagnostics.RuleList
