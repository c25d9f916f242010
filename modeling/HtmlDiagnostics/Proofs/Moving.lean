import HtmlDiagnostics.Input
import Mathlib.Data.List.DropRight

/-! # Moving files between directories

A path is a part that ends with a slash, or is empty, and a name without slashes. Putting a name
into a directory gives such a path, so a move exchanges the first part and leaves the second, and of
several moves only the last one counts.

* **`Path.IsOpen`**, **`Path.opened`** — texts that a name is put behind as it is.
* **`Path.base_join`**, **`Path.directory_join`** — the two parts of a name in a directory.
* **`Path.exists_trimTrailing`** — a directory without the slashes at its end.
* **`InputFile.attempt`**, **`InputFile.after`** — one move and several, which may fail.
* **`InputFile.attempt_after`** — a move forgets the moves before it.
* **`InputFile.moves_change_directory`** — a move changes the directory and nothing else. -/

namespace HtmlDiagnostics

namespace Path

variable {d name t : Text}

/-! ## The two parts of a path -/

/-- A text that a name is put behind as it is: it is empty or ends with a slash. -/
def IsOpen (t : Text) : Prop := t = [] ∨ t.getLast? = some slash

instance (t : Text) : Decidable (IsOpen t) := inferInstanceAs (Decidable (_ ∨ _))

/-- There is no slash in a base. -/
theorem slash_notMem_base (path : Text) : slash ∉ base path := by
  intro h
  have hne := List.mem_rtakeWhile_imp h
  simp at hne

/-- A text that is open is cut off in front of a name. -/
theorem head_append (ht : IsOpen t) (hname : slash ∉ name) : head (t ++ name) = t := by
  show List.rdropWhile (· != slash) (t ++ name) = t
  induction name using List.reverseRecOn with
  | nil =>
    rw [List.append_nil, List.rdropWhile_eq_self_iff]
    intro hne
    obtain rfl | hlast := ht
    · exact absurd rfl hne
    · rw [List.getLast?_eq_some_getLast hne, Option.some.injEq] at hlast
      simp [hlast]
  | append_singleton name c ih =>
    simp only [List.mem_append, List.mem_singleton, not_or] at hname
    rw [← List.append_assoc, List.rdropWhile_concat_pos _ _ _ (by simpa using Ne.symm hname.2)]
    exact ih hname.1

/-- So the name is the base. -/
theorem base_append (ht : IsOpen t) (hname : slash ∉ name) : base (t ++ name) = name := by
  have hparts := head_append_base (t ++ name)
  rw [head_append ht hname] at hparts
  exact List.append_cancel_left hparts

/-! ## A name in a directory -/

/-- A directory as it stands in front of a name: with a slash at its end, unless it is empty. -/
def opened (d : Text) : Text := if IsOpen d then d else d ++ [slash]

theorem isOpen_opened (d : Text) : IsOpen (opened d) := by
  unfold opened
  split
  · assumption
  · exact .inr List.getLast?_concat

/-- A name in a directory stands behind it. -/
theorem join_eq (d name : Text) : join d name = opened d ++ name := by
  have hopen : (d.isEmpty || d.getLast? == some slash) = true ↔ IsOpen d := by simp [IsOpen]
  by_cases h : IsOpen d
  · rw [join, if_pos (hopen.2 h), opened, if_pos h]
  · rw [join, if_neg (mt hopen.1 h), opened, if_neg h]
    simp

/-- **The base of a name in a directory** is the name. -/
theorem base_join (d : Text) (hname : slash ∉ name) : base (join d name) = name := by
  rw [join_eq, base_append (isOpen_opened d) hname]

/-! ## Directories without the slashes at their end -/

/-- What is left without the slashes at the end does not end with one. -/
theorem getLast?_trimSlashes_ne (t : Text) : (trimSlashes t).getLast? ≠ some slash := by
  intro h
  have hne : trimSlashes t ≠ [] := by
    rintro hnil
    simp [hnil] at h
  have hlast := List.rdropWhile_last_not (· == slash) t hne
  rw [List.getLast?_eq_some_getLast hne, Option.some.injEq] at h
  exact hlast (beq_iff_eq.2 h)

/-- What does not end with a slash is all left. -/
theorem trimSlashes_eq_self (h : t.getLast? ≠ some slash) : trimSlashes t = t := by
  apply List.rdropWhile_eq_self_iff.2
  intro hne hlast
  rw [List.getLast?_eq_some_getLast hne, beq_iff_eq.1 hlast] at h
  exact h rfl

/-- **A directory without the slashes at its end**: they are taken off, unless nothing else is
there. -/
theorem exists_trimTrailing (d : Text) : ∃ front count,
    d = front ++ List.replicate count slash ∧ front.getLast? ≠ some slash ∧
      trimTrailing d = if front = [] then d else front := by
  refine ⟨trimSlashes d, (d.rtakeWhile (· == slash)).length, ?_, getLast?_trimSlashes_ne d, ?_⟩
  · have hslashes : d.rtakeWhile (· == slash)
        = List.replicate (d.rtakeWhile (· == slash)).length slash :=
      List.eq_replicate_of_mem fun c hc => by simpa using List.mem_rtakeWhile_imp hc
    rw [← hslashes]
    exact (List.rdropWhile_append_rtakeWhile).symm
  · simp only [trimTrailing, List.isEmpty_iff]

/-- Taking the slashes off again takes off no more. -/
theorem trimTrailing_trimTrailing (d : Text) : trimTrailing (trimTrailing d) = trimTrailing d := by
  by_cases h : trimSlashes d = []
  · have hself : trimTrailing d = d := by simp [trimTrailing, h]
    rw [hself, hself]
  · have hself : trimTrailing d = trimSlashes d := by simp [trimTrailing, h]
    rw [hself]
    simp [trimTrailing, trimSlashes_eq_self (getLast?_trimSlashes_ne d)]

/-- The slash that is put between a directory and a name is taken off again. -/
theorem trimTrailing_opened (d : Text) : trimTrailing (opened d) = trimTrailing d := by
  by_cases h : IsOpen d
  · rw [opened, if_pos h]
  · obtain ⟨hne, hlast⟩ := not_or.1 h
    have hopened : trimSlashes (d ++ [slash]) = trimSlashes d :=
      List.rdropWhile_concat_pos _ _ _ (beq_self_eq_true slash)
    rw [opened, if_neg h]
    simp [trimTrailing, hopened, trimSlashes_eq_self hlast, hne]

/-- The directory of a path has no slashes at its end to lose. -/
theorem trimTrailing_directory (path : Text) : trimTrailing (directory path) = directory path :=
  trimTrailing_trimTrailing (head path)

/-- **The directory of a name in a directory** is that directory, without the slashes at its end. -/
theorem directory_join (d : Text) (hname : slash ∉ name) :
    directory (join d name) = trimTrailing d := by
  rw [directory, join_eq, head_append (isOpen_opened d) hname, trimTrailing_opened]

end Path

namespace InputFile

/-! ## Moves as steps -/

/-- A move as a step: the file after it, and the message if it fails. A text without a path stays
what it is. -/
def attempt (file : InputFile) (directory : Text) : InputFile × Option Text :=
  match file.moveTo? directory with
  | some moved => (moved, none)
  | none => (file, some notMovable)

/-- The file after several moves, one after the other. -/
def after (file : InputFile) (directories : List Text) : InputFile :=
  directories.foldl (fun file directory => (file.attempt directory).1) file

/-- **A move forgets the move before it.** -/
theorem attempt_attempt (file : InputFile) (first second : Text) :
    (file.attempt first).1.attempt second = file.attempt second := by
  obtain ⟨text, path⟩ := file
  cases path with
  | none => rfl
  | some path =>
    have hbase := Path.base_join first (Path.slash_notMem_base path)
    simp [attempt, moveTo?, hbase]

/-- **A move forgets all moves before it.** -/
theorem attempt_after (file : InputFile) (earlier : List Text) (directory : Text) :
    (file.after earlier).attempt directory = file.attempt directory := by
  -- each move on the way is one that the last one forgets
  induction earlier generalizing file with
  | nil => rfl
  | cons first rest ih =>
    show ((file.attempt first).1.after rest).attempt directory = file.attempt directory
    rw [ih, attempt_attempt]

/-- The file after one more move. -/
theorem after_concat (file : InputFile) (earlier : List Text) (directory : Text) :
    file.after (earlier ++ [directory]) = ((file.after earlier).attempt directory).1 := by
  simp [after]

/-- A file that has a path is moved: text and name stay, and the directory is the new one, without
the slashes at its end. -/
theorem attempt_of_path (text path directory : Text) :
    ∃ moved : InputFile, attempt ⟨text, some path⟩ directory = (moved, none) ∧
      moved.text = text ∧ moved.base = some (Path.base path) ∧
      moved.directory = some (Path.trimTrailing directory) := by
  refine ⟨⟨text, some (Path.join directory (Path.base path))⟩, rfl, rfl, ?_, ?_⟩
  · simp [base, Path.base_join directory (Path.slash_notMem_base path)]
  · simp [InputFile.directory, Path.directory_join directory (Path.slash_notMem_base path)]

/-- **A move changes the directory and nothing else.** Take a file that has a path and move it
several times. Every move succeeds, the file is the same as after the last move alone, it has the
text and the name that it had, and its directory is the last one without the slashes at its end, or
with them if it consists of nothing else. A move to the directory that the file is in leaves text,
directory and name, and once it has been made, making it again changes nothing. A text without a
path cannot be moved and stays what it is. -/
theorem moves_change_directory (text path : Text) (earlier : List Text) (directory : Text) :
    let file : InputFile := ⟨text, some path⟩
    let moved := file.after (earlier ++ [directory])
    let own := Path.directory path
    let settled := file.after [own]
    let anonymous : InputFile := ⟨text, none⟩
    ((file.after earlier).attempt directory = (moved, none) ∧
      file.attempt directory = (moved, none) ∧
      moved.text = file.text ∧ moved.base = file.base ∧
      ∃ front count, directory = front ++ List.replicate count Path.slash ∧
        front.getLast? ≠ some Path.slash ∧
        moved.directory = some (if front = [] then directory else front)) ∧
    (file.directory = some own ∧ file.attempt own = (settled, none) ∧
      settled.text = file.text ∧ settled.directory = file.directory ∧ settled.base = file.base ∧
      settled.attempt own = (settled, none)) ∧
    (anonymous.after earlier).attempt directory = (anonymous, some notMovable) := by
  intro file moved own settled anonymous
  refine ⟨?_, ?_, ?_⟩
  · obtain ⟨last, hlast, htext, hbase, hdirectory⟩ := attempt_of_path text path directory
    have hmoved : moved = last := by
      show file.after (earlier ++ [directory]) = last
      rw [after_concat, attempt_after, hlast]
    obtain ⟨front, count, hparts, hend, htrim⟩ := Path.exists_trimTrailing directory
    rw [hmoved, attempt_after]
    exact ⟨hlast, hlast, htext, hbase, front, count, hparts, hend, htrim ▸ hdirectory⟩
  · obtain ⟨there, hthere, htext, hbase, hdirectory⟩ := attempt_of_path text path own
    have hsettled : settled = there := by
      show (file.attempt own).1 = there
      rw [hthere]
    have hagain : there.attempt own = file.attempt own := by
      rw [← hsettled]
      exact file.attempt_attempt own own
    -- the own directory has no slashes to lose
    rw [Path.trimTrailing_directory] at hdirectory
    rw [hsettled, hagain]
    exact ⟨rfl, hthere, htext, hdirectory, hbase, hthere⟩
  · rw [attempt_after]
    rfl

/-- Of three moves the last one counts, and its slashes stay in the path. -/
example : (InputFile.mk "<p>" (some "a//b.html")).after ["x/", "//", "docs//"]
    = ⟨"<p>", some "docs//b.html"⟩ := by decide

end InputFile

end HtmlDiagnostics
