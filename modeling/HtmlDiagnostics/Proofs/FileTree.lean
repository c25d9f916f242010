import HtmlDiagnostics.FileTree

/-! # Reading what was written

Writing to a file that is there changes its bytes and nothing else: every path leads to the same
place as before, so the file that was written is the one that is read.

* **`FileTree.isSome_get?_of_locate`** — a path that leads somewhere leads to a file.
* **`FileTree.locate_congr`** — where a path leads is up to which files and directories there are.
* **`FileTree.read_write`** — the bytes that were written are read. -/

namespace HtmlDiagnostics

/-- Writing to a present key leaves the keys alone. -/
theorem OrderedMap.keys_insert_of_mem {α : Type} {m : OrderedMap α} {key : Text}
    (h : (m.get? key).isSome) (value : α) : (m.insert key value).keys = m.keys := by
  obtain ⟨old, hold⟩ := Option.isSome_iff_exists.1 h
  have hmem : key ∈ m.keys := List.mem_map.2 ⟨(key, old), mem_entries_of_get? hold, rfl⟩
  rw [keys_insert, if_pos hmem]

namespace FileTree

/-! ## Where a path leads -/

/-- The names at the end of a walk lead to a file. -/
theorem isFile_of_walk {tree : FileTree} {path : FilePath} {here names found : List Text}
    (h : tree.walk path here names = .ok found) : tree.isFile found = true := by
  induction names generalizing here with
  | nil =>
    rw [walk] at h
    split at h
    · rename_i hfile
      obtain rfl := Except.ok.inj h
      exact hfile
    · split at h <;> cases h
  | cons name rest ih =>
    rw [walk] at h
    split at h
    · cases h
    · split at h
      · cases h
      · split at h
        · split at h
          · cases h
          · exact ih h
        · split at h
          · cases h
          · exact ih h

/-- A path leads somewhere only if it stays inside, and then to the end of a walk. -/
theorem exists_walk_of_locate {tree : FileTree} {path : FilePath} {key : Text}
    (h : tree.locate path = .ok key) :
    ∃ names, tree.walk path [] path.parts = .ok names ∧ key = keyOf names := by
  rw [locate] at h
  split at h
  · cases h
  · split at h
    · cases h
    · split at h
      · cases h
      · split at h
        · cases hwalk : tree.walk path [] path.parts with
          | error e =>
            rw [hwalk] at h
            cases h
          | ok names =>
            rw [hwalk] at h
            exact ⟨names, rfl, (Except.ok.inj h).symm⟩
        · cases h

/-- **A path that leads somewhere leads to a file.** -/
theorem isSome_get?_of_locate {tree : FileTree} {path : FilePath} {key : Text}
    (h : tree.locate path = .ok key) : (tree.files.get? key).isSome := by
  obtain ⟨names, hwalk, rfl⟩ := exists_walk_of_locate h
  exact isFile_of_walk hwalk

/-- **Where a path leads** is up to which names lead to files and which to directories. -/
theorem locate_congr {tree tree' : FileTree} (hfile : ∀ names, tree'.isFile names = tree.isFile names)
    (hdirectory : ∀ names, tree'.isDirectory names = tree.isDirectory names) (path : FilePath) :
    tree'.locate path = tree.locate path := by
  have hwalk : ∀ here names, tree'.walk path here names = tree.walk path here names := by
    intro here names
    induction names generalizing here with
    | nil => rw [walk, walk, hfile, hdirectory]
    | cons name rest ih => rw [walk, walk, hfile, hdirectory, ih, ih]
  rw [locate, locate, hwalk]

/-! ## Writing -/

/-- Writing to a file leaves every path leading where it led. -/
theorem locate_write {tree : FileTree} {path : FilePath} {key : Text}
    (h : tree.locate path = .ok key) (bytes : List UInt8) (other : FilePath) :
    (tree.write path bytes).locate other = tree.locate other := by
  have hsome := isSome_get?_of_locate h
  rw [write, h]
  refine locate_congr ?_ ?_ other
  · intro names
    rw [isFile, isFile, OrderedMap.get?_insert]
    split
    · rename_i hkey
      rw [hkey, hsome]
      rfl
    · rfl
  · intro names
    rw [isDirectory, isDirectory, OrderedMap.keys_insert_of_mem hsome]

/-- **The bytes that were written are read**, if there was a file to write to. -/
theorem read_write {tree : FileTree} {path : FilePath} {old : List UInt8}
    (h : tree.read path = .ok old) (bytes : List UInt8) :
    (tree.write path bytes).read path = .ok bytes := by
  cases hlocate : tree.locate path with
  | error e =>
    rw [read, hlocate] at h
    cases h
  | ok key =>
    rw [read, locate_write hlocate, hlocate, write, hlocate]
    simp only [OrderedMap.get?_insert, if_true, Option.getD_some]

end FileTree

end HtmlDiagnostics
