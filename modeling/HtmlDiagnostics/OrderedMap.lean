import HtmlDiagnostics.Text.Basic

/-! # Maps that keep their order

A map from texts that remembers the order in which its keys first came in. Writing to a key that
is there already changes its value and leaves it where it stands.

* **`OrderedMap α`** — the entries in order, no key twice.
* **`OrderedMap.ofList pairs`** — all pairs written one after the other: a repeated key keeps its
  first position and takes its last value.
* **`OrderedMap.get?`**, **`OrderedMap.keys`**, **`OrderedMap.filterKeys`** — reading and
  narrowing. -/

namespace HtmlDiagnostics

universe u

/-- A map from texts with an order on its keys. -/
structure OrderedMap (α : Type u) where
  /-- Keys and values, in order. -/
  entries : List (Text × α)
  /-- No key stands twice. -/
  nodup : (entries.map Prod.fst).Nodup

namespace OrderedMap

variable {α : Type u}

/-- Two maps with the same entries are equal. -/
theorem ext {m₁ m₂ : OrderedMap α} (h : m₁.entries = m₂.entries) : m₁ = m₂ := by
  cases m₁; cases m₂; simp_all

/-- The keys, in order. -/
def keys (m : OrderedMap α) : List Text := m.entries.map Prod.fst

/-- The value of a key. -/
def get? (m : OrderedMap α) (key : Text) : Option α :=
  (m.entries.find? fun entry => entry.1 = key).map Prod.snd

/-- The map without entries. -/
def empty : OrderedMap α := ⟨[], by simp⟩

/-! ## Writing -/

/-- The entries after writing a value to a key. -/
def written (key : Text) (value : α) : List (Text × α) → List (Text × α)
  | [] => [(key, value)]
  | entry :: rest =>
    if entry.1 = key then (key, value) :: rest else entry :: written key value rest

/-- Writing to a present key leaves the keys alone, writing to a new one adds it at the end. -/
theorem map_fst_written (key : Text) (value : α) (entries : List (Text × α)) :
    (written key value entries).map Prod.fst
      = if key ∈ entries.map Prod.fst then entries.map Prod.fst
        else entries.map Prod.fst ++ [key] := by
  induction entries with
  | nil => simp [written]
  | cons entry rest ih =>
    by_cases h : entry.1 = key
    · simp [written, h]
    · simp only [written, h, if_false, List.map_cons, ih, List.mem_cons, Ne.symm h, false_or]
      split <;> simp

/-- The map after writing a value to a key. -/
def insert (m : OrderedMap α) (key : Text) (value : α) : OrderedMap α where
  entries := written key value m.entries
  nodup := by
    rw [map_fst_written]
    split
    · exact m.nodup
    · rename_i h
      exact List.nodup_append.2 ⟨m.nodup, by simp, by
        intro a ha b hb hab
        obtain rfl := List.mem_singleton.1 hb
        exact h (hab ▸ ha)⟩

/-- All pairs written one after the other. -/
def ofList (pairs : List (Text × α)) : OrderedMap α :=
  pairs.foldl (fun m pair => m.insert pair.1 pair.2) empty

/-! ## Narrowing -/

/-- The entries whose keys pass a test. -/
def filterKeys (m : OrderedMap α) (keep : Text → Bool) : OrderedMap α where
  entries := m.entries.filter fun entry => keep entry.1
  nodup := m.nodup.sublist (List.Sublist.map _ List.filter_sublist)

@[simp] theorem entries_empty : (empty : OrderedMap α).entries = [] := rfl

@[simp] theorem entries_insert (m : OrderedMap α) (key : Text) (value : α) :
    (m.insert key value).entries = written key value m.entries := rfl

@[simp] theorem entries_filterKeys (m : OrderedMap α) (keep : Text → Bool) :
    (m.filterKeys keep).entries = m.entries.filter fun entry => keep entry.1 := rfl

@[simp] theorem keys_empty : (empty : OrderedMap α).keys = [] := rfl

/-- The keys after a write. -/
theorem keys_insert (m : OrderedMap α) (key : Text) (value : α) :
    (m.insert key value).keys = if key ∈ m.keys then m.keys else m.keys ++ [key] :=
  map_fst_written key value m.entries

/-- Reading after a write. -/
theorem get?_insert (m : OrderedMap α) (key : Text) (value : α) (other : Text) :
    (m.insert key value).get? other = if other = key then some value else m.get? other := by
  suffices ∀ entries : List (Text × α),
      ((written key value entries).find? fun entry => entry.1 = other).map Prod.snd
        = if other = key then some value
          else (entries.find? fun entry => entry.1 = other).map Prod.snd from this m.entries
  intro entries
  induction entries with
  | nil => simp [written, eq_comm]
  | cons entry rest ih =>
    by_cases h : entry.1 = key
    · by_cases ho : other = key
      · simp [written, h, ho]
      · simp [written, h, ho, Ne.symm ho]
    · by_cases ho : entry.1 = other
      · simp [written, ho, ho ▸ h]
      · simp [written, h, ho, ih]

/-- A value that is read stands in the entries. -/
theorem mem_entries_of_get? {m : OrderedMap α} {key : Text} {value : α}
    (h : m.get? key = some value) : (key, value) ∈ m.entries := by
  obtain ⟨entry, hfind, rfl⟩ := Option.map_eq_some_iff.1 h
  have hkey : entry.1 = key := by simpa using List.find?_some hfind
  rw [← hkey]
  exact List.mem_of_find?_eq_some hfind

/-- Narrowing the map narrows its keys. -/
@[simp] theorem keys_filterKeys (m : OrderedMap α) (keep : Text → Bool) :
    (m.filterKeys keep).keys = m.keys.filter keep := by
  simp only [keys, entries_filterKeys, List.filter_map]
  rfl

/-- Narrowing the map leaves the values of the keys that it keeps. -/
theorem get?_filterKeys (m : OrderedMap α) (keep : Text → Bool) (key : Text) :
    (m.filterKeys keep).get? key = if keep key then m.get? key else none := by
  simp only [get?, entries_filterKeys, List.find?_filter]
  split
  · rename_i hkeep
    congr 2
    funext entry
    by_cases h : entry.1 = key
    · simp [h, hkeep]
    · simp [h]
  · rename_i hkeep
    rw [Option.map_eq_none_iff, List.find?_eq_none]
    rintro entry - h
    simp only [decide_eq_true_eq] at h
    exact hkeep (h.2 ▸ h.1)

/-- Of all pairs that write to a key, the last one counts. -/
theorem get?_ofList (pairs : List (Text × α)) (key : Text) :
    (ofList pairs).get? key = (pairs.reverse.find? fun pair => pair.1 = key).map Prod.snd := by
  -- From any map on: a pair found from the back hides what the map has for the key.
  suffices ∀ m : OrderedMap α,
      (pairs.foldl (fun m pair => m.insert pair.1 pair.2) m).get? key
        = ((pairs.reverse.find? fun pair => pair.1 = key).map Prod.snd).or (m.get? key) by
    rw [ofList, this]
    exact Option.or_none
  induction pairs with
  | nil => exact fun m => rfl
  | cons pair rest ih =>
    intro m
    rw [List.foldl_cons, ih, get?_insert, List.reverse_cons, List.find?_append]
    cases rest.reverse.find? fun pair => pair.1 = key with
    | some later => rfl
    | none =>
      by_cases h : pair.1 = key
      · simp [h]
      · simp [h, Ne.symm h]

end OrderedMap

end HtmlDiagnostics
