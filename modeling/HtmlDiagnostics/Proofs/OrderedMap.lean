import HtmlDiagnostics.OrderedMap
import Mathlib.Data.List.Induction

/-! # Maps made of pairs

A list of pairs becomes a map by writing one pair after the other, so what is known of a write
carries over to the list by induction on its last pair.

* **`OrderedMap.keys_ofList`** — a key stands where it comes first.
* **`OrderedMap.ofList_entries`** — a map is made of its own entries. -/

namespace HtmlDiagnostics

namespace OrderedMap

universe u

variable {α : Type u}

/-- Writing to a new key adds the entry at the end. -/
theorem written_of_notMem {key : Text} {value : α} {entries : List (Text × α)}
    (h : key ∉ entries.map Prod.fst) : written key value entries = entries ++ [(key, value)] := by
  induction entries with
  | nil => rfl
  | cons entry rest ih =>
    simp only [List.map_cons, List.mem_cons, not_or] at h
    rw [written, if_neg (Ne.symm h.1), ih h.2, List.cons_append]

/-- The last pair is written to the map that the pairs before it make. -/
theorem ofList_concat (pairs : List (Text × α)) (pair : Text × α) :
    ofList (pairs ++ [pair]) = (ofList pairs).insert pair.1 pair.2 := by
  rw [ofList, List.foldl_append]
  rfl

/-- **The keys of the pairs, each where it comes first.** -/
theorem keys_ofList (pairs : List (Text × α)) :
    (ofList pairs).keys = (pairs.map Prod.fst).eraseDups := by
  induction pairs using List.reverseRecOn with
  | nil => rfl
  | append_singleton pairs pair ih =>
    rw [ofList_concat, keys_insert, ih, List.map_append, List.eraseDups_append]
    simp only [List.mem_eraseDups, List.map_singleton, List.removeAll]
    by_cases h : pair.1 ∈ pairs.map Prod.fst
    · rw [if_pos h, List.filter_cons_of_neg (by simpa using h)]
      simp
    · rw [if_neg h, List.filter_cons_of_pos (by simpa using h)]
      rfl

/-- Pairs without a repeated key are the entries of the map that they make. -/
theorem entries_ofList_of_nodup {pairs : List (Text × α)} (h : (pairs.map Prod.fst).Nodup) :
    (ofList pairs).entries = pairs := by
  induction pairs using List.reverseRecOn with
  | nil => rfl
  | append_singleton pairs pair ih =>
    rw [List.map_append, List.nodup_append] at h
    -- the key of the last pair is new, so the write goes to the end
    have hnew : pair.1 ∉ (ofList pairs).entries.map Prod.fst := by
      rw [ih h.1]
      exact fun hmem => h.2.2 _ hmem _ (by simp) rfl
    rw [ofList_concat, entries_insert, written_of_notMem hnew, ih h.1]

/-- **A map is made of its own entries.** -/
theorem ofList_entries (m : OrderedMap α) : ofList m.entries = m :=
  ext (entries_ofList_of_nodup m.nodup)

end OrderedMap

end HtmlDiagnostics
