import HtmlDiagnostics.Text.Basic
import Mathlib.Data.List.Sort

/-! # Texts in order

Code points are ordered by their numbers, and texts code point by code point. Both orders are
total, so distinct texts can be listed in ascending order in one way only.

* **`Text.pairwise_sorted`** — distinct texts in ascending order, each strictly before the next.
* **`Text.sorted_eq_of_mem_iff`** — the listing depends on nothing but which texts there are. -/

namespace HtmlDiagnostics

/-! ## Code points -/

namespace CodePoint

instance : Std.Irrefl fun a b : CodePoint => a < b := ⟨fun a => Nat.lt_irrefl a.val⟩

instance : Std.Asymm fun a b : CodePoint => a < b := ⟨fun _ _ => Nat.lt_asymm⟩

instance : Std.Trichotomous fun a b : CodePoint => a < b :=
  ⟨fun _ _ hab hba => ext (Nat.le_antisymm (Nat.le_of_not_lt hba) (Nat.le_of_not_lt hab))⟩

instance : Trans (fun a b : CodePoint => a < b) (fun a b : CodePoint => a < b)
    fun a b : CodePoint => a < b :=
  ⟨Nat.lt_trans⟩

end CodePoint

/-! ## Texts -/

namespace Text

/-- Of two texts the one that does not come later comes earlier, unless they are equal. -/
theorem lt_of_le_of_ne {a b : Text} (hle : a ≤ b) (hne : a ≠ b) : a < b := by
  by_contra hnot
  exact hne (List.le_antisymm hle (List.not_lt.1 hnot))

/-- Not coming later is passed on. -/
theorem le_trans {a b c : Text} (hab : a ≤ b) (hbc : b ≤ c) : a ≤ c := by
  by_cases h : b = c
  · rwa [← h]
  · intro hca
    exact hab (List.lt_trans (lt_of_le_of_ne hbc h) hca)

/-- Sorting keeps the texts. -/
@[simp] theorem mem_sorted {text : Text} {texts : List Text} :
    text ∈ sorted texts ↔ text ∈ texts :=
  (List.mergeSort_perm texts _).mem_iff

/-- There is nothing to list if there are no texts. -/
theorem sorted_eq_nil_iff {texts : List Text} : sorted texts = [] ↔ texts = [] := by
  rw [← List.length_eq_zero_iff, sorted, List.length_mergeSort, List.length_eq_zero_iff]

/-- **Distinct texts in ascending order:** each of them comes strictly before the ones after it. -/
theorem pairwise_sorted {texts : List Text} (h : texts.Nodup) :
    (sorted texts).Pairwise (· < ·) := by
  have hnodup : (sorted texts).Nodup := (List.mergeSort_perm texts _).nodup_iff.2 h
  have hle : (sorted texts).Pairwise (· ≤ ·) := by
    have htrans : ∀ a b c : Text, decide (a ≤ b) = true → decide (b ≤ c) = true →
        decide (a ≤ c) = true := by
      simp only [decide_eq_true_eq]
      exact fun a b c => le_trans
    have htotal : ∀ a b : Text, (decide (a ≤ b) || decide (b ≤ a)) = true := by
      simp only [Bool.or_eq_true, decide_eq_true_eq]
      exact List.le_total
    exact (List.pairwise_mergeSort htrans htotal texts).imp of_decide_eq_true
  exact (hle.and hnodup).imp fun h => lt_of_le_of_ne h.1 h.2

/-- A list in ascending order is the sorted list of its texts, in whatever order these are given. -/
theorem sorted_eq_of_mem_iff {ascending texts : List Text} (hascending : ascending.Pairwise (· < ·))
    (hnodup : texts.Nodup) (h : ∀ text, text ∈ ascending ↔ text ∈ texts) :
    ascending = sorted texts :=
  hascending.eq_of_mem_iff (pairwise_sorted hnodup) fun text => (h text).trans mem_sorted.symm

end Text

end HtmlDiagnostics
