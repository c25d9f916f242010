import HtmlDiagnostics.Text.DecimalDigit
import Mathlib.Data.Nat.Digits.Lemmas

/-! # Runs of digits of any scripts

A number can be written with decimal digits in many ways: every script has ten digits of its own,
the scripts may mix, and zeros may stand in front. A run of digits writes one number, which is the
one that is read from it.

* **`CodePoint.IsDigitOf`** — the digits of a number below ten.
* **`Text.Writes`** — the ways to write a number.
* **`CodePoint.digitValue?_eq_some_iff`** — a digit has the value that its script gives it.
* **`Text.readDigits_eq_ofDigits`** — reading goes from the most significant digit to the least.
* **`Text.writes_iff`** — a run of digits writes the number that is read from it. -/

namespace HtmlDiagnostics

/-! ## Digits -/

namespace CodePoint

/-- A code point is the digit of a number below ten in one of the scripts. -/
def IsDigitOf (c : CodePoint) (n : Nat) : Prop := n < 10 ∧ ∃ first ∈ digitZeros, c.val = first + n

variable {c : CodePoint} {n : Nat}

/-- The digits of one script end before those of another one begin. -/
theorem apart_of_mem_digitZeros {first other : Nat} (hfirst : first ∈ digitZeros)
    (hother : other ∈ digitZeros) (hne : first ≠ other) :
    first + 10 ≤ other ∨ other + 10 ≤ first := by
  -- the scripts are listed in ascending order
  have hpairwise : digitZeros.Pairwise fun a b => a + 10 ≤ b := by decide +kernel
  have : Std.Symm fun a b : Nat => a + 10 ≤ b ∨ b + 10 ≤ a := ⟨fun _ _ => Or.symm⟩
  have hapart : digitZeros.Pairwise fun a b => a + 10 ≤ b ∨ b + 10 ≤ a := hpairwise.imp .inl
  exact hapart.forall hfirst hother hne

/-- **A digit has the value that its script gives it**, and nothing else has one. -/
theorem digitValue?_eq_some_iff : c.digitValue? = some n ↔ c.IsDigitOf n := by
  constructor
  · intro h
    obtain ⟨first, hfind, rfl⟩ := Option.map_eq_some_iff.1 h
    have hbounds := List.find?_some hfind
    simp only [Bool.and_eq_true, decide_eq_true_eq] at hbounds
    exact ⟨by omega, first, List.mem_of_find?_eq_some hfind, by omega⟩
  · rintro ⟨hn, first, hmem, hval⟩
    -- the first script that fits is the only one
    have hfits : (digitZeros.find? fun first => first ≤ c.val && c.val ≤ first + 9).isSome := by
      rw [List.find?_isSome]
      refine ⟨first, hmem, ?_⟩
      simp only [Bool.and_eq_true, decide_eq_true_eq]
      omega
    obtain ⟨found, hfind⟩ := Option.isSome_iff_exists.1 hfits
    have hbounds := List.find?_some hfind
    simp only [Bool.and_eq_true, decide_eq_true_eq] at hbounds
    have hsame : first = found := by
      by_contra hne
      have hapart := apart_of_mem_digitZeros hmem (List.mem_of_find?_eq_some hfind) hne
      omega
    rw [digitValue?, hfind, ← hsame, hval]
    simp

/-- A code point is a digit exactly if it is the digit of a number. -/
theorem isDigit_iff : c.isDigit = true ↔ ∃ n, c.IsDigitOf n := by
  simp only [isDigit, Option.isSome_iff_exists, digitValue?_eq_some_iff]

end CodePoint

namespace Text

/-! ## Runs of digits -/

/-- The ways to write a number: its decimal digits, the most significant one first, with any number
of zeros in front, and each of them in any script. -/
structure Writes (run : Text) (n : Nat) : Prop where
  /-- There is at least one digit, also for zero. -/
  ne_nil : run ≠ []
  /-- The digits are those of the number, behind zeros. -/
  digits : ∃ zeros, List.Forall₂ CodePoint.IsDigitOf run
    (List.replicate zeros 0 ++ (Nat.digits 10 n).reverse)

variable {run : Text} {n : Nat}

/-- The values of the digits of a run, one by one. -/
def digitValues (run : Text) : List Nat := run.map fun c => c.digitValue?.getD 0

/-- The values of digits are below ten. -/
theorem lt_of_mem_digitValues {value : Nat} (h : value ∈ digitValues run) : value < 10 := by
  obtain ⟨c, -, rfl⟩ := List.mem_map.1 h
  cases hvalue : c.digitValue? with
  | none => simp
  | some value => exact (CodePoint.digitValue?_eq_some_iff.1 hvalue).1

/-- A run of code points is one of the digits of some numbers exactly if these are its values. -/
theorem forall₂_isDigitOf_iff {values : List Nat} :
    List.Forall₂ CodePoint.IsDigitOf run values ↔
      (∀ c ∈ run, c.isDigit = true) ∧ values = digitValues run := by
  induction run generalizing values with
  | nil => simp [digitValues]
  | cons c run ih =>
    rw [List.forall₂_cons_left_iff]
    constructor
    · rintro ⟨value, rest, hvalue, hrest, rfl⟩
      obtain ⟨hdigits, rfl⟩ := ih.1 hrest
      refine ⟨List.forall_mem_cons.2 ⟨CodePoint.isDigit_iff.2 ⟨value, hvalue⟩, hdigits⟩, ?_⟩
      simp [digitValues, CodePoint.digitValue?_eq_some_iff.2 hvalue]
    · rintro ⟨hdigits, rfl⟩
      obtain ⟨hc, hrest⟩ := List.forall_mem_cons.1 hdigits
      obtain ⟨value, hvalue⟩ := CodePoint.isDigit_iff.1 hc
      refine ⟨value, digitValues run, hvalue, ih.2 ⟨hrest, rfl⟩, ?_⟩
      simp [digitValues, CodePoint.digitValue?_eq_some_iff.2 hvalue]

/-- **Reading goes from the most significant digit to the least.** -/
theorem readDigits_eq_ofDigits (run : Text) :
    readDigits run = Nat.ofDigits 10 (digitValues run).reverse := by
  rw [Nat.ofDigits_eq_foldr, List.foldr_reverse, digitValues, List.foldl_map]
  simp only [readDigits, Nat.cast_id, Nat.add_comm]

/-- **A run of digits writes the number that is read from it**, and no other. -/
theorem writes_iff : run.Writes n ↔
    run ≠ [] ∧ (∀ c ∈ run, c.isDigit = true) ∧ readDigits run = n := by
  constructor
  · rintro ⟨hne, zeros, hwritten⟩
    obtain ⟨hdigits, hvalues⟩ := forall₂_isDigitOf_iff.1 hwritten
    refine ⟨hne, hdigits, ?_⟩
    rw [readDigits_eq_ofDigits, ← hvalues, List.reverse_append, List.reverse_reverse,
      List.reverse_replicate, Nat.ofDigits_append_replicate_zero, Nat.ofDigits_digits]
  · rintro ⟨hne, hdigits, rfl⟩
    -- the digits of the number, filled up with zeros to the length of the run, are its values
    have hfilled : Nat.digitsAppend 10 run.length (readDigits run) = (digitValues run).reverse := by
      rw [readDigits_eq_ofDigits]
      apply (Nat.setInvOn_digitsAppend_ofDigits (by decide) run.length).1
      exact ⟨by simp [digitValues], fun value h => lt_of_mem_digitValues (List.mem_reverse.1 h)⟩
    refine ⟨hne, run.length - (Nat.digits 10 (readDigits run)).length, ?_⟩
    refine forall₂_isDigitOf_iff.2 ⟨hdigits, ?_⟩
    rw [← List.reverse_reverse (digitValues run), ← hfilled, Nat.digitsAppend,
      List.reverse_append, List.reverse_replicate]

end Text

end HtmlDiagnostics
