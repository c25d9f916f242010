import HtmlDiagnostics.Position
import Mathlib.Algebra.Group.Nat.Defs
import Mathlib.Algebra.Ring.Int.Defs

/-! # Which ranges have a label

The label of a range spells two lines and two columns. An integer of any size may stand there, but
one with too many digits is not written, and then the range has no label. The offsets are not part
of a label, so they do not matter.

* **`digitCount_le_iff`** — an integer has few digits exactly if it is small.
* **`Span.IsWritable`** — no line and no column has too many digits.
* **`Span.written`** — the label of such a range, put together without asking.
* **`Span.label_eq_ok`**, **`Span.label_eq_error`** — such a range has its label, any other none.
* **`Span.farDown`** — a range that has none. -/

namespace HtmlDiagnostics

/-! ## Numbers -/

/-- An integer has at most so many digits exactly if its size is below the power of ten. -/
theorem digitCount_le_iff {n : Int} {count : Nat} (h : 0 < count) :
    digitCount n ≤ count ↔ n.natAbs < 10 ^ count := by
  rw [digitCount, Text.ofNat, List.length_map, Nat.length_toDigits_le_iff (by decide) h]

/-- A power of ten has one digit more than its exponent says. -/
theorem not_digitCount_pow_le {count : Nat} (h : 0 < count) :
    ¬ digitCount (10 ^ count) ≤ count := by
  rw [digitCount_le_iff h, Int.natAbs_pow]
  exact Nat.lt_irrefl (10 ^ count)

theorem Text.writeInt_eq_ok {n : Int} (h : digitCount n ≤ maxNumberDigits) :
    Text.writeInt n = .ok (Text.ofInt n) :=
  if_neg (Nat.not_lt.2 h)

theorem Text.writeInt_eq_error {n : Int} (h : ¬ digitCount n ≤ maxNumberDigits) :
    Text.writeInt n = .error .tooManyDigits :=
  if_pos (Nat.lt_of_not_le h)

/-! ## Places -/

/-- The label of a place whose numbers can be written. -/
def Point.written (p : Point) : Text := Text.ofInt p.line ++ ":" ++ Text.ofInt p.column

/-- A place has its label if both of its numbers can be written. -/
theorem Point.label_eq_ok {p : Point} (line : digitCount p.line ≤ maxNumberDigits)
    (column : digitCount p.column ≤ maxNumberDigits) : p.label = .ok p.written := by
  rw [label, Text.writeInt_eq_ok line, Text.writeInt_eq_ok column]
  rfl

/-- A place has no label if one of them cannot. -/
theorem Point.label_eq_error {p : Point}
    (h : ¬ (digitCount p.line ≤ maxNumberDigits ∧ digitCount p.column ≤ maxNumberDigits)) :
    p.label = .error .tooManyDigits := by
  by_cases line : digitCount p.line ≤ maxNumberDigits
  · have column : ¬ digitCount p.column ≤ maxNumberDigits := fun column => h ⟨line, column⟩
    rw [label, Text.writeInt_eq_ok line, Text.writeInt_eq_error column]
    rfl
  · rw [label, Text.writeInt_eq_error line]
    rfl

/-! ## Ranges -/

/-- The numbers of a range can be written: none has too many digits. -/
structure Span.IsWritable (s : Span) : Prop where
  /-- The line of the start. -/
  startLine : digitCount s.start.line ≤ maxNumberDigits
  /-- The column of the start. -/
  startColumn : digitCount s.start.column ≤ maxNumberDigits
  /-- The line of the end. -/
  stopLine : digitCount s.stop.line ≤ maxNumberDigits
  /-- The column of the end. -/
  stopColumn : digitCount s.stop.column ≤ maxNumberDigits

namespace Span

/-- The numbers of a range can be written if those of its two places can. -/
theorem isWritable_iff {s : Span} :
    s.IsWritable ↔
      (digitCount s.start.line ≤ maxNumberDigits ∧ digitCount s.start.column ≤ maxNumberDigits) ∧
      digitCount s.stop.line ≤ maxNumberDigits ∧ digitCount s.stop.column ≤ maxNumberDigits := by
  constructor
  · intro h
    exact ⟨⟨h.startLine, h.startColumn⟩, h.stopLine, h.stopColumn⟩
  · rintro ⟨⟨startLine, startColumn⟩, stopLine, stopColumn⟩
    exact ⟨startLine, startColumn, stopLine, stopColumn⟩

instance (s : Span) : Decidable s.IsWritable := decidable_of_iff' _ isWritable_iff

/-- The label of a range whose numbers can be written. -/
def written (s : Span) : Text := s.start.written ++ "-" ++ s.stop.written

/-- **A range whose numbers can be written has its label.** -/
theorem label_eq_ok {s : Span} (h : s.IsWritable) : s.label = .ok s.written := by
  rw [label, Point.label_eq_ok h.startLine h.startColumn, Point.label_eq_ok h.stopLine h.stopColumn]
  rfl

/-- **Any other range has no label.** -/
theorem label_eq_error {s : Span} (h : ¬ s.IsWritable) : s.label = .error .tooManyDigits := by
  rw [isWritable_iff] at h
  by_cases start :
      digitCount s.start.line ≤ maxNumberDigits ∧ digitCount s.start.column ≤ maxNumberDigits
  · rw [label, Point.label_eq_ok start.1 start.2, Point.label_eq_error fun stop => h ⟨start, stop⟩]
    rfl
  · rw [label, Point.label_eq_error start]
    rfl

/-- A range that starts on the first line that cannot be written, and ends somewhere else. -/
def farDown : Span := ⟨⟨10 ^ maxNumberDigits, 1, 0⟩, ⟨1, 1, 0⟩⟩

/-- The number of its first line has one digit too many. -/
theorem not_isWritable_farDown : ¬ farDown.IsWritable := fun h =>
  not_digitCount_pow_le (by decide) h.startLine

end Span

end HtmlDiagnostics
