import HtmlDiagnostics.Proofs.Text.Search
import HtmlDiagnostics.Text.DecimalDigit
import HtmlDiagnostics.Text.Numeral
import Mathlib.Data.List.Induction

/-! # Decimal numerals can be read back

A numeral is written digit by digit, the last digit last, so what is proved of it goes along the
division by ten.

* **`CodePoint.isAsciiDigit`** — the digits that numerals are written with.
* **`Text.ofNat_eq_append`** — a numeral of several digits and its last digit.
* **`Text.isAsciiDigit_of_mem_ofNat`**, **`Text.head?_ofNat_ne_zero`** — the form of a numeral.
* **`Text.readDigits_ofNat`** — reading a numeral gives the number.
* **`Text.ofInt_injective`**, **`Text.ofInt_append_hyphen_inj`** — the numeral of an integer tells
  the integer, also in front of a hyphen.
* **`Text.IsUpperHex`**, **`Text.isUpperHex_iff`** — the hexadecimal numeral of a number, in upper
  case and without leading zeros, is the one that is written. -/

namespace HtmlDiagnostics

/-- Whether the code point is one of the ten ASCII digits. -/
def CodePoint.isAsciiDigit (c : CodePoint) : Bool := 0x30 ≤ c.val && c.val ≤ 0x39

/-- Whether the code point is a hexadecimal digit in upper case. -/
def CodePoint.isUpperHexDigit (c : CodePoint) : Bool :=
  c.isAsciiDigit || (0x41 ≤ c.val && c.val ≤ 0x46)

/-- The value of a hexadecimal digit in upper case. -/
def CodePoint.upperHexValue (c : CodePoint) : Nat :=
  if c.isAsciiDigit then c.val - 0x30 else c.val - 0x37

namespace Text

/-- The digit of a number below sixteen. -/
def digit (n : Nat) : CodePoint := CodePoint.ofChar n.digitChar

theorem isAsciiDigit_digit : ∀ n < 10, (digit n).isAsciiDigit = true := by decide

theorem digitValue?_digit : ∀ n < 10, (digit n).digitValue? = some n := by decide

theorem digit_ne_zero : ∀ n < 10, n ≠ 0 → digit n ≠ '0' := by decide

/-- A number below ten is written with its digit. -/
theorem ofNat_of_lt {n : Nat} (h : n < 10) : ofNat n = [digit n] := by
  rw [ofNat, Nat.toDigits_of_lt_base h]
  rfl

/-- A greater number is written with the digits of its tenth and its last digit. -/
theorem ofNat_eq_append {n : Nat} (h : 10 ≤ n) : ofNat n = ofNat (n / 10) ++ [digit (n % 10)] := by
  rw [ofNat, Nat.toDigits_of_base_le (by decide) h, List.map_append]
  rfl

/-- A numeral has ASCII digits only. -/
theorem isAsciiDigit_of_mem_ofNat (n : Nat) : ∀ c ∈ ofNat n, c.isAsciiDigit = true := by
  induction n using Nat.strongRecOn with
  | ind n ih =>
    rcases Nat.lt_or_ge n 10 with h | h
    · rw [ofNat_of_lt h]
      rintro c hc
      rw [List.mem_singleton.1 hc]
      exact isAsciiDigit_digit n h
    · rw [ofNat_eq_append h]
      rintro c hc
      rcases List.mem_append.1 hc with hc | hc
      · exact ih (n / 10) (by omega) c hc
      · rw [List.mem_singleton.1 hc]
        exact isAsciiDigit_digit (n % 10) (by omega)

/-- **Reading a numeral gives the number.** -/
theorem readDigits_ofNat (n : Nat) : readDigits (ofNat n) = n := by
  induction n using Nat.strongRecOn with
  | ind n ih =>
    rcases Nat.lt_or_ge n 10 with h | h
    · rw [ofNat_of_lt h, ← List.nil_append [digit n], readDigits_concat, digitValue?_digit n h]
      exact Nat.zero_add n
    · rw [ofNat_eq_append h, readDigits_concat, ih (n / 10) (by omega),
        digitValue?_digit (n % 10) (by omega)]
      exact Nat.div_add_mod n 10

/-- The numeral of a positive number does not start with a zero. -/
theorem head?_ofNat_ne_zero (n : Nat) (hn : n ≠ 0) :
    (ofNat n).head? ≠ some (CodePoint.ofChar '0') := by
  induction n using Nat.strongRecOn with
  | ind n ih =>
    rcases Nat.lt_or_ge n 10 with h | h
    · rw [ofNat_of_lt h]
      intro hhead
      exact digit_ne_zero n h hn (Option.some.inj hhead)
    · obtain ⟨c, rest, hc⟩ := List.exists_cons_of_ne_nil (ofNat_ne_nil (n / 10))
      have hfirst := ih (n / 10) (by omega) (by omega)
      rw [hc] at hfirst
      rw [ofNat_eq_append h, hc]
      exact hfirst

/-! ## Integers -/

/-- A numeral tells the number. -/
theorem ofNat_injective {m n : Nat} (h : ofNat m = ofNat n) : m = n := by
  rw [← readDigits_ofNat m, ← readDigits_ofNat n, h]

/-- What is no ASCII digit is not in the numeral of a natural number. -/
theorem notMem_ofNat {c : CodePoint} (hc : c.isAsciiDigit = false) (n : Nat) : c ∉ ofNat n := by
  intro h
  rw [isAsciiDigit_of_mem_ofNat n c h] at hc
  cases hc

/-- What is neither a digit nor the hyphen is not in the numeral of an integer. -/
theorem notMem_ofInt {c : CodePoint} (hc : c.isAsciiDigit = false) (hhyphen : c ≠ '-') (n : Int) :
    c ∉ ofInt n := by
  cases n with
  | ofNat n => exact notMem_ofNat hc n
  | negSucc n => exact List.not_mem_cons_of_ne_of_not_mem hhyphen (notMem_ofNat hc (n + 1))

/-- The numeral of a natural number does not start with a hyphen, whatever follows it. -/
theorem ofNat_append_ne_hyphen_cons (n : Nat) (s t : Text) :
    ofNat n ++ s ≠ CodePoint.ofChar '-' :: t := by
  intro h
  obtain ⟨c, rest, hc⟩ := List.exists_cons_of_ne_nil (ofNat_ne_nil n)
  rw [hc, List.cons_append] at h
  -- the first code point would be a digit and the hyphen
  have hfirst : c ∈ ofNat n := hc ▸ List.mem_cons_self
  rw [(List.cons.inj h).1] at hfirst
  exact notMem_ofNat (by decide) n hfirst

/-- **The numeral of an integer ends at a hyphen** behind it: a hyphen at the start is a sign, and
the next one is not. -/
theorem ofInt_append_hyphen_inj {m n : Int} {s t : Text}
    (h : ofInt m ++ CodePoint.ofChar '-' :: s = ofInt n ++ CodePoint.ofChar '-' :: t) :
    m = n ∧ s = t := by
  have hdigits : ∀ k, CodePoint.ofChar '-' ∉ ofNat k := notMem_ofNat (by decide)
  cases m with
  | ofNat m =>
    cases n with
    | ofNat n =>
      obtain ⟨hnumeral, hrest⟩ := append_cons_inj_of_first (hdigits m) (hdigits n) h
      exact ⟨congrArg Int.ofNat (ofNat_injective hnumeral), hrest⟩
    | negSucc n => exact absurd h (ofNat_append_ne_hyphen_cons m _ _)
  | negSucc m =>
    cases n with
    | ofNat n => exact absurd h.symm (ofNat_append_ne_hyphen_cons n _ _)
    | negSucc n =>
      obtain ⟨hnumeral, hrest⟩ :=
        append_cons_inj_of_first (hdigits (m + 1)) (hdigits (n + 1)) (List.cons.inj h).2
      obtain rfl := Nat.succ.inj (ofNat_injective hnumeral)
      exact ⟨rfl, hrest⟩

/-- **The numeral of an integer tells the integer.** -/
theorem ofInt_injective {m n : Int} (h : ofInt m = ofInt n) : m = n :=
  (ofInt_append_hyphen_inj (congrArg (· ++ CodePoint.ofChar '-' :: []) h)).1

/-! ## Hexadecimal numerals -/

/-- The digit of a number below sixteen in upper case. -/
def upperDigit (n : Nat) : CodePoint := CodePoint.ofChar n.digitChar.toUpper

/-- The number that a run of hexadecimal digits in upper case spells. -/
def readUpperHex (t : Text) : Nat := t.foldl (fun n c => 16 * n + c.upperHexValue) 0

/-- The hexadecimal numeral of a number in upper case, without leading zeros. -/
structure IsUpperHex (t : Text) (n : Nat) : Prop where
  /-- There are digits only. -/
  digits : ∀ c ∈ t, c.isUpperHexDigit = true
  /-- There is at least one. -/
  ne_nil : t ≠ []
  /-- A zero comes first only on its own. -/
  canonical : ∀ rest, t = CodePoint.ofChar '0' :: rest → rest = []
  /-- They spell the number. -/
  value : readUpperHex t = n

theorem isUpperHexDigit_upperDigit : ∀ n < 16, (upperDigit n).isUpperHexDigit = true := by decide

theorem upperHexValue_upperDigit : ∀ n < 16, (upperDigit n).upperHexValue = n := by decide

theorem val_upperDigit : ∀ n < 16,
    (upperDigit n).val = if n < 10 then 0x30 + n else 0x37 + n := by decide

/-- A digit has a value below sixteen, and is the digit of its value. -/
theorem upperDigit_upperHexValue {c : CodePoint} (hc : c.isUpperHexDigit = true) :
    c.upperHexValue < 16 ∧ upperDigit c.upperHexValue = c := by
  have hvalue : c.upperHexValue < 16 ∧
      (if c.upperHexValue < 10 then 0x30 + c.upperHexValue else 0x37 + c.upperHexValue) = c.val := by
    simp only [CodePoint.isUpperHexDigit, CodePoint.isAsciiDigit, Bool.or_eq_true,
      Bool.and_eq_true, decide_eq_true_eq] at hc
    simp only [CodePoint.upperHexValue, CodePoint.isAsciiDigit, Bool.and_eq_true,
      decide_eq_true_eq]
    split <;> split <;> omega
  exact ⟨hvalue.1, CodePoint.ext ((val_upperDigit _ hvalue.1).trans hvalue.2)⟩

/-- One more digit on the right multiplies by sixteen and adds the digit. -/
theorem readUpperHex_concat (t : Text) (c : CodePoint) :
    readUpperHex (t ++ [c]) = 16 * readUpperHex t + c.upperHexValue := by
  simp [readUpperHex]

/-- A number below sixteen is written with its digit. -/
theorem upperHex_of_lt {n : Nat} (h : n < 16) : upperHex n = [upperDigit n] := by
  rw [upperHex, Nat.toDigits_of_lt_base h]
  rfl

/-- A greater number is written with the digits of its sixteenth and its last digit. -/
theorem upperHex_eq_append {n : Nat} (h : 16 ≤ n) :
    upperHex n = upperHex (n / 16) ++ [upperDigit (n % 16)] := by
  rw [upperHex, Nat.toDigits_of_base_le (by decide) h, List.map_append]
  rfl

/-- A hexadecimal numeral in upper case has digits in upper case only. -/
theorem isUpperHexDigit_of_mem_upperHex (n : Nat) : ∀ c ∈ upperHex n, c.isUpperHexDigit = true := by
  induction n using Nat.strongRecOn with
  | ind n ih =>
    rcases Nat.lt_or_ge n 16 with h | h
    · rw [upperHex_of_lt h]
      intro c hc
      rw [List.mem_singleton.1 hc]
      exact isUpperHexDigit_upperDigit n h
    · rw [upperHex_eq_append h]
      intro c hc
      rcases List.mem_append.1 hc with hc | hc
      · exact ih (n / 16) (by omega) c hc
      · rw [List.mem_singleton.1 hc]
        exact isUpperHexDigit_upperDigit (n % 16) (by omega)

/-- **Reading a hexadecimal numeral gives the number.** -/
theorem readUpperHex_upperHex (n : Nat) : readUpperHex (upperHex n) = n := by
  induction n using Nat.strongRecOn with
  | ind n ih =>
    rcases Nat.lt_or_ge n 16 with h | h
    · rw [upperHex_of_lt h, ← List.nil_append [upperDigit n], readUpperHex_concat,
        upperHexValue_upperDigit n h]
      exact Nat.zero_add n
    · rw [upperHex_eq_append h, readUpperHex_concat, ih (n / 16) (by omega),
        upperHexValue_upperDigit (n % 16) (by omega)]
      exact Nat.div_add_mod n 16

/-- A hexadecimal numeral starts with a zero only if it is the one of zero. -/
theorem eq_nil_of_upperHex_eq_cons (n : Nat) :
    ∀ rest, upperHex n = CodePoint.ofChar '0' :: rest → rest = [] := by
  induction n using Nat.strongRecOn with
  | ind n ih =>
    intro rest heq
    rcases Nat.lt_or_ge n 16 with h | h
    · rw [upperHex_of_lt h] at heq
      exact (List.cons.inj heq).2.symm
    · obtain ⟨c, front, hc⟩ : ∃ c front, upperHex (n / 16) = c :: front := by
        refine List.exists_cons_of_ne_nil ?_
        rw [upperHex]
        exact fun hnil => Nat.toDigits_ne_nil (List.map_eq_nil_iff.1 hnil)
      rw [upperHex_eq_append h, hc] at heq
      rw [(List.cons.inj heq).1] at hc
      -- then the sixteenth would be zero
      have hzero := readUpperHex_upperHex (n / 16)
      rw [hc, ih (n / 16) (by omega) front hc] at hzero
      have hvalue : readUpperHex [CodePoint.ofChar '0'] = 0 := by decide
      omega

/-- **A number has one hexadecimal numeral.** -/
theorem isUpperHex_iff {t : Text} {n : Nat} : IsUpperHex t n ↔ t = upperHex n := by
  constructor
  · intro h
    induction t using List.reverseRecOn generalizing n with
    | nil => exact absurd rfl h.ne_nil
    | append_singleton front c ih =>
      obtain ⟨digits, -, canonical, rfl⟩ := h
      obtain ⟨hlt, hdigit⟩ := upperDigit_upperHexValue (digits c (by simp))
      rw [readUpperHex_concat]
      by_cases hfront : front = []
      · rw [hfront]
        simp only [readUpperHex, List.foldl_nil, Nat.mul_zero, Nat.zero_add]
        rw [upperHex_of_lt hlt, hdigit, List.nil_append]
      · -- the digits in front spell a numeral themselves, and not the one of zero
        have hnumeral := ih ⟨fun d hd => digits d (List.mem_append_left _ hd), hfront,
          fun rest hrest => absurd (canonical (rest ++ [c]) (by rw [hrest]; rfl)) (by simp), rfl⟩
        have hpos : 0 < readUpperHex front := by
          refine Nat.pos_of_ne_zero fun hzero => ?_
          rw [hzero, upperHex_of_lt (by decide)] at hnumeral
          have hnil := canonical [c] (by rw [hnumeral]; rfl)
          cases hnil
        rw [upperHex_eq_append (by omega)]
        have hdiv : (16 * readUpperHex front + c.upperHexValue) / 16 = readUpperHex front := by omega
        have hmod : (16 * readUpperHex front + c.upperHexValue) % 16 = c.upperHexValue := by omega
        rw [hdiv, hmod, hdigit, ← hnumeral]
  · rintro rfl
    exact ⟨isUpperHexDigit_of_mem_upperHex n,
      fun hnil => Nat.toDigits_ne_nil (List.map_eq_nil_iff.1 hnil), eq_nil_of_upperHex_eq_cons n,
      readUpperHex_upperHex n⟩

end Text

end HtmlDiagnostics
