/-! # Texts as sequences of code points

HTML source can hold lone surrogates, so a text here is a list of code points rather than a
`String`, whose characters are scalar values only. Every length and every offset of this library
counts code points.

* **`CodePoint`** — a number below `0x110000`, surrogates included.
* **`Text`** — a list of code points, with the order of code points.
* **`Text.ofString`**, **`Text.display`** — from a string to a text and back.
* **`Text.at? t i`** — the code point at a signed offset, if the offset lies inside the text.
* **`Text.joinWith sep pieces`**, **`Text.sorted texts`** — listing texts in messages. -/

namespace HtmlDiagnostics

/-! ## Code points -/

/-- A Unicode code point. Surrogates are code points like any other. -/
structure CodePoint where
  /-- The number of the code point. -/
  val : Nat
  /-- Code points end at `0x10FFFF`. -/
  val_lt : val < 0x110000

namespace CodePoint

/-- Two code points with the same number are equal. -/
theorem ext {a b : CodePoint} (h : a.val = b.val) : a = b := by
  cases a; cases b; simp_all

instance : DecidableEq CodePoint := fun a b =>
  decidable_of_iff (a.val = b.val) ⟨ext, fun h => h ▸ rfl⟩

/-- The code point of a character. -/
def ofChar (c : Char) : CodePoint :=
  ⟨c.val.toNat, by
    have h := c.valid
    simp only [UInt32.isValidChar, Nat.isValidChar] at h
    omega⟩

instance : Coe Char CodePoint := ⟨ofChar⟩

instance : Inhabited CodePoint := ⟨⟨0, by decide⟩⟩

/-- The code point with the given number, if there is one. -/
def ofNat? (n : Nat) : Option CodePoint :=
  if h : n < 0x110000 then some ⟨n, h⟩ else none

/-- Code points are ordered by their numbers. -/
instance : LT CodePoint := ⟨fun a b => a.val < b.val⟩

instance (a b : CodePoint) : Decidable (a < b) := inferInstanceAs (Decidable (a.val < b.val))

@[simp] theorem val_ofChar (c : Char) : (ofChar c).val = c.val.toNat := rfl

@[simp] theorem ofNat?_val (c : CodePoint) : ofNat? c.val = some c := by
  simp [ofNat?, c.val_lt]

/-- Whether the code point is one half of a surrogate pair. -/
def isSurrogate (c : CodePoint) : Bool :=
  0xD800 ≤ c.val && c.val ≤ 0xDFFF

end CodePoint

/-! ## Texts -/

/-- A text: a sequence of code points. -/
abbrev Text := List CodePoint

namespace Text

/-- The text that a string spells. -/
def ofString (s : String) : Text := s.toList.map CodePoint.ofChar

instance : Coe String Text := ⟨ofString⟩

/-- The code point at a signed offset. A negative offset lies outside the text, it does not count
from the end. -/
def at? (t : Text) (i : Int) : Option CodePoint :=
  if i < 0 then none else t[i.toNat]?

@[simp] theorem at?_ofNat (t : Text) (n : Nat) : at? t n = t[n]? :=
  if_neg (Int.not_lt.2 (Int.natCast_nonneg n))

/-- Nothing is read exactly if the offset lies outside the text, on either side. -/
theorem at?_eq_none_iff {t : Text} {i : Int} : at? t i = none ↔ i < 0 ∨ (t.length : Int) ≤ i := by
  rw [at?]
  split
  · rename_i hneg
    exact iff_of_true rfl (.inl hneg)
  · rw [List.getElem?_eq_none_iff]
    omega

/-- The text as a string to be shown. A surrogate, which a string cannot hold, is shown as the
replacement character. -/
def display (t : Text) : String :=
  String.ofList (t.map fun c => if c.isSurrogate then '\ufffd' else Char.ofNat c.val)

/-- The pieces one after the other, with a separator between two neighbours. -/
def joinWith (separator : Text) : List Text → Text
  | [] => []
  | [piece] => piece
  | piece :: next :: rest => piece ++ separator ++ joinWith separator (next :: rest)

@[simp] theorem joinWith_nil (separator : Text) : joinWith separator [] = [] := rfl

@[simp] theorem joinWith_singleton (separator piece : Text) :
    joinWith separator [piece] = piece := rfl

@[simp] theorem joinWith_cons_cons (separator piece next : Text) (rest : List Text) :
    joinWith separator (piece :: next :: rest)
      = piece ++ separator ++ joinWith separator (next :: rest) := rfl

/-- The texts in ascending order, code point by code point. -/
def sorted (texts : List Text) : List Text :=
  texts.mergeSort fun a b => decide (a ≤ b)

end Text

end HtmlDiagnostics
