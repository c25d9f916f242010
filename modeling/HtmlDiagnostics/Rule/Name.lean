import HtmlDiagnostics.Text.Basic

/-! # Codes and keys of rules

A parser names a rule by its **code** in hyphen case (`missing-doctype`); the table of rules and
the severity settings go by its **key** in camel case (`missingDoctype`).

* **`camelCase code`** — every hyphen before a small ASCII letter goes, and the letter becomes a
  capital.
* **`hyphenCase key`** — every ASCII capital becomes a small letter with a hyphen in front. -/

namespace HtmlDiagnostics

namespace CodePoint

/-- The hyphen. -/
def hyphen : CodePoint := '-'

/-- Whether the code point is a small ASCII letter. -/
def isAsciiLower (c : CodePoint) : Bool := 0x61 ≤ c.val && c.val ≤ 0x7A

/-- Whether the code point is an ASCII capital. -/
def isAsciiUpper (c : CodePoint) : Bool := 0x41 ≤ c.val && c.val ≤ 0x5A

/-- The capital of a small ASCII letter; anything else stays. -/
def asciiUpper (c : CodePoint) : CodePoint :=
  if c.isAsciiLower then ⟨c.val - 0x20, Nat.lt_of_le_of_lt (Nat.sub_le ..) c.val_lt⟩ else c

/-- The small letter of an ASCII capital; anything else stays. -/
def asciiLower (c : CodePoint) : CodePoint :=
  if h : c.isAsciiUpper then
    ⟨c.val + 0x20, by simp [isAsciiUpper] at h; omega⟩
  else c

end CodePoint

/-- The key of a rule code. The code is read from left to right, so of a run of hyphens only the
last can meet a letter. -/
def camelCase : Text → Text
  | a :: b :: rest =>
    if a = CodePoint.hyphen ∧ b.isAsciiLower then b.asciiUpper :: camelCase rest
    else a :: camelCase (b :: rest)
  | short => short

/-- The code of a rule key. -/
def hyphenCase (key : Text) : Text :=
  key.flatMap fun c => if c.isAsciiUpper then [CodePoint.hyphen, c.asciiLower] else [c]

@[simp] theorem camelCase_nil : camelCase [] = [] := rfl

@[simp] theorem camelCase_singleton (c : CodePoint) : camelCase [c] = [c] := rfl

@[simp] theorem hyphenCase_nil : hyphenCase [] = [] := rfl

/-- A text is converted code point by code point, so pieces can be converted one by one. -/
@[simp] theorem hyphenCase_append (s t : Text) :
    hyphenCase (s ++ t) = hyphenCase s ++ hyphenCase t := by
  simp [hyphenCase]

end HtmlDiagnostics
