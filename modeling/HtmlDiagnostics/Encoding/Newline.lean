import HtmlDiagnostics.Text.Basic

/-! # Line ends

Files end their lines with a line feed, with a carriage return, or with both. A text in memory has
line feeds only.

* **`Newline.unify t`** — a text whose line ends are all line feeds. -/

namespace HtmlDiagnostics.Newline

/-- The line feed. -/
def lineFeed : CodePoint := '\n'

/-- The carriage return. -/
def carriageReturn : CodePoint := '\r'

/-- The text with every line end turned into a line feed. A carriage return and the line feed
right behind it are one line end. -/
def unify : Text → Text
  | [] => []
  | [c] => [if c = carriageReturn then lineFeed else c]
  | a :: b :: rest =>
    if a = carriageReturn then
      if b = lineFeed then lineFeed :: unify rest else lineFeed :: unify (b :: rest)
    else a :: unify (b :: rest)

@[simp] theorem unify_nil : unify [] = [] := rfl

@[simp] theorem unify_singleton (c : CodePoint) :
    unify [c] = [if c = carriageReturn then lineFeed else c] := rfl

theorem carriageReturn_ne_lineFeed : carriageReturn ≠ lineFeed := by decide

/-- No carriage return is left. -/
theorem carriageReturn_notMem_unify (t : Text) : carriageReturn ∉ unify t := by
  have hne := carriageReturn_ne_lineFeed
  fun_induction unify t with
  | case1 => simp
  | case2 c => by_cases h : c = carriageReturn <;> simp [h, hne, @eq_comm _ carriageReturn]
  | case3 rest ih => simp [ih, hne]
  | case4 b rest hb ih => simp [ih, hne]
  | case5 a b rest ha ih => simp [ih, Ne.symm ha]

/-- Nothing comes in but line feeds. -/
theorem mem_of_mem_unify {t : Text} {c : CodePoint} (h : c ∈ unify t) : c = lineFeed ∨ c ∈ t := by
  fun_induction unify t with
  | case1 => cases h
  | case2 d =>
    rw [List.mem_singleton] at h
    split at h
    · exact .inl h
    · exact .inr (List.mem_singleton.2 h)
  | case3 rest ih => grind
  | case4 b rest hb ih => grind
  | case5 a b rest ha ih => grind

/-- A text without carriage returns is left as it is. -/
theorem unify_eq_self {t : Text} (h : carriageReturn ∉ t) : unify t = t := by
  fun_induction unify t with
  | case1 => rfl
  | case2 c =>
    rw [if_neg fun hc => h (List.mem_singleton.2 hc.symm)]
  | case3 rest ih => exact absurd List.mem_cons_self h
  | case4 b rest hb ih => exact absurd List.mem_cons_self h
  | case5 a b rest ha ih => rw [ih fun hc => h (List.mem_cons_of_mem a hc)]

end HtmlDiagnostics.Newline
