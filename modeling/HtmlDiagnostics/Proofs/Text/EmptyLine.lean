import HtmlDiagnostics.Encoding.Newline
import Mathlib.Data.List.Chain

/-! # Empty lines between texts

Several texts can be put together with an empty line between two of them, that is with two line
feeds, and be told apart again. What it takes is that no text has two line feeds in a row, and that
none ends with one, because that would be taken for the first of the two.

* **`Text.cutAtEmptyLines`** — the pieces of a text between empty lines.
* **`Text.Unbroken`** — the texts that an empty line may follow.
* **`Text.Unbroken.append`**, **`Text.Unbroken.joinWith_lineFeed`** — such texts put together.
* **`Text.cutAtEmptyLines_joinWith`** — texts with empty lines in between are told apart. -/

namespace HtmlDiagnostics.Text

open Newline (lineFeed)

/-! ## Cutting -/

/-- The pieces of a text between empty lines: from left to right, two line feeds in a row end a
piece. A text without any is one piece. -/
def cutAtEmptyLines : Text → List Text
  | a :: b :: rest =>
    if a = lineFeed ∧ b = lineFeed then [] :: cutAtEmptyLines rest
    else match cutAtEmptyLines (b :: rest) with
      | [] => [[a]]
      | piece :: more => (a :: piece) :: more
  | short => [short]

/-- A code point joins the first piece unless it is the first line feed of two. -/
theorem cutAtEmptyLines_cons {a : CodePoint} {t piece : Text} {more : List Text}
    (h : ∀ b ∈ t.head?, a = lineFeed → b ≠ lineFeed) (ht : cutAtEmptyLines t = piece :: more) :
    cutAtEmptyLines (a :: t) = (a :: piece) :: more := by
  cases t with
  | nil =>
    obtain ⟨rfl, rfl⟩ := List.cons.inj ht
    rfl
  | cons b rest => rw [cutAtEmptyLines, if_neg fun hab => h b rfl hab.1 hab.2, ht]

/-! ## Texts that an empty line may follow -/

/-- A text that an empty line may follow. -/
structure Unbroken (t : Text) : Prop where
  /-- No line feed stands right behind another one. -/
  chain : t.IsChain fun a b => a = lineFeed → b ≠ lineFeed
  /-- The text does not end with a line feed. -/
  last : t.getLast? ≠ some lineFeed

/-- A text without line feeds. -/
theorem unbroken_of_notMem {t : Text} (h : lineFeed ∉ t) : t.Unbroken where
  chain := by
    induction t with
    | nil => exact .nil
    | cons a t ih =>
      rw [List.mem_cons, not_or] at h
      exact List.isChain_cons.2 ⟨fun _ _ ha => absurd ha.symm h.1, ih h.2⟩
  last := fun hlast => h (List.mem_of_getLast? hlast)

/-- What remains behind the first code point. -/
theorem Unbroken.of_cons {a : CodePoint} {t : Text} (h : Unbroken (a :: t)) : t.Unbroken where
  chain := (List.isChain_cons.1 h.chain).2
  last := by
    cases t with
    | nil => exact nofun
    | cons b rest => exact h.last

/-- Two such texts put together. -/
theorem Unbroken.append {s t : Text} (hs : s.Unbroken) (ht : t.Unbroken) : (s ++ t).Unbroken where
  chain := by
    refine List.isChain_append.2 ⟨hs.chain, ht.chain, ?_⟩
    rintro a ha b - rfl
    exact absurd ha hs.last
  last := by
    intro h
    rw [List.getLast?_append, Option.or_eq_some_iff] at h
    rcases h with h | ⟨-, h⟩
    · exact ht.last h
    · exact hs.last h

/-- A text with something in front of it, at most one code point of which is a line feed: that does
no harm if the text starts with something else. -/
theorem Unbroken.append_of_short {s t : Text} (hs : lineFeed ∉ s ∨ ∃ c, s = [c]) (ht : t.Unbroken)
    (hhead : ∃ a ∈ t.head?, a ≠ lineFeed) : (s ++ t).Unbroken := by
  rcases hs with hs | ⟨c, rfl⟩
  · exact (unbroken_of_notMem hs).append ht
  · obtain ⟨a, ha, hne⟩ := hhead
    obtain ⟨rest, rfl⟩ := List.head?_eq_some_iff.1 ha
    refine ⟨List.isChain_cons.2 ⟨?_, ht.chain⟩, ht.last⟩
    rintro b ⟨⟩ -
    exact hne

/-- Such texts on lines of their own, none of which is empty or starts with a line feed. -/
theorem Unbroken.joinWith_lineFeed {lines : List Text}
    (h : ∀ line ∈ lines, line.Unbroken ∧ ∃ a ∈ line.head?, a ≠ lineFeed) :
    (joinWith [lineFeed] lines).Unbroken := by
  match lines with
  | [] => exact unbroken_of_notMem List.not_mem_nil
  | [line] => exact (h line List.mem_cons_self).1
  | line :: next :: rest =>
    have hrest := Unbroken.joinWith_lineFeed fun t ht => h t (List.mem_cons_of_mem line ht)
    have hhead : ∃ a ∈ (joinWith [lineFeed] (next :: rest)).head?, a ≠ lineFeed := by
      obtain ⟨-, a, ha, hne⟩ := h next (by simp)
      obtain ⟨more, rfl⟩ := List.head?_eq_some_iff.1 ha
      refine ⟨a, ?_, hne⟩
      cases rest <;> rfl
    rw [joinWith_cons_cons, List.append_assoc]
    exact (h line List.mem_cons_self).1.append
      (hrest.append_of_short (.inr ⟨lineFeed, rfl⟩) hhead)

/-! ## Telling texts apart -/

/-- A text that an empty line may follow has none. -/
theorem Unbroken.cutAtEmptyLines_eq {t : Text} (h : t.Unbroken) : cutAtEmptyLines t = [t] := by
  induction t with
  | nil => rfl
  | cons a t ih => exact cutAtEmptyLines_cons (List.isChain_cons.1 h.chain).1 (ih h.of_cons)

/-- **An empty line ends a text that it may follow.** -/
theorem Unbroken.cutAtEmptyLines_append {s : Text} (h : s.Unbroken) (t : Text) :
    cutAtEmptyLines (s ++ lineFeed :: lineFeed :: t) = s :: cutAtEmptyLines t := by
  induction s with
  | nil => rw [List.nil_append, cutAtEmptyLines, if_pos ⟨rfl, rfl⟩]
  | cons a s ih =>
    refine cutAtEmptyLines_cons ?_ (ih h.of_cons)
    cases s with
    | nil =>
      -- the last code point in front of the empty line
      rintro b - rfl
      exact absurd rfl h.last
    | cons b s => exact (List.isChain_cons.1 h.chain).1

/-- Of three line feeds the first two end a piece, and the third one starts the next. -/
example : cutAtEmptyLines "a\n\n\nb\n\n" = ["a", "\nb", ""] := by decide

/-- **Texts with empty lines in between are told apart.** -/
theorem cutAtEmptyLines_joinWith {texts : List Text} (hne : texts ≠ [])
    (h : ∀ t ∈ texts, t.Unbroken) :
    cutAtEmptyLines (joinWith [lineFeed, lineFeed] texts) = texts := by
  match texts with
  | [] => exact absurd rfl hne
  | [t] => exact (h t List.mem_cons_self).cutAtEmptyLines_eq
  | t :: next :: rest =>
    have hrest := cutAtEmptyLines_joinWith (List.cons_ne_nil next rest) fun s hs =>
      h s (List.mem_cons_of_mem t hs)
    rw [joinWith_cons_cons, List.append_assoc]
    exact ((h t List.mem_cons_self).cutAtEmptyLines_append _).trans (congrArg (t :: ·) hrest)

end HtmlDiagnostics.Text
