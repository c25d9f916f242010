import HtmlDiagnostics.Proofs.Text.Search

/-! # Lines put together and cut apart

Pieces that lack a separator can be put together with it and be cut apart at it again. When the
separator also stands behind the last piece, every piece brings its own, and the list of the pieces
of two texts is the list of the pieces of one.

* **`Text.breakOn?_singleton`** — breaking a text at a single code point.
* **`Text.cutAt_append_cons`** — a separator ends the piece in front of it.
* **`Text.joinWith_append_separator`** — pieces with a separator at the end.
* **`Text.cutAt_flatMap`** — they are cut apart. -/

namespace HtmlDiagnostics.Text

variable {c : CodePoint} {s : Text}

/-- **A text is broken at a code point** behind the part that lacks it. -/
theorem breakOn?_singleton (hs : c ∉ s) (t : Text) : breakOn? [c] (s ++ c :: t) = some (s, t) := by
  have hparts : s ++ c :: t = s ++ [c] ++ t := by rw [List.append_assoc, List.singleton_append]
  rw [hparts]
  apply breakOn?_eq_some_of_first
  intro p q heq
  -- an earlier occurrence would stand in the part that lacks the code point
  refine Nat.le_of_not_lt fun hlt => hs ?_
  have hat : (s ++ [c] ++ t)[p.length]? = some c := by
    rw [heq, List.append_assoc, List.getElem?_append_right (Nat.le_refl _), Nat.sub_self]
    rfl
  rw [List.append_assoc, List.getElem?_append_left hlt] at hat
  exact List.mem_of_getElem? hat

/-- **A separator ends a piece that lacks it.** -/
theorem cutAt_append_cons (hs : c ∉ s) (t : Text) : cutAt c (s ++ c :: t) = s :: cutAt c t := by
  induction s with
  | nil => rw [List.nil_append, cutAt, if_pos rfl]
  | cons a s ih =>
    rw [List.mem_cons, not_or] at hs
    rw [List.cons_append, cutAt, if_neg (Ne.symm hs.1), ih hs.2]

/-- Pieces with a separator at the end as well: every piece brings a separator. -/
theorem joinWith_append_separator (separator : Text) {pieces : List Text} (hne : pieces ≠ []) :
    joinWith separator pieces ++ separator = pieces.flatMap (· ++ separator) := by
  match pieces with
  | [] => exact absurd rfl hne
  | [piece] => rw [joinWith_singleton, List.flatMap_singleton]
  | piece :: next :: rest =>
    rw [List.flatMap_cons, joinWith_cons_cons, List.append_assoc,
      joinWith_append_separator separator (List.cons_ne_nil next rest)]

/-- **Pieces that bring their separators are cut apart**, with an empty piece at the end. -/
theorem cutAt_flatMap {pieces : List Text} (h : ∀ piece ∈ pieces, c ∉ piece) :
    cutAt c (pieces.flatMap (· ++ [c])) = pieces ++ [[]] := by
  induction pieces with
  | nil => rfl
  | cons piece rest ih =>
    rw [List.flatMap_cons, List.append_assoc, List.singleton_append,
      cutAt_append_cons (h piece List.mem_cons_self),
      ih fun t ht => h t (List.mem_cons_of_mem piece ht), List.cons_append]

end HtmlDiagnostics.Text
