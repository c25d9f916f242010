import HtmlDiagnostics.Encoding.Newline
import HtmlDiagnostics.Text.Search

/-! # Markers and line ends

A marker without line ends is found in a text at the same place whether the line ends of the text
are unified before or after: what is in front of the marker and what is behind it are unified by
themselves. No line end reaches across the border of a marker.

* **`Newline.IsWithoutLineEnds`** — the texts without line ends.
* **`Newline.dropMarker?_unify`** — a marker at the start of a text.
* **`Newline.breakOn?_unify`** — the first occurrence of a marker. -/

namespace HtmlDiagnostics.Newline

open Text (dropMarker? breakOn?)

/-- A text has no line ends. -/
def IsWithoutLineEnds (t : Text) : Prop := ∀ c ∈ t, c ≠ carriageReturn ∧ c ≠ lineFeed

instance (t : Text) : Decidable (IsWithoutLineEnds t) :=
  inferInstanceAs (Decidable (∀ c ∈ t, c ≠ carriageReturn ∧ c ≠ lineFeed))

/-- A code point that is no carriage return is left as it is. -/
theorem unify_cons_of_ne {c : CodePoint} (h : c ≠ carriageReturn) (t : Text) :
    unify (c :: t) = c :: unify t := by
  cases t with
  | nil => rw [unify_singleton, if_neg h, unify_nil]
  | cons d t => rw [unify, if_neg h]

/-- A carriage return becomes a line feed, unless there is one right behind it. -/
theorem unify_cons_carriageReturn {t : Text} (h : t.head? ≠ some lineFeed) :
    unify (carriageReturn :: t) = lineFeed :: unify t := by
  cases t with
  | nil => rfl
  | cons d t => rw [unify, if_pos rfl, if_neg fun hd => h (congrArg some hd)]

variable {marker : Text}

/-- **A marker at the start** stays there. -/
theorem dropMarker?_unify (h : IsWithoutLineEnds marker) (t : Text) :
    dropMarker? marker (unify t) = (dropMarker? marker t).map unify := by
  induction marker generalizing t with
  | nil => rfl
  | cons m marker ih =>
    obtain ⟨hm, hmarker⟩ := List.forall_mem_cons.1 h
    cases t with
    | nil => rfl
    | cons c t =>
      by_cases hc : c = carriageReturn
      · -- whatever the line end is, the marker begins with something else
        obtain ⟨rest, hrest⟩ : ∃ rest, unify (c :: t) = lineFeed :: rest := by
          rw [hc]
          cases t with
          | nil => exact ⟨_, rfl⟩
          | cons d t =>
            rw [unify, if_pos rfl]
            split <;> exact ⟨_, rfl⟩
        rw [hrest, dropMarker?, dropMarker?, if_neg hm.2, hc, if_neg hm.1, Option.map_none]
      · rw [unify_cons_of_ne hc, dropMarker?, dropMarker?, ih hmarker]
        split <;> rfl

/-- A marker that does not begin with a code point is looked for behind it. -/
theorem breakOn?_cons_of_ne {m c : CodePoint} (h : m ≠ c) (rest t : Text) :
    breakOn? (m :: rest) (c :: t)
      = (breakOn? (m :: rest) t).map fun parts => (c :: parts.1, parts.2) := by
  rw [breakOn?, dropMarker?, if_neg h]

/-- The first occurrence of a marker in a text that starts with no line end. -/
theorem breakOn?_unify_cons {c : CodePoint} (hc : c ≠ carriageReturn) (h : IsWithoutLineEnds marker)
    {t : Text} (ih : breakOn? marker (unify t) = (breakOn? marker t).map (Prod.map unify unify)) :
    breakOn? marker (c :: unify t) = (breakOn? marker (c :: t)).map (Prod.map unify unify) := by
  have hdrop := dropMarker?_unify h (c :: t)
  rw [unify_cons_of_ne hc] at hdrop
  rw [breakOn?, breakOn?, hdrop, ih]
  cases dropMarker? marker (c :: t) with
  | some rest => rfl
  | none =>
    simp only [Option.map_none, Option.map_map]
    congr 1
    funext parts
    exact congrArg (·, unify parts.2) (unify_cons_of_ne hc parts.1).symm

/-- **The first occurrence of a marker** stays where it is, and what is around it is unified by
itself. -/
theorem breakOn?_unify (hne : marker ≠ []) (h : IsWithoutLineEnds marker) (t : Text) :
    breakOn? marker (unify t) = (breakOn? marker t).map (Prod.map unify unify) := by
  obtain ⟨m, rest, rfl⟩ := List.exists_cons_of_ne_nil hne
  obtain ⟨hreturn, hfeed⟩ := h m List.mem_cons_self
  fun_induction unify t with
  | case1 => rfl
  | case2 c =>
    by_cases hc : c = carriageReturn
    · rw [if_pos hc, hc, breakOn?_cons_of_ne hfeed, breakOn?_cons_of_ne hreturn]
      rfl
    · rw [if_neg hc]
      exact breakOn?_unify_cons hc h (t := []) rfl
  | case3 t ih =>
    -- both line ends are passed over
    rw [breakOn?_cons_of_ne hfeed, breakOn?_cons_of_ne hreturn, breakOn?_cons_of_ne hfeed, ih]
    simp only [Option.map_map]
    rfl
  | case4 b t hb ih =>
    rw [breakOn?_cons_of_ne hfeed, breakOn?_cons_of_ne hreturn, ih]
    cases hbreak : breakOn? (m :: rest) (b :: t) with
    | none => rfl
    | some parts =>
      -- what is in front of the marker begins with `b`, if with anything
      have hhead : parts.1.head? ≠ some lineFeed := by
        have heq := Text.eq_of_breakOn? hbreak
        intro hhead
        obtain ⟨before, hbefore⟩ := List.head?_eq_some_iff.1 hhead
        rw [hbefore] at heq
        exact hb (List.cons.inj heq).1
      exact congrArg some (congrArg (·, unify parts.2) (unify_cons_carriageReturn hhead).symm)
  | case5 a b t ha ih => exact breakOn?_unify_cons ha h ih

end HtmlDiagnostics.Newline
