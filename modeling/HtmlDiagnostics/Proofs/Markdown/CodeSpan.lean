import HtmlDiagnostics.Template
import Mathlib.Data.List.Chain

/-! # Code spans in Markdown

A reader of Markdown takes a run of backticks for the start of a code span that reaches to the next
run of the same length. The runs are as long as they can be, so a run of another length in between
belongs to the content. If the content starts and ends with a space, one space on either side is
only there to keep backticks apart and is dropped, unless there is nothing but spaces.

* **`Run`**, **`runs`** — a text cut into backticks and everything else.
* **`Inline`** — what a reader finds: plain text, code spans, and runs that nothing closes.
* **`stripped`** — the content of a span without the spaces that keep backticks apart.
* **`scan`** — what a reader finds in a text.
* **`flatMap_written_runs`**, **`isChain_runs`** — runs make up the text, and are as long as they can
  be.
* **`runs_other_append`**, **`runs_backticks_append`** — where a run ends.
* **`scanRuns_span`**, **`scan_span`** — a span, read with its closing run. -/

namespace HtmlDiagnostics.Markdown

/-! ## Runs -/

/-- A run of a text. -/
inductive Run where
  /-- So many backticks. -/
  | backticks (count : Nat)
  /-- Text without backticks. -/
  | other (text : Text)
  deriving DecidableEq

/-- The text of a run. -/
def Run.written : Run → Text
  | .backticks count => List.replicate count CodePoint.backtick
  | .other text => text

/-- One more code point in front of runs: it joins the first run if that is of its kind. -/
def attach (c : CodePoint) : List Run → List Run
  | .backticks count :: rest =>
    if c = CodePoint.backtick then .backticks (count + 1) :: rest
    else .other [c] :: .backticks count :: rest
  | .other text :: rest =>
    if c = CodePoint.backtick then .backticks 1 :: .other text :: rest
    else .other (c :: text) :: rest
  | [] => if c = CodePoint.backtick then [.backticks 1] else [.other [c]]

/-- The runs of a text, as long as they can be. -/
def runs (t : Text) : List Run := t.foldr attach []

/-! ## Scanning -/

/-- What a reader finds in a text. -/
inductive Inline where
  /-- Plain text. -/
  | text (text : Text)
  /-- A code span with its content. -/
  | code (content : Text)
  /-- A run of backticks that nothing closes. -/
  | unmatched (count : Nat)
  deriving DecidableEq

/-- The space. -/
def space : CodePoint := ' '

/-- The content of a span: if it starts and ends with a space and is not all spaces, one space is
dropped on both sides. -/
def stripped (content : Text) : Text :=
  if content.head? = some space ∧ content.getLast? = some space ∧ ¬content.all (· = space) then
    content.tail.dropLast
  else content

/-- What is found in runs after skipping some of them. The runs of a span are skipped one by one
once the span has been read. -/
def scanAfter : Nat → List Run → List Inline
  | _, [] => []
  | skip + 1, _ :: rest => scanAfter skip rest
  | 0, .other text :: rest => .text text :: scanAfter 0 rest
  | 0, .backticks count :: rest =>
    if .backticks count ∈ rest then
      let inner := rest.takeWhile (· ≠ .backticks count)
      .code (stripped (inner.flatMap Run.written)) :: scanAfter (inner.length + 1) rest
    else .unmatched count :: scanAfter 0 rest

/-- What is found in runs. -/
def scanRuns (rs : List Run) : List Inline := scanAfter 0 rs

/-- What a reader finds in a text. -/
def scan (t : Text) : List Inline := scanRuns (runs t)

/-! ## Where runs end -/

@[simp] theorem runs_nil : runs [] = [] := rfl

@[simp] theorem runs_cons (c : CodePoint) (t : Text) : runs (c :: t) = attach c (runs t) := rfl

/-- Nothing is lost: the runs of a text, one after the other, are the text. -/
theorem flatMap_written_runs (t : Text) : (runs t).flatMap Run.written = t := by
  induction t with
  | nil => rfl
  | cons c rest ih =>
    have hattach : ∀ rs : List Run,
        (attach c rs).flatMap Run.written = c :: rs.flatMap Run.written := by
      intro rs
      unfold attach
      by_cases hc : c = CodePoint.backtick
      · split <;> simp [hc, Run.written, List.replicate_succ]
      · split <;> simp [hc, Run.written]
    rw [runs_cons, hattach, ih]

/-- Whether a run is one of backticks. -/
def Run.isBackticks : Run → Bool
  | .backticks _ => true
  | .other _ => false

/-- Runs are as long as they can be: backticks and other text take turns. -/
theorem isChain_runs (t : Text) :
    (runs t).IsChain fun r next => r.isBackticks ≠ next.isBackticks := by
  induction t with
  | nil => exact .nil
  | cons c rest ih =>
    rw [runs_cons]
    generalize runs rest = rs at ih
    cases rs with
    | nil =>
      rw [attach]
      split <;> exact .singleton _
    | cons first rs =>
      -- the code point joins a run of its kind, or is a new run in front of one of the other kind
      have hrest := List.isChain_cons.1 ih
      cases first with
      | backticks count =>
        rw [attach]
        split
        · exact List.isChain_cons.2 hrest
        · exact ih.cons_cons Bool.false_ne_true
      | other text =>
        rw [attach]
        split
        · exact ih.cons_cons Bool.false_ne_true.symm
        · exact List.isChain_cons.2 hrest

/-- The first run of a text is of the kind of its first code point. -/
theorem head?_runs (t : Text) :
    (∃ count, (runs t).head? = some (.backticks count)) ↔ t.head? = some CodePoint.backtick := by
  cases t with
  | nil => exact ⟨nofun, nofun⟩
  | cons c rest =>
    rw [runs_cons, List.head?_cons, Option.some.injEq]
    -- whatever the next run is, the first one is of the kind of the code point
    generalize runs rest = rs
    unfold attach
    by_cases hc : c = CodePoint.backtick
    · split <;> simp [hc]
    · split <;> simp [hc]

/-- A code point that is no backtick is a run if a backtick follows, or nothing. -/
theorem attach_of_backtick_next {c : CodePoint} (hc : c ≠ CodePoint.backtick) {t : Text}
    (ht : ∀ d ∈ t.head?, d = CodePoint.backtick) : attach c (runs t) = .other [c] :: runs t := by
  cases t with
  | nil => rw [runs_nil, attach, if_neg hc]
  | cons d t =>
    obtain ⟨count, hcount⟩ := (head?_runs (d :: t)).2 (congrArg some (ht d rfl))
    obtain ⟨rest, hrest⟩ := List.head?_eq_some_iff.1 hcount
    rw [hrest, attach, if_neg hc]

/-- **Text without backticks is a run** if it ends at a backtick or with the text. -/
theorem runs_other_append {s t : Text} (hs : s ≠ []) (hfree : CodePoint.backtick ∉ s)
    (ht : ∀ d ∈ t.head?, d = CodePoint.backtick) : runs (s ++ t) = .other s :: runs t := by
  induction s with
  | nil => exact absurd rfl hs
  | cons c s ih =>
    rw [List.mem_cons, not_or] at hfree
    obtain ⟨hc, hfree⟩ := hfree
    rw [List.cons_append, runs_cons]
    cases s with
    | nil => exact attach_of_backtick_next (Ne.symm hc) ht
    | cons d s => rw [ih (List.cons_ne_nil d s) hfree, attach, if_neg (Ne.symm hc)]

/-- **Backticks are a run** if they do not end at another backtick. -/
theorem runs_backticks_append (count : Nat) {t : Text} (ht : t.head? ≠ some CodePoint.backtick) :
    runs (List.replicate (count + 1) CodePoint.backtick ++ t)
      = .backticks (count + 1) :: runs t := by
  induction count with
  | zero =>
    rw [List.replicate_one, List.singleton_append, runs_cons]
    -- the text behind the backtick does not start with another run of backticks
    cases hruns : runs t with
    | nil => rfl
    | cons first rest =>
      cases first with
      | other text => rfl
      | backticks count =>
        exact absurd ((head?_runs t).1 ⟨count, by rw [hruns, List.head?_cons]⟩) ht
  | succ count ih =>
    rw [List.replicate_succ, List.cons_append, runs_cons, ih, attach, if_pos rfl]

/-! ## Reading spans -/

@[simp] theorem scanRuns_nil : scanRuns [] = [] := rfl

@[simp] theorem scanRuns_other (text : Text) (rest : List Run) :
    scanRuns (.other text :: rest) = .text text :: scanRuns rest := rfl

/-- Skipping runs is dropping them first. -/
theorem scanAfter_eq_scanRuns_drop (skip : Nat) (rs : List Run) :
    scanAfter skip rs = scanRuns (rs.drop skip) := by
  induction rs generalizing skip with
  | nil => cases skip <;> rfl
  | cons r rest ih =>
    cases skip with
    | zero => rfl
    | succ skip => exact ih skip

/-- **A span reaches to the next run of the same length.** -/
theorem scanRuns_span {count : Nat} {inner : List Run} (h : Run.backticks count ∉ inner)
    (rest : List Run) :
    scanRuns (.backticks count :: (inner ++ .backticks count :: rest))
      = .code (stripped (inner.flatMap Run.written)) :: scanRuns rest := by
  have hinner : (inner ++ .backticks count :: rest).takeWhile (· ≠ .backticks count) = inner := by
    rw [List.takeWhile_append_of_pos, List.takeWhile_cons_of_neg, List.append_nil]
    · simp only [ne_eq, not_true_eq_false, decide_false, Bool.false_eq_true, not_false_eq_true]
    · intro r hr
      exact decide_eq_true fun heq => h (heq ▸ hr)
  have hmem : Run.backticks count ∈ inner ++ .backticks count :: rest :=
    List.mem_append_cons_self
  rw [scanRuns, scanAfter, if_pos hmem]
  simp only [hinner]
  rw [scanAfter_eq_scanRuns_drop, ← List.drop_drop, List.drop_left]
  rfl

/-- A single code point is never stripped: a space is all there is. -/
theorem stripped_singleton (c : CodePoint) : stripped [c] = [c] := by
  rw [stripped]
  split
  · rename_i h
    obtain ⟨hhead, -, hall⟩ := h
    rw [List.head?_cons, Option.some.injEq] at hhead
    exact absurd (by simp [hhead]) hall
  · rfl

/-- Content that does not start with a space is not stripped. -/
theorem stripped_cons {c : CodePoint} (hc : c ≠ space) (rest : Text) :
    stripped (c :: rest) = c :: rest :=
  if_neg fun h => hc (Option.some.inj h.1)

/-- A backtick before and behind text without backticks make a span. -/
theorem scan_span {content rest : Text} (hcontent : content ≠ [])
    (hfree : CodePoint.backtick ∉ content) (hrest : rest.head? ≠ some CodePoint.backtick) :
    scan (CodePoint.backtick :: (content ++ CodePoint.backtick :: rest))
      = .code (stripped content) :: scan rest := by
  have hopening : (content ++ CodePoint.backtick :: rest).head? ≠ some CodePoint.backtick := by
    obtain ⟨c, content, rfl⟩ := List.exists_cons_of_ne_nil hcontent
    rw [List.cons_append, List.head?_cons]
    intro hc
    exact hfree (Option.some.inj hc ▸ List.mem_cons_self)
  have hruns : runs (CodePoint.backtick :: (content ++ CodePoint.backtick :: rest))
      = .backticks 1 :: ([.other content] ++ .backticks 1 :: runs rest) := by
    have hclosing : runs (CodePoint.backtick :: rest) = .backticks 1 :: runs rest :=
      runs_backticks_append 0 hrest
    have hcontentRun : runs (content ++ CodePoint.backtick :: rest)
        = .other content :: runs (CodePoint.backtick :: rest) :=
      runs_other_append hcontent hfree fun d hd => (Option.some.inj hd).symm
    rw [hclosing] at hcontentRun
    exact (runs_backticks_append 0 hopening).trans (congrArg (Run.backticks 1 :: ·) hcontentRun)
  have hinner : Run.backticks 1 ∉ [Run.other content] := by
    intro h
    cases List.mem_singleton.1 h
  rw [scan, hruns, scanRuns_span hinner, List.flatMap_singleton]
  rfl

end HtmlDiagnostics.Markdown
