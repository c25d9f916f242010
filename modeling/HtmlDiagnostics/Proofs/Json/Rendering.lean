import HtmlDiagnostics.Proofs.Json.Reader
import Mathlib.Tactic.SplitIfs

/-! # Rendered values are JSON texts

What the renderer writes follows the grammar, so it is read back as the value that was rendered.

* **`Json.quoted_renderText`** — a text is rendered as a string that means the text.
* **`Json.spelled_render`** — a value is rendered as the grammar spells it.
* **`Json.isText_render_iff`** — what is rendered spells the value and no other.
* **`Json.read?_render`**, **`Json.render_injective`** — reading undoes rendering.
* **`Json.noControl_render`** — what is rendered holds no control below the space. -/

namespace HtmlDiagnostics.Json

/-! ## Strings -/

/-- The controls without a letter of their own are written with two zeros and two more digits. -/
theorem paddedHex_of_control : ∀ n < 0x20,
    Text.paddedHex 4 n = "00" ++ [Text.digit (n / 16), Text.digit (n % 16)] := by
  decide

/-- Those digits are the number of the control. -/
theorem hexPoint?_of_control : ∀ n < 0x20,
    CodePoint.hexPoint? '0' '0' (Text.digit (n / 16)) (Text.digit (n % 16))
      = CodePoint.ofNat? n := by
  decide

/-- An escape with a letter means the code point that it was written for. -/
theorem written_letter {l c : CodePoint} (h : (l, c) ∈ escapeLetters) :
    ∃ piece : Piece, piece.Written [backslash, l] ∧
      (piece = .point c ∨ piece = .number c ∧ c.isHighSurrogate = false) :=
  ⟨.point c, .letter h, .inl rfl⟩

/-- A code point is written as a piece that means it. The number stands for controls only, so it
never is half of a pair. -/
theorem exists_written_jsonEscaped (c : CodePoint) :
    ∃ piece : Piece, piece.Written c.jsonEscaped ∧
      (piece = .point c ∨ piece = .number c ∧ c.isHighSurrogate = false) := by
  unfold CodePoint.jsonEscaped
  -- seven code points with letters of their own, the other controls, and what stands for itself
  split_ifs with hquote hslash hn hr ht hb hf hcontrol
  · exact hquote ▸ written_letter (by decide)
  · exact hslash ▸ written_letter (by decide)
  · exact hn ▸ written_letter (by decide)
  · exact hr ▸ written_letter (by decide)
  · exact ht ▸ written_letter (by decide)
  · exact hb ▸ written_letter (by decide)
  · exact hf ▸ written_letter (by decide)
  · have hpoint := (hexPoint?_of_control c.val hcontrol).trans (CodePoint.ofNat?_val c)
    have hhigh : c.isHighSurrogate = false := by
      simp only [CodePoint.isHighSurrogate, Bool.and_eq_false_iff, decide_eq_false_iff_not]
      omega
    rw [paddedHex_of_control c.val hcontrol]
    exact ⟨.number c, .number hpoint, .inr ⟨rfl, hhigh⟩⟩
  · exact ⟨.point c, .plain (Nat.not_lt.1 hcontrol) hquote hslash, .inl rfl⟩

/-- A number that is no first half of a pair means its code point. -/
theorem textOf_number {c : CodePoint} (h : c.isHighSurrogate = false) (pieces : List Piece) :
    textOf (.number c :: pieces) = c :: textOf pieces := by
  match pieces with
  | [] => rfl
  | .point d :: rest => rfl
  | .number d :: rest =>
    rw [textOf, h]
    rfl

/-- The code points of a text are written as pieces that mean the text. -/
theorem exists_body (t : Text) :
    ∃ pieces, Body pieces (t.flatMap CodePoint.jsonEscaped) ∧ textOf pieces = t := by
  induction t with
  | nil => exact ⟨[], .nil, rfl⟩
  | cons c t ih =>
    obtain ⟨pieces, hbody, htext⟩ := ih
    obtain ⟨piece, hwritten, hpiece⟩ := exists_written_jsonEscaped c
    refine ⟨piece :: pieces, .cons hwritten hbody, ?_⟩
    rcases hpiece with rfl | ⟨rfl, hhigh⟩
    · rw [textOf, htext]
    · rw [textOf_number hhigh, htext]

/-- A text is rendered as a string that means the text. -/
theorem quoted_renderText (t : Text) : Quoted t (renderText t) := by
  obtain ⟨pieces, hbody, htext⟩ := exists_body t
  have hquoted := Quoted.mk hbody
  rw [htext] at hquoted
  exact hquoted

/-! ## Integers -/

/-- The numeral of a natural number is a run of digits. -/
theorem digits_ofNat (n : Nat) : Digits n (Text.ofNat n) where
  ne_nil := Text.ofNat_ne_nil n
  digits := Text.isAsciiDigit_of_mem_ofNat n
  zero := by
    intro hzero
    rcases Nat.eq_zero_or_pos n with rfl | hn
    · rfl
    · exact absurd hzero (Text.head?_ofNat_ne_zero n (by omega))
  value := Text.readDigits_ofNat n

/-- The numeral of an integer is an integer of the grammar. -/
theorem numeral_ofInt : ∀ n : Int, Numeral n (Text.ofInt n)
  | .ofNat n => .natural (digits_ofNat n)
  | .negSucc n => .negative (digits_ofNat (n + 1))

/-! ## Values -/

/-- No white space is white space. -/
theorem isBlank_nil : IsBlank [] := fun _ hc => absurd hc List.not_mem_nil

/-- A space is white space. -/
theorem isBlank_space : IsBlank " " := by
  have h : ∀ c ∈ Text.ofString " ", c.isJsonBlank = true := by decide
  exact h

/-- Two items and more are rendered with a comma and a space behind the first. -/
theorem renderItems_cons_cons (v next : Json) (rest : List Json) :
    renderItems (v :: next :: rest) = v.render ++ comma :: (" " ++ renderItems (next :: rest)) := by
  rw [renderItems]
  · exact List.append_assoc _ _ _
  · nofun

/-- Two members and more are rendered with a comma and a space behind the first. -/
theorem renderMembers_cons_cons (name : Text) (v : Json) (next : Text × Json)
    (rest : List (Text × Json)) :
    renderMembers ((name, v) :: next :: rest)
      = renderText name ++ colon :: (" " ++ v.render
          ++ comma :: (" " ++ renderMembers (next :: rest))) := by
  rw [renderMembers]
  · simp only [List.append_assoc]
    rfl
  · nofun

mutual

/-- **A value is rendered as the grammar spells it.** -/
theorem spelled_render : ∀ v : Json, Spelled (.value v) v.render
  | .null => by
    rw [render]
    exact .null
  | .bool true => by
    rw [render]
    exact .true
  | .bool false => by
    rw [render]
    exact .false
  | .integer n => by
    rw [render]
    exact .integer (numeral_ofInt n)
  | .text t => by
    rw [render]
    exact .text (quoted_renderText t)
  | .array [] => by
    rw [render, renderItems]
    exact .emptyArray isBlank_nil
  | .array (v :: vs) => by
    rw [render]
    exact .array (spelled_renderItems (v :: vs) (by simp) [] isBlank_nil)
  | .object [] => by
    rw [render, renderMembers]
    exact .emptyObject isBlank_nil
  | .object (m :: ms) => by
    rw [render]
    exact .object (spelled_renderMembers (m :: ms) (by simp) [] isBlank_nil)

/-- The items of a list are rendered as the grammar spells them, behind white space too. -/
theorem spelled_renderItems : ∀ vs : List Json, vs ≠ [] → ∀ w, IsBlank w →
    Spelled (.items vs) (w ++ renderItems vs)
  | [], h, _, _ => absurd rfl h
  | [v], _, w, hw => by
    have hitem := Spelled.item hw (spelled_render v) isBlank_nil
    rw [renderItems]
    rwa [List.append_nil] at hitem
  | v :: next :: rest, _, w, hw => by
    -- the space behind a comma is the white space in front of the next item
    have hmore := spelled_renderItems (next :: rest) (by simp) " " isBlank_space
    have hitems := Spelled.moreItems hw (spelled_render v) isBlank_nil hmore
    rw [renderItems_cons_cons, ← List.append_assoc]
    rwa [List.append_nil] at hitems

/-- The members of an object are rendered as the grammar spells them, behind white space too. -/
theorem spelled_renderMembers : ∀ ms : List (Text × Json), ms ≠ [] → ∀ w, IsBlank w →
    Spelled (.members ms) (w ++ renderMembers ms)
  | [], h, _, _ => absurd rfl h
  | [(name, v)], _, w, hw => by
    have hmember := Spelled.member hw (quoted_renderText name) isBlank_nil isBlank_space
      (spelled_render v) isBlank_nil
    rw [renderMembers, List.append_assoc, ← List.append_assoc w]
    simp only [List.append_nil] at hmember
    exact hmember
  | (name, v) :: next :: rest, _, w, hw => by
    have hmore := spelled_renderMembers (next :: rest) (by simp) " " isBlank_space
    have hmembers := Spelled.moreMembers hw (quoted_renderText name) isBlank_nil isBlank_space
      (spelled_render v) isBlank_nil hmore
    rw [renderMembers_cons_cons, ← List.append_assoc]
    simp only [List.append_nil] at hmembers
    exact hmembers

end

/-- **What is rendered spells the value and no other.** -/
theorem isText_render_iff {v w : Json} : IsText w v.render ↔ w = v := by
  have hv : IsText v v.render := by
    have h := IsText.mk isBlank_nil (spelled_render v) isBlank_nil
    rwa [List.nil_append, List.append_nil] at h
  constructor
  · intro hw
    exact hw.unique hv
  · rintro rfl
    exact hv

/-- Reading undoes rendering. -/
theorem read?_render (v : Json) : read? v.render = some v :=
  read?_of_isText (isText_render_iff.2 rfl)

/-- Different values are rendered differently. -/
theorem render_injective {v w : Json} (h : v.render = w.render) : v = w := by
  have hv : IsText v v.render := isText_render_iff.2 rfl
  rw [h] at hv
  exact isText_render_iff.1 hv

/-! ## No controls -/

/-- Whether no code point of a text is a control below the space. -/
def NoControl (t : Text) : Prop := ∀ c ∈ t, 0x20 ≤ c.val

instance (t : Text) : Decidable (NoControl t) :=
  inferInstanceAs (Decidable (∀ c ∈ t, 0x20 ≤ c.val))

/-- Two texts without controls put together have none. -/
theorem NoControl.append {s t : Text} (hs : NoControl s) (ht : NoControl t) : NoControl (s ++ t) :=
  List.forall_mem_append.2 ⟨hs, ht⟩

/-- A hexadecimal digit is no control. -/
theorem le_val_of_hexValue? {c : CodePoint} {n : Nat} (h : c.hexValue? = some n) :
    0x20 ≤ c.val := by
  unfold CodePoint.hexValue? at h
  split_ifs at h <;> omega

/-- A piece of a string is written without controls. -/
theorem Piece.Written.noControl {piece : Piece} {s : Text} (h : piece.Written s) : NoControl s := by
  cases h with
  | plain control hquote hslash => exact List.forall_mem_singleton.2 control
  | @letter l c h =>
    have hletters : ∀ pair ∈ escapeLetters, NoControl [backslash, pair.1] := by decide
    exact hletters _ h
  | @number a b c d p h =>
    have hmark : NoControl [backslash, 'u'] := by decide
    simp only [CodePoint.hexPoint?, Option.bind_eq_bind, Option.bind_eq_some_iff] at h
    obtain ⟨_, ha, _, hb, _, hc, _, hd, -⟩ := h
    have hdigits : NoControl [a, b, c, d] := by
      simp only [NoControl, List.forall_mem_cons]
      exact ⟨le_val_of_hexValue? ha, le_val_of_hexValue? hb, le_val_of_hexValue? hc,
        le_val_of_hexValue? hd, nofun⟩
    exact hmark.append hdigits

/-- A string is written without controls. -/
theorem Quoted.noControl {t s : Text} (h : Quoted t s) : NoControl s := by
  obtain ⟨hbody⟩ := h
  have hquote : NoControl [quote] := by decide
  refine (hquote.append ?_).append hquote
  induction hbody with
  | nil => nofun
  | cons first rest ih => exact first.noControl.append ih

/-- An integer is written without controls. -/
theorem Numeral.noControl {n : Int} {s : Text} (h : Numeral n s) : NoControl s := by
  have hdigits : ∀ {n : Nat} {s : Text}, Digits n s → NoControl s := by
    intro n s h c hc
    have hdigit := h.digits c hc
    simp only [CodePoint.isAsciiDigit, Bool.and_eq_true, decide_eq_true_eq] at hdigit
    omega
  have hminus : NoControl [minus] := by decide
  cases h with
  | natural h => exact hdigits h
  | negative h => exact hminus.append (hdigits h)

mutual

/-- **A value is rendered without controls.** -/
theorem noControl_render : ∀ v : Json, NoControl v.render
  | .null => by
    rw [render]
    decide
  | .bool true => by
    rw [render]
    decide
  | .bool false => by
    rw [render]
    decide
  | .integer n => by
    rw [render]
    exact (numeral_ofInt n).noControl
  | .text t => by
    rw [render]
    exact (quoted_renderText t).noControl
  | .array vs => by
    rw [render]
    exact ((by decide : NoControl "[").append (noControl_renderItems vs)).append (by decide)
  | .object ms => by
    rw [render]
    exact ((by decide : NoControl "\x7b").append (noControl_renderMembers ms)).append (by decide)

/-- The items of a list are rendered without controls. -/
theorem noControl_renderItems : ∀ vs : List Json, NoControl (renderItems vs)
  | [] => by
    rw [renderItems]
    decide
  | [v] => by
    rw [renderItems]
    exact noControl_render v
  | v :: next :: rest => by
    have hcomma : NoControl ", " := by decide
    rw [renderItems_cons_cons]
    exact (noControl_render v).append (hcomma.append (noControl_renderItems (next :: rest)))

/-- The members of an object are rendered without controls. -/
theorem noControl_renderMembers : ∀ ms : List (Text × Json), NoControl (renderMembers ms)
  | [] => by
    rw [renderMembers]
    decide
  | [(name, v)] => by
    have hcolon : NoControl ": " := by decide
    rw [renderMembers]
    exact ((quoted_renderText name).noControl.append hcolon).append (noControl_render v)
  | (name, v) :: next :: rest => by
    have hcolon : NoControl ": " := by decide
    have hcomma : NoControl ", " := by decide
    have hmore := noControl_renderMembers (next :: rest)
    rw [renderMembers_cons_cons]
    exact (quoted_renderText name).noControl.append
      (hcolon.append ((noControl_render v).append (hcomma.append hmore)))

end

end HtmlDiagnostics.Json
