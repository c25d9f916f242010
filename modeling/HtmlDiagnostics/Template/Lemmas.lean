import HtmlDiagnostics.Template

/-! # Tokens of a template

* **`tokensAfter_eq_tokens_drop`** — skipping code points is dropping them first.
* **`exists_of_placeholder?`** — the two kinds of placeholder.
* **`eq_written_append_of_placeholder?`** — a placeholder stands at the start of the text it was
  read from, and takes at least one code point there.
* **`flatMap_written_tokens`** — the tokens of a template, written one after the other, are the
  template. -/

namespace HtmlDiagnostics.Template

/-- Skipping code points is dropping them first. -/
theorem tokensAfter_eq_tokens_drop (skip : Nat) (t : Text) :
    tokensAfter skip t = tokens (t.drop skip) := by
  induction t generalizing skip with
  | nil => cases skip <;> rfl
  | cons c rest ih =>
    cases skip with
    | zero => rfl
    | succ n => exact ih n

/-- A direction is read from what it is written as. -/
theorem Sign.eq_written_of_read? {c : CodePoint} {sign : Sign} (h : Sign.read? c = some sign) :
    c = sign.written := by
  rw [Sign.read?] at h
  split at h
  · rename_i hplus
    rw [← Option.some.inj h, hplus]
  · split at h
    · rename_i hminus
      rw [← Option.some.inj h, hminus]
    · cases h

/-- A shift stands at the start of the text it was read from. -/
theorem shift?_eq_some {t : Text} {shift : Shift} (h : shift? t = some shift) :
    ∃ rest, t = shift.written ++ rest := by
  cases t with
  | nil => simp [shift?] at h
  | cons c rest =>
    simp only [shift?] at h
    split at h
    · simp at h
    · rename_i sign hs
      split at h
      · simp at h
      · obtain rfl := Option.some.inj h
        refine ⟨rest.dropWhile CodePoint.isDigit, ?_⟩
        simp [Shift.written, Sign.eq_written_of_read? hs, List.takeWhile_append_dropWhile]

theorem placeholder?_character (rest : Text) :
    placeholder? ("%c" ++ rest) = some (.character (shift? rest)) := rfl

theorem placeholder?_codePoint (rest : Text) : placeholder? ("%x" ++ rest) = some .codePoint := rfl

/-- A placeholder that is read is of one of the two kinds, and its letter stands behind the percent
sign at the start of the text. -/
theorem exists_of_placeholder? {t : Text} {token : Token} (h : placeholder? t = some token) :
    (∃ rest, t = "%c" ++ rest ∧ token = .character (shift? rest)) ∨
      ∃ rest, t = "%x" ++ rest ∧ token = .codePoint := by
  rcases t with _ | ⟨a, _ | ⟨b, rest⟩⟩
  · cases h
  · cases h
  · rw [placeholder?] at h
    split at h
    · rename_i hab
      obtain ⟨rfl, rfl⟩ := hab
      exact .inl ⟨rest, rfl, (Option.some.inj h).symm⟩
    · split at h
      · rename_i hab
        obtain ⟨rfl, rfl⟩ := hab
        exact .inr ⟨rest, rfl, (Option.some.inj h).symm⟩
      · cases h

/-- A placeholder stands at the start of the text it was read from. -/
theorem eq_written_append_of_placeholder? {t : Text} {token : Token}
    (h : placeholder? t = some token) : ∃ rest, t = token.written ++ rest := by
  rcases exists_of_placeholder? h with ⟨rest, rfl, rfl⟩ | ⟨rest, rfl, rfl⟩
  · cases hs : shift? rest with
    | none => exact ⟨rest, rfl⟩
    | some shift =>
      obtain ⟨rest', rfl⟩ := shift?_eq_some hs
      exact ⟨rest', by rw [Token.written, List.append_assoc]⟩
  · exact ⟨rest, rfl⟩

/-- A placeholder is written with at least one code point. -/
theorem written_ne_nil_of_placeholder? {t : Text} {token : Token}
    (h : placeholder? t = some token) : token.written ≠ [] := by
  rcases exists_of_placeholder? h with ⟨rest, -, rfl⟩ | ⟨rest, -, rfl⟩
  · cases shift? rest <;> exact List.cons_ne_nil _ _
  · exact List.cons_ne_nil _ _

/-- One more code point in front of the tokens is one more in front of what is written. -/
theorem flatMap_written_prepend (c : CodePoint) (ts : List Token) :
    (prepend c ts).flatMap Token.written = c :: ts.flatMap Token.written := by
  unfold prepend
  split <;> simp [Token.written]

/-- The tokens of what is left after skipping, written one after the other, are what is left. -/
theorem flatMap_written_tokensAfter (skip : Nat) (t : Text) :
    (tokensAfter skip t).flatMap Token.written = t.drop skip := by
  induction t generalizing skip with
  | nil => cases skip <;> rfl
  | cons c rest ih =>
    cases skip with
    | succ n => exact ih n
    | zero =>
      rw [tokensAfter]
      split
      · rename_i token h
        obtain ⟨rest', hrest⟩ := eq_written_append_of_placeholder? h
        obtain ⟨d, ds, hd⟩ := List.exists_cons_of_ne_nil (written_ne_nil_of_placeholder? h)
        rw [hd, List.cons_append] at hrest
        obtain ⟨rfl, rfl⟩ := List.cons.inj hrest
        simp [ih, hd]
      · simp [flatMap_written_prepend, ih]

/-- Nothing is lost: the tokens of a template, written one after the other, are the template. -/
theorem flatMap_written_tokens (template : Text) :
    (tokens template).flatMap Token.written = template :=
  flatMap_written_tokensAfter 0 template

end HtmlDiagnostics.Template
