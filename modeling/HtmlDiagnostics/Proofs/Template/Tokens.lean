import HtmlDiagnostics.Proofs.Template.Splitting
import Mathlib.Data.List.Chain

/-! # The token sequences of templates

A sequence of tokens can be written down in any order, but not every sequence is found again: two
literals become one, and what follows a placeholder may be taken for a part of it. The sequences
without such neighbours are the ones that templates are cut into, and every template has one of
them.

* **`Token.IsProper`**, **`Token.MayPrecede`** — what is asked of one token and of two neighbours.
* **`Admissible`** — the sequences that are found again.
* **`tokens_induction`** — a template is empty, or it starts with a placeholder, or with a code
  point of a literal.
* **`admissible_tokens`** — the tokens of a template are such a sequence.
* **`tokens_flatMap_written`** — such a sequence is the one of the template that it is written as.
* **`admissible_and_written_iff`** — so every template is the written form of exactly one of
  them. -/

namespace HtmlDiagnostics.Template

/-! ## Sequences that are found again -/

/-- A text in which no placeholder begins. -/
structure LacksPlaceholder (t : Text) : Prop where
  /-- There is no character placeholder. -/
  not_character : ¬("%c" : Text) <:+: t
  /-- There is no code point placeholder. -/
  not_codePoint : ¬("%x" : Text) <:+: t

/-- A token that may stand in a sequence: a literal has text, and none of it looks like a
placeholder; a shift has digits and nothing else behind its sign. -/
def Token.IsProper : Token → Prop
  | .literal text => text ≠ [] ∧ LacksPlaceholder text
  | .character none => True
  | .character (some shift) => shift.digits ≠ [] ∧ ∀ c ∈ shift.digits, c.isDigit = true
  | .codePoint => True

/-- Two tokens that may stand next to each other: literals never do, and a literal behind a
character placeholder does not start with what would become a part of it. -/
def Token.MayPrecede : Token → Token → Prop
  | .literal _, .literal _ => False
  | .character none, .literal text =>
    ∀ (sign : Sign) (c : CodePoint) (rest : Text), text = sign.written :: c :: rest →
      c.isDigit = false
  | .character (some _), .literal text => ∀ c ∈ text.head?, c.isDigit = false
  | _, _ => True

/-- A sequence of tokens that is found again once it has been written. -/
structure Admissible (ts : List Token) : Prop where
  /-- Every token may stand there. -/
  proper : ∀ token ∈ ts, token.IsProper
  /-- Neighbours may stand next to each other. -/
  chain : ts.IsChain Token.MayPrecede

variable {ts : List Token} {token : Token}

/-- A token that reads no place of the source is a literal. -/
theorem exists_eq_literal (h : token.place? = none) : ∃ text, token = .literal text := by
  cases token with
  | literal text => exact ⟨text, rfl⟩
  | character shift => cases shift <;> cases h
  | codePoint => cases h

/-- A placeholder may stand behind every token. -/
theorem Token.mayPrecede_of_place? {next : Token} (h : next.place? ≠ none) :
    token.MayPrecede next := by
  cases next with
  | literal text => exact absurd rfl h
  | character shift => rcases token with _ | (_ | _) | _ <;> exact trivial
  | codePoint => rcases token with _ | (_ | _) | _ <;> exact trivial

/-- What remains of a sequence behind its first token. -/
theorem Admissible.tail (h : Admissible (token :: ts)) : Admissible ts where
  proper t ht := h.proper t (List.mem_cons_of_mem token ht)
  chain := (List.isChain_cons.1 h.chain).2

/-- A sequence with one more token in front. -/
theorem Admissible.cons (h : Admissible ts) (proper : token.IsProper)
    (next : ∀ t ∈ ts.head?, token.MayPrecede t) : Admissible (token :: ts) where
  proper t ht := by
    rcases List.mem_cons.1 ht with rfl | ht
    · exact proper
    · exact h.proper t ht
  chain := List.isChain_cons.2 ⟨next, h.chain⟩

/-! ## Placeholders at the start of a text -/

/-- No placeholder is read exactly if neither kind begins there. -/
theorem placeholder?_eq_none_iff {t : Text} :
    placeholder? t = none ↔ ¬("%c" : Text) <+: t ∧ ¬("%x" : Text) <+: t := by
  constructor
  · intro h
    constructor
    · rintro ⟨rest, rfl⟩
      rw [placeholder?_character] at h
      cases h
    · rintro ⟨rest, rfl⟩
      rw [placeholder?_codePoint] at h
      cases h
  · rintro ⟨hcharacter, hcodePoint⟩
    cases h : placeholder? t with
    | none => rfl
    | some token =>
      rcases exists_of_placeholder? h with ⟨rest, rfl, -⟩ | ⟨rest, rfl, -⟩
      · exact absurd ⟨rest, rfl⟩ hcharacter
      · exact absurd ⟨rest, rfl⟩ hcodePoint

/-- What is read at the start of a text is no literal. -/
theorem place?_ne_none_of_placeholder? {t : Text} (h : placeholder? t = some token) :
    token.place? ≠ none := by
  rcases exists_of_placeholder? h with ⟨rest, -, rfl⟩ | ⟨rest, -, rfl⟩
  · cases shift? rest <;> exact Option.some_ne_none _
  · exact Option.some_ne_none _

/-- A placeholder is written with a percent sign in front. -/
theorem eq_percent_of_head?_written (h : token.place? ≠ none) :
    ∀ c ∈ ((token :: ts).flatMap Token.written).head?, c = CodePoint.percent := by
  have hhead : ((token :: ts).flatMap Token.written).head? = some CodePoint.percent := by
    cases token with
    | literal text => exact absurd rfl h
    | character shift => cases shift <;> rfl
    | codePoint => rfl
  intro c hc
  rw [hhead] at hc
  exact (Option.some.inj hc).symm

/-- The percent sign is no digit and no sign. -/
theorem isDigit_percent : CodePoint.percent.isDigit = false := by decide

theorem read?_percent : Sign.read? CodePoint.percent = none := by decide

/-! ## Shifts at the start of a text -/

/-- Digits are taken up to the first code point that is none. -/
theorem takeWhile_isDigit_append {digits rest : Text} (hdigits : ∀ c ∈ digits, c.isDigit = true)
    (hrest : ∀ c ∈ rest.head?, c.isDigit = false) :
    (digits ++ rest).takeWhile CodePoint.isDigit = digits := by
  rw [List.takeWhile_append_of_pos hdigits]
  cases rest with
  | nil => exact List.append_nil digits
  | cons c rest =>
    rw [List.takeWhile_cons_of_neg (by rw [hrest c rfl]; exact Bool.false_ne_true),
      List.append_nil]

/-- **A shift is read from its written form**, if the digits end with it. -/
theorem shift?_written_append {shift : Shift} (hne : shift.digits ≠ [])
    (hdigits : ∀ c ∈ shift.digits, c.isDigit = true) {rest : Text}
    (hrest : ∀ c ∈ rest.head?, c.isDigit = false) : shift? (shift.written ++ rest) = some shift := by
  rw [Shift.written, List.cons_append, shift?, Sign.read?_written]
  simp only [takeWhile_isDigit_append hdigits hrest, if_neg hne]

/-- **No shift is read** exactly if no digit follows a sign there. -/
theorem shift?_eq_none_iff {t : Text} : shift? t = none ↔
    ∀ (sign : Sign) (c : CodePoint) (rest : Text), t = sign.written :: c :: rest →
      c.isDigit = false := by
  constructor
  · rintro h sign c rest rfl
    rw [shift?, Sign.read?_written] at h
    refine Bool.eq_false_iff.2 fun hc => ?_
    simp only [List.takeWhile_cons_of_pos hc, if_neg (List.cons_ne_nil _ _)] at h
    cases h
  · intro h
    cases t with
    | nil => rfl
    | cons a t =>
      rw [shift?]
      cases hsign : Sign.read? a with
      | none => rfl
      | some sign =>
        obtain rfl := Sign.eq_written_of_read? hsign
        have hnone : t.takeWhile CodePoint.isDigit = [] := by
          cases t with
          | nil => rfl
          | cons c rest =>
            exact List.takeWhile_cons_of_neg (by rw [h sign c rest rfl]; exact Bool.false_ne_true)
        simp only [hnone, if_true]

/-- A shift that is read has digits only, at least one, and no digit follows it. -/
theorem proper_of_shift? {shift : Shift} {rest : Text}
    (h : shift? (shift.written ++ rest) = some shift) :
    (shift.digits ≠ [] ∧ ∀ c ∈ shift.digits, c.isDigit = true) ∧
      ∀ c ∈ rest.head?, c.isDigit = false := by
  rw [Shift.written, List.cons_append, shift?, Sign.read?_written] at h
  simp only at h
  split at h
  · cases h
  · rename_i hne
    have htaken := congrArg Shift.digits (Option.some.inj h)
    simp only at htaken
    have hdigits : ∀ c ∈ shift.digits, c.isDigit = true := by
      rw [← htaken]
      exact List.all_eq_true.1 List.all_takeWhile
    refine ⟨⟨htaken ▸ hne, hdigits⟩, ?_⟩
    intro c hc
    rw [List.takeWhile_append_of_pos hdigits] at htaken
    have hnone := List.append_right_eq_self.1 htaken
    cases rest with
    | nil => cases hc
    | cons d rest =>
      obtain rfl := Option.some.inj hc
      refine Bool.eq_false_iff.2 fun hd => ?_
      -- a digit behind the shift would have been taken as well
      rw [List.takeWhile_cons_of_pos hd] at hnone
      cases hnone

/-! ## Literals at the start of a text -/

/-- One code point is no placeholder. -/
theorem lacksPlaceholder_singleton (c : CodePoint) : LacksPlaceholder [c] where
  not_character h := Nat.not_succ_le_self 1 h.length_le
  not_codePoint h := Nat.not_succ_le_self 1 h.length_le

/-- A text lacks placeholders if none is read at its start and none is behind its first code
point. -/
theorem lacksPlaceholder_cons_iff {c : CodePoint} {t : Text} :
    LacksPlaceholder (c :: t) ↔ placeholder? (c :: t) = none ∧ LacksPlaceholder t := by
  constructor
  · rintro ⟨hcharacter, hcodePoint⟩
    rw [List.infix_cons_iff, not_or] at hcharacter hcodePoint
    exact ⟨placeholder?_eq_none_iff.2 ⟨hcharacter.1, hcodePoint.1⟩, hcharacter.2, hcodePoint.2⟩
  · rintro ⟨hnone, hcharacter, hcodePoint⟩
    obtain ⟨hcharacter', hcodePoint'⟩ := placeholder?_eq_none_iff.1 hnone
    constructor <;> rw [List.infix_cons_iff, not_or]
    · exact ⟨hcharacter', hcharacter⟩
    · exact ⟨hcodePoint', hcodePoint⟩

/-- No placeholder is read where none was read in front of more text. -/
theorem placeholder?_eq_none_of_append {s t : Text} (h : placeholder? (s ++ t) = none) :
    placeholder? s = none := by
  rw [placeholder?_eq_none_iff] at h ⊢
  exact ⟨fun hs => h.1 (hs.trans (List.prefix_append s t)),
    fun hs => h.2 (hs.trans (List.prefix_append s t))⟩

/-- A percent sign behind a literal does not become a part of a placeholder in it. -/
theorem placeholder?_append_eq_none {c : CodePoint} {s t : Text}
    (h : placeholder? (c :: s) = none) (ht : ∀ d ∈ t.head?, d = CodePoint.percent) :
    placeholder? (c :: (s ++ t)) = none := by
  cases s with
  | nil =>
    cases t with
    | nil => exact h
    | cons d t =>
      obtain rfl := ht d rfl
      have hcharacter : CodePoint.percent ≠ 'c' := by decide
      have hcodePoint : CodePoint.percent ≠ 'x' := by decide
      rw [List.nil_append, placeholder?, if_neg fun hd => hcharacter hd.2,
        if_neg fun hd => hcodePoint hd.2]
  | cons d s =>
    rw [placeholder?_eq_none_iff] at h ⊢
    have hfront : ∀ marker : Text, marker.length = 2 → marker <+: c :: (d :: s ++ t) →
        marker <+: c :: d :: s := by
      intro marker hlength hmarker
      have hparts : c :: d :: s <+: c :: (d :: s ++ t) := List.prefix_append (c :: d :: s) t
      refine List.prefix_of_prefix_length_le hmarker hparts ?_
      rw [hlength, List.length_cons, List.length_cons]
      omega
    exact ⟨fun hc => h.1 (hfront _ rfl hc), fun hc => h.2 (hfront _ rfl hc)⟩

/-! ## The tokens of a text, from its start -/

/-- A placeholder is a token of its own, and those of what is behind it follow. -/
theorem tokens_written_append {rest : Text}
    (h : placeholder? (token.written ++ rest) = some token) :
    tokens (token.written ++ rest) = token :: tokens rest := by
  obtain ⟨c, t, hc⟩ := List.exists_cons_of_ne_nil (written_ne_nil_of_placeholder? h)
  rw [hc, List.cons_append] at h ⊢
  rw [tokens, tokensAfter, h]
  simp only [hc, List.length_cons, Nat.add_sub_cancel, tokensAfter_eq_tokens_drop, List.drop_left]

/-- **A template is read from its start**: it is empty, or it starts with a placeholder, or with a
code point that no placeholder begins with. -/
theorem tokens_induction {motive : Text → Prop} (empty : motive [])
    (literal : ∀ c t, placeholder? (c :: t) = none → motive t → motive (c :: t))
    (placeholder : ∀ token rest, placeholder? (token.written ++ rest) = some token →
      motive rest → motive (token.written ++ rest)) (t : Text) : motive t := by
  -- a placeholder takes at least one code point, so what is left is shorter
  induction hn : t.length using Nat.strongRecOn generalizing t with
  | ind n ih =>
    cases t with
    | nil => exact empty
    | cons c t =>
      cases hp : placeholder? (c :: t) with
      | none =>
        refine literal c t hp (ih t.length ?_ t rfl)
        rw [← hn]
        exact Nat.lt_succ_self _
      | some token =>
        obtain ⟨rest, hrest⟩ := eq_written_append_of_placeholder? hp
        have hpos := List.length_pos_of_ne_nil (written_ne_nil_of_placeholder? hp)
        rw [hrest] at hp hn ⊢
        rw [List.length_append] at hn
        exact placeholder token rest hp (ih rest.length (by omega) rest rfl)

/-! ## The tokens of a template are admissible -/

/-- A code point does not join a placeholder. -/
theorem prepend_of_place? (h : token.place? ≠ none) (c : CodePoint) :
    prepend c (token :: ts) = .literal [c] :: token :: ts := by
  cases token with
  | literal text => exact absurd rfl h
  | character shift => rfl
  | codePoint => rfl

/-- One more code point in front of a sequence that was read. -/
theorem Admissible.prepend (h : Admissible ts) {c : CodePoint}
    (hnone : placeholder? (c :: ts.flatMap Token.written) = none) :
    Admissible (Template.prepend c ts) := by
  have hnew : (∀ t ∈ ts.head?, (Token.literal [c]).MayPrecede t) → Admissible (.literal [c] :: ts) :=
    h.cons ⟨List.cons_ne_nil _ _, lacksPlaceholder_singleton c⟩
  cases ts with
  | nil =>
    refine hnew fun t ht => ?_
    cases ht
  | cons next rest =>
    by_cases hplace : next.place? = none
    · -- the code point joins a literal
      obtain ⟨text, rfl⟩ := exists_eq_literal hplace
      obtain ⟨-, hlacks⟩ := h.proper _ List.mem_cons_self
      refine h.tail.cons ⟨List.cons_ne_nil _ _, lacksPlaceholder_cons_iff.2 ⟨?_, hlacks⟩⟩ ?_
      · exact placeholder?_eq_none_of_append (t := rest.flatMap Token.written) hnone
      · intro t ht
        have hnext := (List.isChain_cons.1 h.chain).1 t ht
        cases t with
        | literal other => exact hnext
        | character shift => exact trivial
        | codePoint => exact trivial
    · rw [prepend_of_place? hplace]
      refine hnew fun t ht => ?_
      obtain rfl := Option.some.inj ht
      exact Token.mayPrecede_of_place? hplace

/-- One more placeholder in front of a sequence, which is read before it. -/
theorem Admissible.cons_of_placeholder? (h : Admissible ts)
    (hread : placeholder? (token.written ++ ts.flatMap Token.written) = some token) :
    Admissible (token :: ts) := by
  cases token with
  | literal text => exact absurd rfl (place?_ne_none_of_placeholder? hread)
  | codePoint => exact h.cons trivial fun t _ => by cases t <;> exact trivial
  | character shift =>
    cases shift with
    | none =>
      have hshift : shift? (ts.flatMap Token.written) = none :=
        Token.character.inj (Option.some.inj ((placeholder?_character _).symm.trans hread))
      refine h.cons trivial fun t ht => ?_
      by_cases hplace : t.place? = none
      · obtain ⟨text, rfl⟩ := exists_eq_literal hplace
        obtain ⟨rest, rfl⟩ := List.head?_eq_some_iff.1 ht
        rintro sign c more rfl
        exact shift?_eq_none_iff.1 hshift sign c (more ++ rest.flatMap Token.written) rfl
      · exact Token.mayPrecede_of_place? hplace
    | some shift =>
      have hshift : shift? (shift.written ++ ts.flatMap Token.written) = some shift := by
        rw [Token.written, List.append_assoc, placeholder?_character] at hread
        exact Token.character.inj (Option.some.inj hread)
      obtain ⟨hproper, hnext⟩ := proper_of_shift? hshift
      refine h.cons hproper fun t ht => ?_
      by_cases hplace : t.place? = none
      · obtain ⟨text, rfl⟩ := exists_eq_literal hplace
        obtain ⟨rest, rfl⟩ := List.head?_eq_some_iff.1 ht
        intro c hc
        refine hnext c ?_
        rw [List.flatMap_cons, Token.written, List.head?_append, hc]
        rfl
      · exact Token.mayPrecede_of_place? hplace

/-- **The tokens of a template are admissible.** -/
theorem admissible_tokens (template : Text) : Admissible (tokens template) := by
  induction template using tokens_induction with
  | empty => exact ⟨nofun, .nil⟩
  | literal c t hnone ih =>
    rw [tokens_cons_of_none hnone]
    exact ih.prepend (by rwa [flatMap_written_tokens])
  | placeholder token rest hread ih =>
    rw [tokens_written_append hread]
    exact ih.cons_of_placeholder? (by rwa [flatMap_written_tokens])

/-! ## Admissible tokens are found again -/

/-- What follows a literal is a placeholder, if anything follows it. -/
theorem Admissible.place?_after_literal {text : Text} {next : Token}
    (h : Admissible (.literal text :: next :: ts)) : next.place? ≠ none := by
  intro hplace
  obtain ⟨other, rfl⟩ := exists_eq_literal hplace
  exact (List.isChain_cons.1 h.chain).1 _ rfl

/-- So it starts with a percent sign. -/
theorem Admissible.head?_after_literal {text : Text} (h : Admissible (.literal text :: ts)) :
    ∀ c ∈ (ts.flatMap Token.written).head?, c = CodePoint.percent := by
  cases ts with
  | nil =>
    intro c hc
    cases hc
  | cons next rest => exact eq_percent_of_head?_written h.place?_after_literal

/-- A literal in front of what is no literal is found again. -/
theorem tokens_literal_append {text rest : Text} (hne : text ≠ []) (hlacks : LacksPlaceholder text)
    (hrest : ∀ c ∈ rest.head?, c = CodePoint.percent)
    (hnext : ∀ c, prepend c (tokens rest) = .literal [c] :: tokens rest) :
    tokens (text ++ rest) = .literal text :: tokens rest := by
  induction text with
  | nil => exact absurd rfl hne
  | cons c text ih =>
    obtain ⟨hnone, hlacks⟩ := lacksPlaceholder_cons_iff.1 hlacks
    rw [List.cons_append, tokens_cons_of_none (placeholder?_append_eq_none hnone hrest)]
    cases text with
    | nil => exact hnext c
    | cons d text =>
      rw [ih (List.cons_ne_nil d text) hlacks]
      rfl

/-- A literal takes a sequence in its place that does not start with one. -/
theorem Admissible.prepend_eq {text : Text} (h : Admissible (.literal text :: ts)) (c : CodePoint) :
    Template.prepend c ts = .literal [c] :: ts := by
  cases ts with
  | nil => rfl
  | cons next rest => exact prepend_of_place? h.place?_after_literal c

/-- What admissible tokens are written as starts with a percent sign, if anything, or with a
literal, behind which it goes on in this way. -/
theorem Admissible.head?_or_literal (h : Admissible ts) :
    (∀ c ∈ (ts.flatMap Token.written).head?, c = CodePoint.percent) ∨
      ∃ text rest, ts = .literal text :: rest ∧ text ≠ [] ∧
        ∀ c ∈ (rest.flatMap Token.written).head?, c = CodePoint.percent := by
  cases ts with
  | nil =>
    refine .inl fun c hc => ?_
    cases hc
  | cons next rest =>
    by_cases hplace : next.place? = none
    · obtain ⟨text, rfl⟩ := exists_eq_literal hplace
      exact .inr ⟨text, rest, rfl, (h.proper _ List.mem_cons_self).1, h.head?_after_literal⟩
    · exact .inl (eq_percent_of_head?_written hplace)

/-- **A placeholder in front of admissible tokens is found again.** -/
theorem Admissible.placeholder?_eq (h : Admissible (token :: ts)) (hplace : token.place? ≠ none) :
    placeholder? (token.written ++ ts.flatMap Token.written) = some token := by
  have hnext := (List.isChain_cons.1 h.chain).1
  cases token with
  | literal text => exact absurd rfl hplace
  | codePoint => exact placeholder?_codePoint _
  | character shift =>
    cases shift with
    | none =>
      rw [Token.written, placeholder?_character, shift?_eq_none_iff.2]
      intro sign c more heq
      rcases h.tail.head?_or_literal with hpercent | ⟨text, rest, rfl, hne, hpercent⟩
      · have hsign := hpercent sign.written (by rw [heq]; rfl)
        have hread := Sign.read?_written sign
        rw [hsign, read?_percent] at hread
        cases hread
      · obtain ⟨a, text, rfl⟩ := List.exists_cons_of_ne_nil hne
        cases text with
        | nil =>
          have hmore : rest.flatMap Token.written = c :: more := (List.cons.inj heq).2
          rw [hpercent c (by rw [hmore]; rfl)]
          exact isDigit_percent
        | cons b text =>
          obtain ⟨rfl, hmore⟩ := List.cons.inj heq
          obtain ⟨rfl, -⟩ := List.cons.inj hmore
          exact hnext _ rfl sign b text rfl
    | some shift =>
      obtain ⟨hne, hdigits⟩ := h.proper _ List.mem_cons_self
      rw [Token.written, List.append_assoc, placeholder?_character,
        shift?_written_append hne hdigits]
      intro c hc
      rcases h.tail.head?_or_literal with hpercent | ⟨text, rest, rfl, hne, -⟩
      · rw [hpercent c hc]
        exact isDigit_percent
      · obtain ⟨a, text, rfl⟩ := List.exists_cons_of_ne_nil hne
        exact hnext _ rfl c hc

/-- **Admissible tokens are found again** in the template that they are written as. -/
theorem tokens_flatMap_written (h : Admissible ts) : tokens (ts.flatMap Token.written) = ts := by
  induction ts with
  | nil => rfl
  | cons token ts ih =>
    have ih := ih h.tail
    rw [List.flatMap_cons]
    by_cases hplace : token.place? = none
    · obtain ⟨text, rfl⟩ := exists_eq_literal hplace
      obtain ⟨hne, hlacks⟩ := h.proper _ List.mem_cons_self
      have hfound := tokens_literal_append hne hlacks h.head?_after_literal
        (by rw [ih]; exact h.prepend_eq)
      rw [Token.written, hfound, ih]
    · rw [tokens_written_append (h.placeholder?_eq hplace), ih]

/-- **Every template is the written form of exactly one admissible sequence**, which are its
tokens. -/
theorem admissible_and_written_iff {template : Text} :
    Admissible ts ∧ ts.flatMap Token.written = template ↔ ts = tokens template := by
  constructor
  · rintro ⟨h, rfl⟩
    exact (tokens_flatMap_written h).symm
  · rintro rfl
    exact ⟨admissible_tokens template, flatMap_written_tokens template⟩

end HtmlDiagnostics.Template
