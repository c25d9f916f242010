import HtmlDiagnostics.Proofs.Template.Places

/-! # Cutting a template in two

Whether a code point belongs to a placeholder is decided by what stands in front of it and by what
goes on behind it. In front of a code point that no placeholder goes on with, a template can be
cut: the tokens of both parts make up the tokens of the whole, only that a literal at the end of
the one and a literal at the start of the other become one.

* **`glue`** — tokens in front of other tokens, with the literals in the middle joined.
* **`EndsPlaceholder`** — the code points that no placeholder goes on with.
* **`tokens_append`** — the tokens of a template that is cut in front of such a code point.
* **`render_append`**, **`render_cons`** — what is rendered piece by piece.
* **`ReadsInside`** — all placeholders of a template read a place inside the source.
* **`render_of_isPlain`** — a template without placeholders stands for itself. -/

namespace HtmlDiagnostics.Template

/-! ## Tokens in front of tokens -/

/-- Tokens in front of other tokens. The code points of a literal are put in front one by one, so
a literal in the middle joins the one behind it. -/
def glue : List Token → List Token → List Token
  | [], back => back
  | .literal text :: front, back => text.foldr prepend (glue front back)
  | .character shift :: front, back => .character shift :: glue front back
  | .codePoint :: front, back => .codePoint :: glue front back

/-- A code point joins what stands in front before that is put in front of other tokens, or
afterwards. -/
theorem glue_prepend (c : CodePoint) (front back : List Token) :
    glue (prepend c front) back = prepend c (glue front back) := by
  match front with
  | [] => rfl
  | .literal text :: front => rfl
  | .character shift :: front => rfl
  | .codePoint :: front => rfl

/-- A placeholder is no literal, so it stands in front as it is. -/
theorem glue_placeholder {t : Text} {token : Token} (h : placeholder? t = some token)
    (front back : List Token) : glue (token :: front) back = token :: glue front back := by
  rcases exists_of_placeholder? h with ⟨rest, -, rfl⟩ | ⟨rest, -, rfl⟩
  · rfl
  · rfl

/-! ## Where a template can be cut -/

/-- A code point that no placeholder goes on with: it is no letter of a placeholder, and it neither
opens nor continues a shift. -/
structure EndsPlaceholder (c : CodePoint) : Prop where
  /-- It is not the letter of a character placeholder. -/
  not_character : c ≠ CodePoint.ofChar 'c'
  /-- It is not the letter of a code point placeholder. -/
  not_codePoint : c ≠ CodePoint.ofChar 'x'
  /-- It is not the sign of a shift. -/
  not_sign : Sign.read? c = none
  /-- It is not a digit of a shift. -/
  not_digit : c.isDigit = false

/-- A backtick ends a placeholder. -/
theorem endsPlaceholder_of_eq_backtick {c : CodePoint} (hc : c = CodePoint.backtick) :
    EndsPlaceholder c := by
  rw [hc]
  exact ⟨by decide, by decide, by decide, by decide⟩

variable {c : CodePoint}

/-- A shift is the same with such a code point behind it. -/
theorem EndsPlaceholder.shift?_append (hc : EndsPlaceholder c) (s t : Text) :
    shift? (s ++ c :: t) = shift? s := by
  cases s with
  | nil => simp only [List.nil_append, shift?, hc.not_sign]
  | cons a rest =>
    have hdigits : (rest ++ c :: t).takeWhile CodePoint.isDigit
        = rest.takeWhile CodePoint.isDigit := by
      rw [List.takeWhile_append]
      split
      · rename_i hall
        have hnone : (c :: t).takeWhile CodePoint.isDigit = [] :=
          List.takeWhile_cons_of_neg (by rw [hc.not_digit]; exact Bool.false_ne_true)
        rw [hnone, List.append_nil]
        exact ((List.takeWhile_prefix _).eq_of_length hall).symm
      · rfl
    rw [List.cons_append, shift?, shift?, hdigits]

/-- A placeholder is the same with such a code point behind it. -/
theorem EndsPlaceholder.placeholder?_append (hc : EndsPlaceholder c) (a : CodePoint) (s t : Text) :
    placeholder? (a :: (s ++ c :: t)) = placeholder? (a :: s) := by
  cases s with
  | nil =>
    have hsingle : placeholder? [a] = none := rfl
    rw [List.nil_append, hsingle, placeholder?, if_neg fun h => hc.not_character h.2,
      if_neg fun h => hc.not_codePoint h.2]
  | cons b rest => rw [List.cons_append, placeholder?, placeholder?, hc.shift?_append]

/-- The tokens of a template that is cut, after some code points of the first part. -/
theorem EndsPlaceholder.tokensAfter_append (hc : EndsPlaceholder c) (skip : Nat) (s t : Text)
    (hskip : skip ≤ s.length) :
    tokensAfter skip (s ++ c :: t) = glue (tokensAfter skip s) (tokens (c :: t)) := by
  induction s generalizing skip with
  | nil =>
    obtain rfl : skip = 0 := Nat.le_zero.1 hskip
    rfl
  | cons a s ih =>
    cases skip with
    | succ skip => exact ih skip (Nat.le_of_succ_le_succ hskip)
    | zero =>
      rw [List.cons_append, tokensAfter, tokensAfter, hc.placeholder?_append]
      cases hp : placeholder? (a :: s) with
      | none =>
        simp only
        rw [ih 0 (Nat.zero_le _), glue_prepend]
      | some token =>
        -- the placeholder lies within the first part
        obtain ⟨rest, hrest⟩ := eq_written_append_of_placeholder? hp
        have hlength : token.written.length - 1 ≤ s.length := by
          have := congrArg List.length hrest
          simp only [List.length_cons, List.length_append] at this
          omega
        simp only
        rw [ih _ hlength, glue_placeholder hp]

/-- **The tokens of a template that is cut** in front of a code point that ends a placeholder. -/
theorem tokens_append (hc : EndsPlaceholder c) (s t : Text) :
    tokens (s ++ c :: t) = glue (tokens s) (tokens (c :: t)) :=
  hc.tokensAfter_append 0 s t (Nat.zero_le _)

/-- A code point that no placeholder begins with joins the tokens behind it. -/
theorem tokens_cons_of_none {t : Text} (h : placeholder? (c :: t) = none) :
    tokens (c :: t) = prepend c (tokens t) := by
  rw [tokens, tokensAfter, h]
  rfl

/-- So does a code point that is no percent sign. -/
theorem tokens_cons (hc : c ≠ CodePoint.percent) (t : Text) :
    tokens (c :: t) = prepend c (tokens t) := by
  refine tokens_cons_of_none ?_
  cases t with
  | nil => rfl
  | cons b rest => rw [placeholder?, if_neg fun h => hc h.1, if_neg fun h => hc h.1]

/-! ## Rendering in two parts -/

variable {source : Text} {offset : Int}

/-- Tokens are rendered one by one. -/
theorem renderTokens_cons_eq_ok_iff {token : Token} {rest : List Token} {text : Text} :
    renderTokens source offset (token :: rest) = .ok text ↔
      ∃ first more, token.render source offset = .ok first ∧
        renderTokens source offset rest = .ok more ∧ text = first ++ more := by
  rw [renderTokens]
  cases token.render source offset with
  | error e =>
    refine iff_of_false ?_ ?_
    · intro h
      cases h
    · rintro ⟨first, more, h, -⟩
      cases h
  | ok first =>
    cases renderTokens source offset rest with
    | error e =>
      refine iff_of_false ?_ ?_
      · intro h
        cases h
      · rintro ⟨first, more, -, h, -⟩
        cases h
    | ok more =>
      constructor
      · intro h
        exact ⟨first, more, rfl, rfl, (Except.ok.inj h).symm⟩
      · rintro ⟨_, _, ⟨⟩, ⟨⟩, rfl⟩
        rfl

/-- One more code point in front of the tokens is one more in front of what is rendered. -/
theorem renderTokens_prepend (c : CodePoint) {ts : List Token} {text : Text}
    (h : renderTokens source offset ts = .ok text) :
    renderTokens source offset (prepend c ts) = .ok (c :: text) := by
  have hnew : renderTokens source offset (.literal [c] :: ts) = .ok (c :: text) :=
    renderTokens_cons_eq_ok_iff.2 ⟨[c], text, rfl, h, rfl⟩
  match ts with
  | .literal first :: rest =>
    obtain ⟨_, more, hfirst, hmore, rfl⟩ := renderTokens_cons_eq_ok_iff.1 h
    obtain rfl := Except.ok.inj hfirst
    exact renderTokens_cons_eq_ok_iff.2 ⟨c :: first, more, rfl, hmore, rfl⟩
  | [] => exact hnew
  | .character shift :: rest => exact hnew
  | .codePoint :: rest => exact hnew

/-- Several code points in front of the tokens. -/
theorem renderTokens_foldr_prepend (front : Text) {ts : List Token} {text : Text}
    (h : renderTokens source offset ts = .ok text) :
    renderTokens source offset (front.foldr prepend ts) = .ok (front ++ text) := by
  induction front with
  | nil => exact h
  | cons c front ih => exact renderTokens_prepend c ih

/-- Tokens in front of other tokens are rendered in front of them. -/
theorem renderTokens_glue {front back : List Token} {s t : Text}
    (hs : renderTokens source offset front = .ok s)
    (ht : renderTokens source offset back = .ok t) :
    renderTokens source offset (glue front back) = .ok (s ++ t) := by
  induction front generalizing s with
  | nil =>
    obtain rfl := Except.ok.inj hs
    exact ht
  | cons token front ih =>
    obtain ⟨first, more, hfirst, hmore, rfl⟩ := renderTokens_cons_eq_ok_iff.1 hs
    rw [List.append_assoc]
    cases token with
    | literal text =>
      -- a literal joins what stands behind it
      obtain rfl := Except.ok.inj hfirst
      exact renderTokens_foldr_prepend text (ih hmore)
    | character shift => exact renderTokens_cons_eq_ok_iff.2 ⟨_, _, hfirst, ih hmore, rfl⟩
    | codePoint => exact renderTokens_cons_eq_ok_iff.2 ⟨_, _, hfirst, ih hmore, rfl⟩

/-- **A template that is cut** is rendered part by part. -/
theorem render_append {s t a b : Text} (hcut : ∀ c ∈ t.head?, EndsPlaceholder c)
    (hs : render s source offset = .ok a) (ht : render t source offset = .ok b) :
    render (s ++ t) source offset = .ok (a ++ b) := by
  cases t with
  | nil =>
    obtain rfl := Except.ok.inj ht
    rw [List.append_nil, List.append_nil, hs]
  | cons c t =>
    rw [render, tokens_append (hcut c rfl)]
    exact renderTokens_glue hs ht

/-- A code point that is no percent sign is rendered as itself. -/
theorem render_cons (hc : c ≠ CodePoint.percent) {t b : Text}
    (ht : render t source offset = .ok b) : render (c :: t) source offset = .ok (c :: b) := by
  rw [render, tokens_cons hc]
  exact renderTokens_prepend c ht

/-! ## Placeholders inside the source -/

/-- All placeholders of a template read a place inside the source. -/
def ReadsInside (template source : Text) (offset : Int) : Prop :=
  ∀ token ∈ tokens template, ∀ place, token.place? = some place →
    (Text.at? source (offset + place)).isSome

/-- Putting code points in front of tokens leaves the placeholders. -/
theorem mem_foldr_prepend {token : Token} {place : Int} (hplace : token.place? = some place)
    {ts : List Token} (h : token ∈ ts) (text : Text) : token ∈ text.foldr prepend ts := by
  induction text with
  | nil => exact h
  | cons c text ih =>
    rw [List.foldr_cons]
    generalize text.foldr prepend ts = us at ih
    match us with
    | [] => cases ih
    | .literal first :: rest =>
      rcases List.mem_cons.1 ih with rfl | hrest
      · cases hplace
      · exact List.mem_cons_of_mem _ hrest
    | .character shift :: rest => exact List.mem_cons_of_mem _ ih
    | .codePoint :: rest => exact List.mem_cons_of_mem _ ih

/-- Placeholders of either part are placeholders of the whole. -/
theorem mem_glue {token : Token} {place : Int} (hplace : token.place? = some place)
    {front back : List Token} (h : token ∈ front ∨ token ∈ back) : token ∈ glue front back := by
  induction front with
  | nil => exact h.resolve_left List.not_mem_nil
  | cons first front ih =>
    have hrest : token = first ∨ token ∈ glue front back := by
      rcases h with h | h
      · rcases List.mem_cons.1 h with rfl | h
        · exact .inl rfl
        · exact .inr (ih (.inl h))
      · exact .inr (ih (.inr h))
    cases first with
    | literal text =>
      rcases hrest with rfl | hrest
      · cases hplace
      · exact mem_foldr_prepend hplace hrest text
    | character shift => exact List.mem_cons.2 hrest
    | codePoint => exact List.mem_cons.2 hrest

/-- Both parts of a template that is cut read inside the source if the whole does. -/
theorem ReadsInside.of_append {s t : Text} (hcut : ∀ c ∈ t.head?, EndsPlaceholder c)
    (h : ReadsInside (s ++ t) source offset) :
    ReadsInside s source offset ∧ ReadsInside t source offset := by
  cases t with
  | nil =>
    rw [List.append_nil] at h
    exact ⟨h, nofun⟩
  | cons c t =>
    rw [ReadsInside, tokens_append (hcut c rfl)] at h
    constructor
    · intro token ht place hplace
      exact h token (mem_glue hplace (.inl ht)) place hplace
    · intro token ht place hplace
      exact h token (mem_glue hplace (.inr ht)) place hplace

/-- What stands behind a code point that is no percent sign reads inside the source. -/
theorem ReadsInside.of_cons (hc : c ≠ CodePoint.percent) {t : Text}
    (h : ReadsInside (c :: t) source offset) : ReadsInside t source offset := by
  rw [ReadsInside, tokens_cons hc] at h
  intro token ht place hplace
  exact h token (mem_foldr_prepend hplace ht [c]) place hplace

/-! ## Templates without placeholders -/

/-- Whether a template has no placeholders. -/
def isPlain (template : Text) : Bool := (tokens template).all fun token => token.place?.isNone

/-- **A template without placeholders stands for itself.** -/
theorem render_of_isPlain {template : Text} (h : isPlain template = true) (source : Text)
    (offset : Int) : render template source offset = .ok template := by
  suffices ∀ ts : List Token, (ts.all fun token => token.place?.isNone) = true →
      renderTokens source offset ts = .ok (ts.flatMap Token.written) by
    rw [render, this _ h, flatMap_written_tokens]
  intro ts hts
  induction ts with
  | nil => rfl
  | cons token rest ih =>
    rw [List.all_cons, Bool.and_eq_true] at hts
    cases token with
    | literal text => exact renderTokens_cons_eq_ok_iff.2 ⟨text, _, rfl, ih hts.2, rfl⟩
    | character shift => cases shift <;> cases hts.1
    | codePoint => cases hts.1

end HtmlDiagnostics.Template
