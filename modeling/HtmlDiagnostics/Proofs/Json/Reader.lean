import HtmlDiagnostics.Proofs.Json.Grammar
import HtmlDiagnostics.Text.Search

/-! # Reading JSON texts

A reader for the grammar, one token of look-ahead, and the proof that it reads every text of the
grammar as the value that the text spells. So no text spells two values.

* **`Json.readPieces`**, **`Json.readString`** — a string, behind its opening quote.
* **`Json.readInteger`** — an integer.
* **`Json.readValue`**, **`Json.readItems`**, **`Json.readMembers`** — a value and what it is made
  of, each with what follows it, in a bounded number of steps.
* **`Json.read?`** — a whole text.
* **`Json.readBack_of_spelled`** — every part of a text is read, if the steps suffice.
* **`Json.read?_of_isText`** — every text of the grammar is read.
* **`Json.IsText.unique`** — and spells one value only. -/

namespace HtmlDiagnostics.Json

/-! ## The reader -/

/-- The text without the white space in front of it. -/
def skipBlank (t : Text) : Text := t.dropWhile CodePoint.isJsonBlank

/-- The code point that a letter behind a backslash means. -/
def escapeOf? (l : CodePoint) : Option CodePoint :=
  (escapeLetters.find? fun pair => pair.1 = l).map Prod.snd

/-- One more piece in front of those that were read. -/
def withPiece (piece : Piece) (read : List Piece × Text) : List Piece × Text :=
  (piece :: read.1, read.2)

/-- The pieces of a string up to its closing quote, and what follows the quote. -/
def readPieces : Text → Option (List Piece × Text)
  | [] => none
  | c :: rest =>
    if c = quote then some ([], rest)
    else if c = backslash then
      match rest with
      | [] => none
      | l :: rest =>
        if l = 'u' then
          match rest with
          | a :: b :: c :: d :: rest =>
            match CodePoint.hexPoint? a b c d with
            | some p => (readPieces rest).map (withPiece (.number p))
            | none => none
          | _ => none
        else
          match escapeOf? l with
          | some c => (readPieces rest).map (withPiece (.point c))
          | none => none
    else if c.val < 0x20 then none
    else (readPieces rest).map (withPiece (.point c))

/-- A string behind its opening quote, and what follows it. -/
def readString (t : Text) : Option (Text × Text) :=
  (readPieces t).map fun read => (textOf read.1, read.2)

/-- A run of digits without needless zeros, and what follows it. -/
def readNatural (t : Text) : Option (Nat × Text) :=
  let s := t.takeWhile CodePoint.isAsciiDigit
  if s = [] ∨ s.head? = some (CodePoint.ofChar '0') ∧ s ≠ [CodePoint.ofChar '0'] then none
  else some (Text.readDigits s, t.dropWhile CodePoint.isAsciiDigit)

/-- An integer and what follows it. -/
def readInteger : Text → Option (Int × Text)
  | [] => none
  | c :: rest =>
    if c = minus then (readNatural rest).map fun read => (-read.1, read.2)
    else (readNatural (c :: rest)).map fun read => (read.1, read.2)

/-- A value without parts and what follows it. -/
def readScalar (t : Text) : Option (Json × Text) :=
  match Text.dropMarker? "null" t with
  | some rest => some (.null, rest)
  | none =>
    match Text.dropMarker? "true" t with
    | some rest => some (.bool true, rest)
    | none =>
      match Text.dropMarker? "false" t with
      | some rest => some (.bool false, rest)
      | none => (readInteger t).map fun read => (.integer read.1, read.2)

/-- The name of a member with the colon behind it, and what follows them. -/
def readName (t : Text) : Option (Text × Text) := do
  let opened ← Text.dropMarker? [quote] (skipBlank t)
  let (name, behind) ← readString opened
  let rest ← Text.dropMarker? [colon] (skipBlank behind)
  return (name, rest)

mutual

/-- A value at the start of a text and what follows it, in a bounded number of steps. -/
def readValue : Nat → Text → Option (Json × Text)
  | 0, _ => none
  | _ + 1, [] => none
  | fuel + 1, c :: rest =>
    if c = quote then (readString rest).map fun read => (.text read.1, read.2)
    else if c = openList then
      match Text.dropMarker? [closeList] (skipBlank rest) with
      | some rest => some (.array [], rest)
      | none => (readItems fuel rest).map fun read => (.array read.1, read.2)
    else if c = openObject then
      match Text.dropMarker? [closeObject] (skipBlank rest) with
      | some rest => some (.object [], rest)
      | none => (readMembers fuel rest).map fun read => (.object read.1, read.2)
    else readScalar (c :: rest)

/-- The items of a list, at least one, up to the end of the list, and what follows it. -/
def readItems : Nat → Text → Option (List Json × Text)
  | 0, _ => none
  | fuel + 1, t =>
    match readValue fuel (skipBlank t) with
    | none => none
    | some (v, rest) =>
      match skipBlank rest with
      | [] => none
      | c :: rest =>
        if c = comma then (readItems fuel rest).map fun read => (v :: read.1, read.2)
        else if c = closeList then some ([v], rest)
        else none

/-- The members of an object, at least one, up to the end of the object, and what follows it. -/
def readMembers : Nat → Text → Option (List (Text × Json) × Text)
  | 0, _ => none
  | fuel + 1, t =>
    match readName t with
    | none => none
    | some (name, rest) =>
      match readValue fuel (skipBlank rest) with
      | none => none
      | some (v, rest) =>
        match skipBlank rest with
        | [] => none
        | c :: rest =>
          if c = comma then
            (readMembers fuel rest).map fun read => ((name, v) :: read.1, read.2)
          else if c = closeObject then some ([(name, v)], rest)
          else none

end

/-- The value that a JSON text spells. -/
def read? (t : Text) : Option Json :=
  match readValue (2 * t.length) (skipBlank t) with
  | none => none
  | some (v, rest) => if skipBlank rest = [] then some v else none

/-! ## White space -/

/-- White space in front of a text is skipped. -/
theorem skipBlank_append {w : Text} (h : IsBlank w) (t : Text) :
    skipBlank (w ++ t) = skipBlank t :=
  List.dropWhile_append_of_pos h

/-- Nothing is skipped in front of a mark. -/
theorem skipBlank_cons {c : CodePoint} (h : c.isJsonBlank = false) (t : Text) :
    skipBlank (c :: t) = c :: t := by
  rw [skipBlank, List.dropWhile_cons, h]
  rfl

/-- White space is skipped up to a mark. -/
theorem skipBlank_append_cons {w : Text} (hw : IsBlank w) {c : CodePoint}
    (hc : c.isJsonBlank = false) (t : Text) : skipBlank (w ++ c :: t) = c :: t := by
  rw [skipBlank_append hw, skipBlank_cons hc]

/-- White space is skipped to its end. -/
theorem skipBlank_of_isBlank {w : Text} (h : IsBlank w) : skipBlank w = [] := by
  rw [← List.append_nil w, skipBlank_append h]
  rfl

/-! ## Strings -/

/-- The closing quote ends a string. -/
theorem readPieces_quote (t : Text) : readPieces (quote :: t) = some ([], t) := by
  rw [readPieces.eq_def]
  exact if_pos rfl

/-- A code point that stands for itself. -/
theorem readPieces_cons {c : CodePoint} (hquote : c ≠ quote) (hslash : c ≠ backslash)
    (control : 0x20 ≤ c.val) (t : Text) :
    readPieces (c :: t) = (readPieces t).map (withPiece (.point c)) := by
  rw [readPieces.eq_def]
  exact (if_neg hquote).trans ((if_neg hslash).trans (if_neg (Nat.not_lt.2 control)))

/-- A letter behind a backslash. -/
theorem readPieces_letter {l c : CodePoint} (hl : l ≠ CodePoint.ofChar 'u')
    (hc : escapeOf? l = some c) (t : Text) :
    readPieces (backslash :: l :: t) = (readPieces t).map (withPiece (.point c)) := by
  have hquote : backslash ≠ quote := by decide
  rw [readPieces.eq_def]
  simp only [if_neg hquote, if_pos, if_neg hl, hc]

/-- A number behind a backslash. -/
theorem readPieces_number {a b c d p : CodePoint} (h : CodePoint.hexPoint? a b c d = some p)
    (t : Text) :
    readPieces (backslash :: 'u' :: a :: b :: c :: d :: t)
      = (readPieces t).map (withPiece (.number p)) := by
  have hquote : backslash ≠ quote := by decide
  rw [readPieces.eq_def]
  simp only [if_neg hquote, if_pos, h]

/-- The letters behind a backslash are read as what they mean. -/
theorem escapeOf?_of_mem : ∀ pair ∈ escapeLetters,
    pair.1 ≠ CodePoint.ofChar 'u' ∧ escapeOf? pair.1 = some pair.2 := by
  decide

/-- A piece is read off the front of a string. -/
theorem readPieces_of_written {piece : Piece} {s : Text} (h : piece.Written s) (t : Text) :
    readPieces (s ++ t) = (readPieces t).map (withPiece piece) := by
  cases h with
  | plain control hquote hslash => exact readPieces_cons hquote hslash control t
  | letter h =>
    obtain ⟨hl, hc⟩ := escapeOf?_of_mem _ h
    exact readPieces_letter hl hc t
  | number h => exact readPieces_number h t

/-- A string is read up to its closing quote. -/
theorem readPieces_of_body {pieces : List Piece} {body : Text} (h : Body pieces body) (t : Text) :
    readPieces (body ++ quote :: t) = some (pieces, t) := by
  induction h with
  | nil => exact readPieces_quote t
  | cons first rest ih =>
    rw [List.append_assoc, readPieces_of_written first, ih]
    rfl

/-- A string behind its opening quote is read as the text that it means. -/
theorem exists_of_quoted {t s : Text} (h : Quoted t s) :
    ∃ body, s = quote :: body ∧ ∀ rest, readString (body ++ rest) = some (t, rest) := by
  cases h with
  | @mk pieces body h =>
    refine ⟨body ++ [quote], rfl, fun rest => ?_⟩
    rw [readString, List.append_assoc, List.singleton_append, readPieces_of_body h]
    rfl

/-! ## Integers -/

/-- Whether a text goes on with something else than a digit. -/
def NoDigitNext (t : Text) : Prop := ∀ c ∈ t.head?, c.isAsciiDigit = false

/-- A run of digits is read to its end. -/
theorem readNatural_of_digits {n : Nat} {s : Text} (h : Digits n s) {rest : Text}
    (hrest : NoDigitNext rest) : readNatural (s ++ rest) = some (n, rest) := by
  have hstop : rest.takeWhile CodePoint.isAsciiDigit = [] ∧
      rest.dropWhile CodePoint.isAsciiDigit = rest := by
    cases rest with
    | nil => exact ⟨rfl, rfl⟩
    | cons c rest =>
      have hc : c.isAsciiDigit = false := hrest c rfl
      rw [List.takeWhile_cons, List.dropWhile_cons, hc]
      exact ⟨rfl, rfl⟩
  have htake : (s ++ rest).takeWhile CodePoint.isAsciiDigit = s := by
    rw [List.takeWhile_append_of_pos h.digits, hstop.1, List.append_nil]
  have hdrop : (s ++ rest).dropWhile CodePoint.isAsciiDigit = rest := by
    rw [List.dropWhile_append_of_pos h.digits, hstop.2]
  rw [readNatural, htake, hdrop, if_neg, h.value]
  -- neither no digit at all nor a needless zero
  rintro (hnil | ⟨hzero, hmore⟩)
  · exact h.ne_nil hnil
  · exact hmore (h.zero hzero)

/-- An integer starts with a digit or a hyphen. -/
theorem exists_of_numeral {n : Int} {s : Text} (h : Numeral n s) :
    ∃ c t, s = c :: t ∧ (c.isAsciiDigit = true ∨ c = minus) := by
  cases h with
  | natural h =>
    obtain ⟨c, t, rfl⟩ := List.exists_cons_of_ne_nil h.ne_nil
    exact ⟨c, t, rfl, .inl (h.digits c List.mem_cons_self)⟩
  | negative h => exact ⟨_, _, rfl, .inr rfl⟩

/-- An integer is read to its end. -/
theorem readInteger_of_numeral {n : Int} {s : Text} (h : Numeral n s) {rest : Text}
    (hrest : NoDigitNext rest) : readInteger (s ++ rest) = some (n, rest) := by
  cases h with
  | natural h =>
    obtain ⟨c, t, rfl⟩ := List.exists_cons_of_ne_nil h.ne_nil
    have hc : c ≠ minus := by
      rintro rfl
      exact absurd (h.digits minus List.mem_cons_self) (by decide)
    rw [List.cons_append, readInteger, if_neg hc, ← List.cons_append,
      readNatural_of_digits h hrest]
    rfl
  | negative h =>
    rw [List.cons_append, readInteger, if_pos rfl, readNatural_of_digits h hrest]
    rfl

/-! ## The start of a value -/

/-- A marker is not found where another code point stands. -/
theorem dropMarker?_of_ne {m c : CodePoint} (h : m ≠ c) (marker t : Text) :
    Text.dropMarker? (m :: marker) (c :: t) = none :=
  if_neg h

/-- The marks and letters that other tokens start with. -/
def startMarks : Text :=
  [quote, openList, closeList, openObject, closeObject, 'n', 't', 'f', ' ', '\t', '\n', '\r']

/-- No digit and no hyphen starts another token. -/
theorem not_mem_startMarks {c : CodePoint} (h : c.isAsciiDigit = true ∨ c = minus) :
    c ∉ startMarks := by
  have hmarks : ∀ m ∈ startMarks, m.isAsciiDigit = false ∧ m ≠ minus := by decide
  intro hc
  obtain ⟨hdigit, hminus⟩ := hmarks c hc
  rcases h with h | h
  · rw [hdigit] at h
    cases h
  · exact hminus h

/-- White space is one of four code points. -/
theorem mem_startMarks_of_isJsonBlank {c : CodePoint} (h : c.isJsonBlank = true) :
    c ∈ startMarks := by
  have hval : c.val = 0x20 ∨ c.val = 0x09 ∨ c.val = 0x0A ∨ c.val = 0x0D := by
    simpa [CodePoint.isJsonBlank, or_assoc] using h
  have hc : c = CodePoint.ofChar ' ' ∨ c = CodePoint.ofChar '\t' ∨ c = CodePoint.ofChar '\n' ∨
      c = CodePoint.ofChar '\r' :=
    hval.imp CodePoint.ext (.imp CodePoint.ext (.imp CodePoint.ext CodePoint.ext))
  rcases hc with rfl | rfl | rfl | rfl <;> decide

/-- A value starts with something else than white space and the end of a list. -/
theorem exists_of_spelled_value {v : Json} {s : Text} (h : Spelled (.value v) s) :
    ∃ c t, s = c :: t ∧ c.isJsonBlank = false ∧ c ≠ closeList := by
  cases h with
  | null => exact ⟨'n', "ull", rfl, by decide, by decide⟩
  | true => exact ⟨'t', "rue", rfl, by decide, by decide⟩
  | false => exact ⟨'f', "alse", rfl, by decide, by decide⟩
  | integer h =>
    obtain ⟨c, t, rfl, hc⟩ := exists_of_numeral h
    have hmark := not_mem_startMarks hc
    refine ⟨c, t, rfl, ?_, ?_⟩
    · exact Bool.eq_false_iff.2 (mt mem_startMarks_of_isJsonBlank hmark)
    · rintro rfl
      exact hmark (by decide)
  | text h =>
    obtain ⟨body, rfl, -⟩ := exists_of_quoted h
    exact ⟨quote, body, rfl, by decide, by decide⟩
  | emptyArray => exact ⟨openList, _, rfl, by decide, by decide⟩
  | array => exact ⟨openList, _, rfl, by decide, by decide⟩
  | emptyObject => exact ⟨openObject, _, rfl, by decide, by decide⟩
  | object => exact ⟨openObject, _, rfl, by decide, by decide⟩

/-- White space in front of a value is skipped, and no more than that. -/
theorem skipBlank_value {w s : Text} {v : Json} (hw : IsBlank w) (h : Spelled (.value v) s)
    (t : Text) : skipBlank (w ++ (s ++ t)) = s ++ t := by
  obtain ⟨c, rest, rfl, hc, -⟩ := exists_of_spelled_value h
  exact skipBlank_append_cons hw hc (rest ++ t)

/-- Behind white space, a list with items does not end. -/
theorem dropMarker?_closeList_items {vs : List Json} {s : Text} (h : Spelled (.items vs) s)
    (t : Text) : Text.dropMarker? [closeList] (skipBlank (s ++ t)) = none := by
  cases h with
  | item hbefore h hafter =>
    obtain ⟨c, rest, hs, -, hc⟩ := exists_of_spelled_value h
    rw [List.append_assoc, List.append_assoc, skipBlank_value hbefore h, hs]
    exact dropMarker?_of_ne hc.symm _ _
  | moreItems hbefore h hafter hmore =>
    obtain ⟨c, rest, hs, -, hc⟩ := exists_of_spelled_value h
    simp only [List.append_assoc]
    rw [skipBlank_value hbefore h, hs]
    exact dropMarker?_of_ne hc.symm _ _

/-- Behind white space, an object with members does not end: a name starts there. -/
theorem skipBlank_members {ms : List (Text × Json)} {s : Text} (h : Spelled (.members ms) s)
    (t : Text) : ∃ rest, skipBlank (s ++ t) = quote :: rest := by
  have hquote : ∀ {w key name : Text}, IsBlank w → Quoted name key → ∀ t,
      ∃ rest, skipBlank (w ++ (key ++ t)) = quote :: rest := by
    intro w key name hw hname t
    obtain ⟨body, rfl, -⟩ := exists_of_quoted hname
    exact ⟨body ++ t, skipBlank_append_cons hw (by decide) (body ++ t)⟩
  cases h with
  | member hbefore hname hcolon hcolon' h hafter =>
    simp only [List.append_assoc]
    exact hquote hbefore hname _
  | moreMembers hbefore hname hcolon hcolon' h hafter hmore =>
    simp only [List.append_assoc]
    exact hquote hbefore hname _

/-! ## Values without parts -/

/-- A mark is no digit. -/
theorem noDigitNext_cons {m : CodePoint} (hm : m.isAsciiDigit = false) (t : Text) :
    NoDigitNext (m :: t) := by
  intro c hc
  obtain rfl : m = c := Option.some.inj hc
  exact hm

/-- White space keeps digits away. -/
theorem noDigitNext_append {w t : Text} (hw : IsBlank w) (ht : NoDigitNext t) :
    NoDigitNext (w ++ t) := by
  cases w with
  | nil => exact ht
  | cons c w =>
    have hmark : c ∈ startMarks := mem_startMarks_of_isJsonBlank (hw c List.mem_cons_self)
    have hdigit : c.isAsciiDigit = false :=
      Bool.eq_false_iff.2 fun hdigit => not_mem_startMarks (.inl hdigit) hmark
    exact noDigitNext_cons hdigit (w ++ t)

/-- An integer is none of the three words. -/
theorem readScalar_of_numeral {n : Int} {s : Text} (h : Numeral n s) {rest : Text}
    (hrest : NoDigitNext rest) : readScalar (s ++ rest) = some (.integer n, rest) := by
  obtain ⟨c, t, hs, hc⟩ := exists_of_numeral h
  have hmark : ∀ m ∈ startMarks, m ≠ c := by
    rintro m hm rfl
    exact not_mem_startMarks hc hm
  -- the first code point tells it from each word
  have hnull : Text.dropMarker? "null" (s ++ rest) = none :=
    hs ▸ dropMarker?_of_ne (hmark 'n' (by decide)) "ull" (t ++ rest)
  have htrue : Text.dropMarker? "true" (s ++ rest) = none :=
    hs ▸ dropMarker?_of_ne (hmark 't' (by decide)) "rue" (t ++ rest)
  have hfalse : Text.dropMarker? "false" (s ++ rest) = none :=
    hs ▸ dropMarker?_of_ne (hmark 'f' (by decide)) "alse" (t ++ rest)
  simp only [readScalar, hnull, htrue, hfalse]
  rw [readInteger_of_numeral h hrest]
  rfl

/-! ## One step of the reader -/

/-- What reading a part of a text has to give in a number of steps, whatever follows the part. -/
def Phrase.ReadBack (fuel : Nat) (s : Text) : Phrase → Prop
  | .value v => ∀ rest, NoDigitNext rest → readValue fuel (s ++ rest) = some (v, rest)
  | .items vs => ∀ rest, readItems fuel (s ++ closeList :: rest) = some (vs, rest)
  | .members ms => ∀ rest, readMembers fuel (s ++ closeObject :: rest) = some (ms, rest)

/-- Without a quote or a bracket, a value has no parts. -/
theorem readValue_scalar {c : CodePoint} (hquote : c ≠ quote) (hlist : c ≠ openList)
    (hobject : c ≠ openObject) (fuel : Nat) (t : Text) :
    readValue (fuel + 1) (c :: t) = readScalar (c :: t) := by
  rw [readValue, if_neg hquote, if_neg hlist, if_neg hobject]

/-- Behind the opening mark of a list comes its end or an item. -/
theorem readValue_openList (fuel : Nat) (t : Text) :
    readValue (fuel + 1) (openList :: t)
      = match Text.dropMarker? [closeList] (skipBlank t) with
        | some rest => some (.array [], rest)
        | none => (readItems fuel t).map fun read => (.array read.1, read.2) := by
  have hquote : openList ≠ quote := by decide
  rw [readValue, if_neg hquote, if_pos rfl]

/-- Behind the opening mark of an object comes its end or a member. -/
theorem readValue_openObject (fuel : Nat) (t : Text) :
    readValue (fuel + 1) (openObject :: t)
      = match Text.dropMarker? [closeObject] (skipBlank t) with
        | some rest => some (.object [], rest)
        | none => (readMembers fuel t).map fun read => (.object read.1, read.2) := by
  have hquote : openObject ≠ quote := by decide
  have hlist : openObject ≠ openList := by decide
  rw [readValue, if_neg hquote, if_neg hlist, if_pos rfl]

/-- An integer is read in one step. -/
theorem readBack_integer {n : Int} {s : Text} (h : Numeral n s) (fuel : Nat) :
    Phrase.ReadBack (fuel + 1) s (.value (.integer n)) := by
  intro rest hrest
  rw [← readScalar_of_numeral h hrest]
  obtain ⟨c, t, rfl, hc⟩ := exists_of_numeral h
  have hmark : ∀ m ∈ startMarks, c ≠ m := by
    rintro m hm rfl
    exact not_mem_startMarks hc hm
  exact readValue_scalar (hmark quote (by decide)) (hmark openList (by decide))
    (hmark openObject (by decide)) fuel _

/-- A string is read in one step. -/
theorem readBack_text {t s : Text} (h : Quoted t s) (fuel : Nat) :
    Phrase.ReadBack (fuel + 1) s (.value (.text t)) := by
  intro rest _
  obtain ⟨body, rfl, hbody⟩ := exists_of_quoted h
  rw [List.cons_append, readValue, if_pos rfl, hbody]
  rfl

/-- A list without items is read in one step. -/
theorem readBack_emptyArray {w : Text} (hw : IsBlank w) (fuel : Nat) :
    Phrase.ReadBack (fuel + 1) (openList :: w ++ [closeList]) (.value (.array [])) := by
  intro rest _
  have hend : Text.dropMarker? [closeList] (closeList :: rest) = some rest :=
    Text.dropMarker?_eq_some_iff.2 rfl
  rw [List.append_assoc, List.cons_append, List.singleton_append, readValue_openList,
    skipBlank_append_cons hw (by decide), hend]

/-- A list of items is read in one step more than its items. -/
theorem readBack_array {vs : List Json} {s : Text} (h : Spelled (.items vs) s) {fuel : Nat}
    (hitems : Phrase.ReadBack fuel s (.items vs)) :
    Phrase.ReadBack (fuel + 1) (openList :: s ++ [closeList]) (.value (.array vs)) := by
  intro rest _
  have hopen := dropMarker?_closeList_items h (closeList :: rest)
  have hread := hitems rest
  rw [List.append_assoc, List.cons_append, List.singleton_append, readValue_openList, hopen]
  simp only [hread, Option.map_some]

/-- An object without members is read in one step. -/
theorem readBack_emptyObject {w : Text} (hw : IsBlank w) (fuel : Nat) :
    Phrase.ReadBack (fuel + 1) (openObject :: w ++ [closeObject]) (.value (.object [])) := by
  intro rest _
  have hend : Text.dropMarker? [closeObject] (closeObject :: rest) = some rest :=
    Text.dropMarker?_eq_some_iff.2 rfl
  rw [List.append_assoc, List.cons_append, List.singleton_append, readValue_openObject,
    skipBlank_append_cons hw (by decide), hend]

/-- An object with members is read in one step more than its members. -/
theorem readBack_object {ms : List (Text × Json)} {s : Text} (h : Spelled (.members ms) s)
    {fuel : Nat} (hmembers : Phrase.ReadBack fuel s (.members ms)) :
    Phrase.ReadBack (fuel + 1) (openObject :: s ++ [closeObject]) (.value (.object ms)) := by
  intro rest _
  obtain ⟨start, hstart⟩ := skipBlank_members h (closeObject :: rest)
  have hopen : Text.dropMarker? [closeObject] (quote :: start) = none :=
    dropMarker?_of_ne (by decide) _ _
  have hread := hmembers rest
  rw [List.append_assoc, List.cons_append, List.singleton_append, readValue_openObject, hstart,
    hopen]
  simp only [hread, Option.map_some]

section Items

variable {fuel : Nat} {v : Json} {before s after : Text} (hbefore : IsBlank before)
  (h : Spelled (.value v) s) (hafter : IsBlank after)
  (hvalue : Phrase.ReadBack fuel s (.value v))

include hbefore h hafter hvalue

/-- The last item of a list. -/
theorem readBack_item : Phrase.ReadBack (fuel + 1) (before ++ s ++ after) (.items [v]) := by
  intro rest
  have hcomma : closeList ≠ comma := by decide
  have hblank : closeList.isJsonBlank = false := by decide
  have hread := hvalue (after ++ closeList :: rest)
    (noDigitNext_append hafter (noDigitNext_cons (by decide) rest))
  rw [List.append_assoc, List.append_assoc, readItems, skipBlank_value hbefore h, hread]
  simp only [skipBlank_append_cons hafter hblank, if_neg hcomma, if_pos]

/-- An item in front of others. -/
theorem readBack_moreItems {vs : List Json} {more : Text}
    (hmore : Phrase.ReadBack fuel more (.items vs)) :
    Phrase.ReadBack (fuel + 1) (before ++ s ++ after ++ comma :: more) (.items (v :: vs)) := by
  intro rest
  have hblank : comma.isJsonBlank = false := by decide
  have hread := hvalue (after ++ comma :: (more ++ closeList :: rest))
    (noDigitNext_append hafter (noDigitNext_cons (by decide) _))
  have hrest := hmore rest
  simp only [List.append_assoc, List.cons_append]
  rw [readItems, skipBlank_value hbefore h, hread]
  simp only [skipBlank_append_cons hafter hblank, if_pos, hrest, Option.map_some]

end Items

/-- The name of a member is read with the colon behind it. -/
theorem readName_of_quoted {before key beforeColon name : Text} (hbefore : IsBlank before)
    (hname : Quoted name key) (hcolon : IsBlank beforeColon) (t : Text) :
    readName (before ++ (key ++ (beforeColon ++ colon :: t))) = some (name, t) := by
  obtain ⟨body, rfl, hbody⟩ := exists_of_quoted hname
  have hopen : Text.dropMarker? [quote] (quote :: (body ++ (beforeColon ++ colon :: t)))
      = some (body ++ (beforeColon ++ colon :: t)) := Text.dropMarker?_eq_some_iff.2 rfl
  have hclose : Text.dropMarker? [colon] (colon :: t) = some t := Text.dropMarker?_eq_some_iff.2 rfl
  rw [readName, List.cons_append, skipBlank_append_cons hbefore (by decide), hopen,
    Option.bind_eq_bind, Option.bind_some, hbody, Option.bind_eq_bind, Option.bind_some]
  -- the string that was read is a name, what follows it starts with the colon
  show (Text.dropMarker? [colon] (skipBlank (beforeColon ++ colon :: t))).bind _ = some (name, t)
  rw [skipBlank_append_cons hcolon (by decide), hclose]
  rfl

section Members

variable {fuel : Nat} {v : Json} {name before key beforeColon afterColon s after : Text}
  (hbefore : IsBlank before) (hname : Quoted name key) (hcolon : IsBlank beforeColon)
  (hcolon' : IsBlank afterColon) (h : Spelled (.value v) s) (hafter : IsBlank after)
  (hvalue : Phrase.ReadBack fuel s (.value v))

include hbefore hname hcolon hcolon' h hafter hvalue

/-- The last member of an object. -/
theorem readBack_member :
    Phrase.ReadBack (fuel + 1)
      (before ++ key ++ beforeColon ++ colon :: (afterColon ++ s ++ after))
      (.members [(name, v)]) := by
  intro rest
  have hcomma : closeObject ≠ comma := by decide
  have hblank : closeObject.isJsonBlank = false := by decide
  have hread := hvalue (after ++ closeObject :: rest)
    (noDigitNext_append hafter (noDigitNext_cons (by decide) rest))
  simp only [List.append_assoc, List.cons_append]
  rw [readMembers, readName_of_quoted hbefore hname hcolon]
  simp only [skipBlank_value hcolon' h, hread, skipBlank_append_cons hafter hblank,
    if_neg hcomma, if_pos]

/-- A member in front of others. -/
theorem readBack_moreMembers {ms : List (Text × Json)} {more : Text}
    (hmore : Phrase.ReadBack fuel more (.members ms)) :
    Phrase.ReadBack (fuel + 1)
      (before ++ key ++ beforeColon ++ colon :: (afterColon ++ s ++ after ++ comma :: more))
      (.members ((name, v) :: ms)) := by
  intro rest
  have hblank : comma.isJsonBlank = false := by decide
  have hread := hvalue (after ++ comma :: (more ++ closeObject :: rest))
    (noDigitNext_append hafter (noDigitNext_cons (by decide) _))
  have hrest := hmore rest
  simp only [List.append_assoc, List.cons_append]
  rw [readMembers, readName_of_quoted hbefore hname hcolon]
  simp only [skipBlank_value hcolon' h, hread, skipBlank_append_cons hafter hblank,
    if_pos, hrest, Option.map_some]

end Members

/-! ## Whole values -/

/-- How many steps suffice for a part of a text: two for each code point, and one more for a list of
items or members, whose first step only hands on to a value. -/
def Phrase.steps (s : Text) : Phrase → Nat
  | .value _ => 2 * s.length
  | .items _ => 2 * s.length + 1
  | .members _ => 2 * s.length + 1

/-- **Every part of a JSON text is read back**, with whatever follows it left over. -/
theorem readBack_of_spelled {p : Phrase} {s : Text} (h : Spelled p s) :
    ∀ fuel, p.steps s ≤ fuel → p.ReadBack fuel s := by
  -- Along the grammar: each rule is one step of the reader, and its parts are shorter than what the
  -- rule spells, so that the steps left over suffice for them.
  induction h with
  | null =>
    rintro (_ | fuel) hfuel rest -
    · cases hfuel
    · exact readValue_scalar (by decide) (by decide) (by decide) fuel ("ull" ++ rest)
  | true =>
    rintro (_ | fuel) hfuel rest -
    · cases hfuel
    · exact readValue_scalar (by decide) (by decide) (by decide) fuel ("rue" ++ rest)
  | false =>
    rintro (_ | fuel) hfuel rest -
    · cases hfuel
    · exact readValue_scalar (by decide) (by decide) (by decide) fuel ("alse" ++ rest)
  | integer h =>
    rintro (_ | fuel) hfuel
    · obtain ⟨c, t, rfl, -⟩ := exists_of_numeral h
      cases hfuel
    · exact readBack_integer h fuel
  | text h =>
    rintro (_ | fuel) hfuel
    · obtain ⟨body, rfl, -⟩ := exists_of_quoted h
      cases hfuel
    · exact readBack_text h fuel
  | emptyArray blank =>
    rintro (_ | fuel) hfuel
    · cases hfuel
    · exact readBack_emptyArray blank fuel
  | @array vs s h ih =>
    rintro (_ | fuel) hfuel
    · cases hfuel
    · have hitems : Phrase.steps s (.items vs) ≤ fuel := by
        simp only [Phrase.steps, List.length_append, List.length_cons, List.length_nil] at hfuel ⊢
        omega
      exact readBack_array h (ih fuel hitems)
  | emptyObject blank =>
    rintro (_ | fuel) hfuel
    · cases hfuel
    · exact readBack_emptyObject blank fuel
  | @object ms s h ih =>
    rintro (_ | fuel) hfuel
    · cases hfuel
    · have hmembers : Phrase.steps s (.members ms) ≤ fuel := by
        simp only [Phrase.steps, List.length_append, List.length_cons, List.length_nil] at hfuel ⊢
        omega
      exact readBack_object h (ih fuel hmembers)
  | @item v before s after hbefore h hafter ih =>
    rintro (_ | fuel) hfuel
    · cases hfuel
    · have hvalue : Phrase.steps s (.value v) ≤ fuel := by
        simp only [Phrase.steps, List.length_append] at hfuel ⊢
        omega
      exact readBack_item hbefore h hafter (ih fuel hvalue)
  | @moreItems v vs before s after more hbefore h hafter hmore ih ihmore =>
    rintro (_ | fuel) hfuel
    · cases hfuel
    · simp only [Phrase.steps, List.length_append, List.length_cons] at hfuel
      have hvalue : Phrase.steps s (.value v) ≤ fuel := by
        simp only [Phrase.steps]
        omega
      have hitems : Phrase.steps more (.items vs) ≤ fuel := by
        simp only [Phrase.steps]
        omega
      exact readBack_moreItems hbefore h hafter (ih fuel hvalue) (ihmore fuel hitems)
  | @member _ key before beforeColon afterColon s after v hbefore hname hcolon hcolon' h hafter
      ih =>
    rintro (_ | fuel) hfuel
    · cases hfuel
    · have hvalue : Phrase.steps s (.value v) ≤ fuel := by
        simp only [Phrase.steps, List.length_append, List.length_cons] at hfuel ⊢
        omega
      exact readBack_member hbefore hname hcolon hcolon' h hafter (ih fuel hvalue)
  | @moreMembers _ key before beforeColon afterColon s after more v ms hbefore hname hcolon
      hcolon' h hafter hmore ih ihmore =>
    rintro (_ | fuel) hfuel
    · cases hfuel
    · simp only [Phrase.steps, List.length_append, List.length_cons] at hfuel
      have hvalue : Phrase.steps s (.value v) ≤ fuel := by
        simp only [Phrase.steps]
        omega
      have hmembers : Phrase.steps more (.members ms) ≤ fuel := by
        simp only [Phrase.steps]
        omega
      exact readBack_moreMembers hbefore hname hcolon hcolon' h hafter (ih fuel hvalue)
        (ihmore fuel hmembers)

/-- **A JSON text is read as the value that it spells.** -/
theorem read?_of_isText {v : Json} {t : Text} (h : IsText v t) : read? t = some v := by
  cases h with
  | @mk before s after hbefore h hafter =>
    have hsteps : Phrase.steps s (.value v) ≤ 2 * (before ++ s ++ after).length := by
      show 2 * s.length ≤ 2 * (before ++ s ++ after).length
      simp only [List.length_append]
      omega
    have hend : NoDigitNext after := List.append_nil after ▸ noDigitNext_append hafter nofun
    have hread := readBack_of_spelled h _ hsteps after hend
    rw [← skipBlank_value hbefore h, ← List.append_assoc] at hread
    rw [read?, hread]
    exact if_pos (skipBlank_of_isBlank hafter)

/-- **A text spells at most one value.** -/
theorem IsText.unique {v w : Json} {t : Text} (hv : IsText v t) (hw : IsText w t) : v = w :=
  Option.some.inj ((read?_of_isText hv).symm.trans (read?_of_isText hw))

end HtmlDiagnostics.Json
