import HtmlDiagnostics.Diagnostic.Build
import HtmlDiagnostics.Proofs.Rule.Name
import Mathlib.Data.List.Chain
import Mathlib.Data.Set.Function

/-! # The two spellings of a rule

Every text has a camel case and a hyphen case, and either one can be computed from the other. So
the texts that are in camel case already and those that are in hyphen case already stand for each
other one by one, and codes with the same hyphen case are codes of the same rule.

* **`IsCamelCase`**, **`IsHyphenCase`** — the texts that are spelled that way already.
* **`isCamelCase_camelCase`** — a key is in camel case.
* **`camelCase_hyphenCase`** — a text and its hyphen case have the same key.
* **`camelCase_eq_self_iff`** — the texts in camel case are those that stay as they are.
* **`camelCase_eq_camelCase_iff`** — which codes have the same key.
* **`isAsciiLetter_of_isKnown`** — the code points of a code of a known rule.
* **`spellings_correspond`** — both spellings together, for all texts and for the known rules. -/

namespace HtmlDiagnostics

/-- A text in camel case: no hyphen stands right in front of a small letter. -/
def IsCamelCase (t : Text) : Prop :=
  t.IsChain fun a b => a = CodePoint.hyphen → b.isAsciiLower = false

/-- A text in hyphen case: it has no capitals. -/
def IsHyphenCase (t : Text) : Prop := ∀ c ∈ t, c.isAsciiUpper = false

namespace CodePoint

/-- Whether the code point is an ASCII letter. -/
def isAsciiLetter (c : CodePoint) : Bool := c.isAsciiLower || c.isAsciiUpper

variable {c : CodePoint}

/-- The hyphen is no small letter. -/
theorem isAsciiLower_hyphen : hyphen.isAsciiLower = false := by decide

/-- A capital is no small letter. -/
theorem isAsciiLower_of_isAsciiUpper (h : c.isAsciiUpper) : c.isAsciiLower = false := by
  refine Bool.eq_false_iff.2 fun hlower => ?_
  rw [isAsciiUpper_of_isAsciiLower hlower] at h
  cases h

/-- A capital is no hyphen. -/
theorem ne_hyphen_of_isAsciiUpper (h : c.isAsciiUpper) : c ≠ hyphen := by
  rintro rfl
  rw [isAsciiUpper_hyphen] at h
  cases h

/-- The small letter of a capital is a small letter. -/
theorem isAsciiLower_asciiLower (h : c.isAsciiUpper) : c.asciiLower.isAsciiLower = true := by
  rw [asciiLower, dif_pos h]
  simp only [isAsciiLower, isAsciiUpper, Bool.and_eq_true, decide_eq_true_eq] at h ⊢
  omega

/-- The capital of the small letter of a capital is that capital. -/
theorem asciiUpper_asciiLower (h : c.isAsciiUpper) : c.asciiLower.asciiUpper = c := by
  rw [asciiUpper, if_pos (isAsciiLower_asciiLower h)]
  apply ext
  simp only [asciiLower, dif_pos h]
  omega

end CodePoint

/-! ## One step of the conversion to camel case -/

/-- A hyphen in front of a small letter goes, and the letter becomes a capital. -/
theorem camelCase_hyphen_cons_of_lower {b : CodePoint} (h : b.isAsciiLower) (t : Text) :
    camelCase (CodePoint.hyphen :: b :: t) = b.asciiUpper :: camelCase t := by
  rw [camelCase, if_pos ⟨rfl, h⟩]

/-- Every other code point stays: one that is no hyphen, and a hyphen that no small letter
follows. -/
theorem camelCase_cons {a : CodePoint} {t : Text}
    (h : a = CodePoint.hyphen → ∀ b ∈ t.head?, b.isAsciiLower = false) :
    camelCase (a :: t) = a :: camelCase t := by
  cases t with
  | nil => rfl
  | cons b t =>
    rw [camelCase, if_neg]
    rintro ⟨ha, hb⟩
    rw [h ha b rfl] at hb
    cases hb

/-- What a text starts with is the start of its hyphen case, or it is a capital and a hyphen comes
first there. In both cases no small letter comes first that was not there before. -/
theorem head?_hyphenCase {b : CodePoint} (hb : b.isAsciiLower = false) (t : Text) :
    ∀ c ∈ (hyphenCase (b :: t)).head?, c.isAsciiLower = false := by
  intro c hc
  cases hupper : b.isAsciiUpper with
  | true =>
    rw [hyphenCase_cons_of_upper hupper] at hc
    rw [← Option.some.inj hc]
    exact CodePoint.isAsciiLower_hyphen
  | false =>
    rw [hyphenCase_cons_of_not_upper hupper] at hc
    rw [← Option.some.inj hc]
    exact hb

/-- The key of a text starts as the text does, or with a capital. -/
theorem head?_camelCase {b : CodePoint} {t : Text} :
    ∀ c ∈ (camelCase (b :: t)).head?, c = b ∨ c.isAsciiUpper := by
  intro c hc
  cases t with
  | nil => exact .inl (Option.some.inj hc).symm
  | cons d t =>
    rw [camelCase] at hc
    split at hc
    · rename_i h
      rw [← Option.some.inj hc]
      exact .inr (CodePoint.isAsciiUpper_asciiUpper h.2)
    · exact .inl (Option.some.inj hc).symm

/-! ## Back and forth -/

/-- **A text and its hyphen case have the same key**: the hyphen and the small letter that a capital
becomes are what the key joins again. -/
theorem camelCase_hyphenCase (t : Text) : camelCase (hyphenCase t) = camelCase t := by
  fun_induction camelCase t with
  | case1 a b rest h ih =>
    obtain ⟨rfl, hb⟩ := h
    rw [hyphenCase_cons_of_not_upper CodePoint.isAsciiUpper_hyphen,
      hyphenCase_cons_of_not_upper (CodePoint.isAsciiUpper_of_isAsciiLower hb),
      camelCase_hyphen_cons_of_lower hb, ih]
  | case2 a b rest h ih =>
    cases ha : a.isAsciiUpper with
    | true =>
      rw [hyphenCase_cons_of_upper ha,
        camelCase_hyphen_cons_of_lower (CodePoint.isAsciiLower_asciiLower ha),
        CodePoint.asciiUpper_asciiLower ha, ih]
    | false =>
      rw [hyphenCase_cons_of_not_upper ha, camelCase_cons, ih]
      intro hhyphen
      exact head?_hyphenCase (Bool.eq_false_iff.2 fun hb => h ⟨hhyphen, hb⟩) rest
  | case3 short h =>
    rcases short with _ | ⟨c, _ | ⟨b, rest⟩⟩
    · rfl
    · cases hc : c.isAsciiUpper with
      | true =>
        rw [hyphenCase_cons_of_upper hc, hyphenCase_nil,
          camelCase_hyphen_cons_of_lower (CodePoint.isAsciiLower_asciiLower hc),
          CodePoint.asciiUpper_asciiLower hc, camelCase_nil]
      | false => rw [hyphenCase_cons_of_not_upper hc, hyphenCase_nil, camelCase_singleton]
    · exact absurd rfl (h c b rest)

/-- **A key is in camel case.** Of a run of hyphens in the code the last one may go, and then a
capital stands behind those that are left. -/
theorem isCamelCase_camelCase (t : Text) : IsCamelCase (camelCase t) := by
  fun_induction camelCase t with
  | case1 a b rest h ih =>
    refine List.isChain_cons.2 ⟨?_, ih⟩
    intro c _ hhyphen
    exact absurd hhyphen
      (CodePoint.ne_hyphen_of_isAsciiUpper (CodePoint.isAsciiUpper_asciiUpper h.2))
  | case2 a b rest h ih =>
    refine List.isChain_cons.2 ⟨?_, ih⟩
    intro c hc hhyphen
    rcases head?_camelCase c hc with rfl | hupper
    · exact Bool.eq_false_iff.2 fun hlower => h ⟨hhyphen, hlower⟩
    · exact CodePoint.isAsciiLower_of_isAsciiUpper hupper
  | case3 short h =>
    rcases short with _ | ⟨c, _ | ⟨b, rest⟩⟩
    · exact .nil
    · exact .singleton c
    · exact absurd rfl (h c b rest)

/-- **A text is in camel case exactly if it is its own key.** -/
theorem camelCase_eq_self_iff {t : Text} : camelCase t = t ↔ IsCamelCase t := by
  constructor
  · intro h
    rw [← h]
    exact isCamelCase_camelCase t
  · intro h
    induction t with
    | nil => rfl
    | cons a t ih =>
      obtain ⟨hhead, hrest⟩ := List.isChain_cons.1 h
      rw [camelCase_cons fun ha b hb => hhead b hb ha, ih hrest]

/-- The hyphen case of a text is in hyphen case. -/
theorem isHyphenCase_hyphenCase (t : Text) : IsHyphenCase (hyphenCase t) :=
  isAsciiUpper_of_mem_hyphenCase

/-- **Two codes have the same key exactly if they have the same hyphen case.** -/
theorem camelCase_eq_camelCase_iff {s t : Text} :
    camelCase s = camelCase t ↔ hyphenCase s = hyphenCase t := by
  constructor
  · intro h
    rw [← hyphenCase_camelCase s, h, hyphenCase_camelCase]
  · intro h
    rw [← camelCase_hyphenCase s, h, camelCase_hyphenCase]

/-- Either spelling is found again from the other one. -/
theorem invOn_spellings :
    Set.InvOn hyphenCase camelCase {t | IsHyphenCase t} {t | IsCamelCase t} := by
  constructor
  · intro t ht
    rw [hyphenCase_camelCase]
    exact hyphenCase_eq_self_iff.2 ht
  · intro t ht
    rw [camelCase_hyphenCase]
    exact camelCase_eq_self_iff.2 ht

/-! ## The known rules -/

/-- A code point of a text is one of its key, unless it is a hyphen or a small letter: these may be
joined to a capital. -/
theorem mem_camelCase_or {t : Text} {c : CodePoint} (h : c ∈ t) :
    c ∈ camelCase t ∨ c = CodePoint.hyphen ∨ c.isAsciiLower := by
  fun_induction camelCase t with
  | case1 a b rest hab ih =>
    obtain ⟨rfl, hb⟩ := hab
    rcases List.mem_cons.1 h with rfl | h
    · exact .inr (.inl rfl)
    · rcases List.mem_cons.1 h with rfl | h
      · exact .inr (.inr hb)
      · exact (ih h).imp_left (List.mem_cons_of_mem _)
  | case2 a b rest hab ih =>
    rcases List.mem_cons.1 h with rfl | h
    · exact .inl List.mem_cons_self
    · exact (ih h).imp_left (List.mem_cons_of_mem _)
  | case3 short hshort => exact .inl h

/-- The keys of the known rules have ASCII letters only. -/
theorem isAsciiLetter_of_mem_knownRuleEntries :
    ∀ entry ∈ knownRuleEntries, ∀ c ∈ entry.1, c.isAsciiLetter = true := by
  decide +kernel

/-- They have no hyphens. -/
theorem hyphen_notMem_of_mem_knownRuleEntries :
    ∀ entry ∈ knownRuleEntries, CodePoint.hyphen ∉ entry.1 := by
  intro entry hentry h
  have hletter := isAsciiLetter_of_mem_knownRuleEntries entry hentry _ h
  revert hletter
  decide

/-- So they are in camel case. -/
theorem isCamelCase_of_mem_keys {key : Text} (h : key ∈ knownRules.keys) : IsCamelCase key := by
  obtain ⟨entry, hentry, rfl⟩ := List.mem_map.1 h
  have hnone := hyphen_notMem_of_mem_knownRuleEntries entry hentry
  refine List.isChain_iff_forall_rel_of_append_cons_cons.2 fun a b front back heq ha => ?_
  refine absurd ?_ hnone
  rw [heq, ha]
  exact List.mem_append_cons_self

/-- **A code of a known rule has letters and hyphens only**, however it is spelled. -/
theorem isAsciiLetter_of_isKnown {code : Text} (known : isKnown (camelCase code)) :
    ∀ c ∈ code, c.isAsciiLetter = true ∨ c = CodePoint.hyphen := by
  intro c hc
  obtain ⟨rule, hrule⟩ := Option.isSome_iff_exists.1 known
  have hentry := OrderedMap.mem_entries_of_get? hrule
  rcases mem_camelCase_or hc with hkey | hhyphen | hlower
  · exact .inl (isAsciiLetter_of_mem_knownRuleEntries _ hentry c hkey)
  · exact .inr hhyphen
  · exact .inl (by rw [CodePoint.isAsciiLetter, hlower, Bool.true_or])

/-- **Camel case and hyphen case correspond.** Either spelling of a text is a spelling of its other
spelling, and spelling it once more changes nothing; a text stays as it is exactly if it is spelled
that way. So the two conversions are inverse to each other between the texts in camel case and
those in hyphen case. Codes with the same hyphen case, and no others, have the same key, and with it
the same rule and the same severity; and a known rule has one code in hyphen case. -/
theorem spellings_correspond :
    (∀ t, camelCase (hyphenCase t) = camelCase t ∧ hyphenCase (camelCase t) = hyphenCase t) ∧
    (∀ t, camelCase (camelCase t) = camelCase t ∧ hyphenCase (hyphenCase t) = hyphenCase t) ∧
    (∀ t, (camelCase t = t ↔ IsCamelCase t) ∧ (hyphenCase t = t ↔ IsHyphenCase t)) ∧
    Set.BijOn camelCase {t | IsHyphenCase t} {t | IsCamelCase t} ∧
    Set.BijOn hyphenCase {t | IsCamelCase t} {t | IsHyphenCase t} ∧
    Set.InvOn hyphenCase camelCase {t | IsHyphenCase t} {t | IsCamelCase t} ∧
    (∀ s t, (camelCase s = camelCase t ↔ hyphenCase s = hyphenCase t) ∧
      (hyphenCase s = hyphenCase t → ruleOf s = ruleOf t ∧
        ∀ settings, severityOf (camelCase s) settings = severityOf (camelCase t) settings)) ∧
    ∀ key ∈ knownRules.keys, ∀ t, IsHyphenCase t ∧ camelCase t = key ↔ t = hyphenCase key := by
  have htoCamel : Set.MapsTo camelCase {t | IsHyphenCase t} {t | IsCamelCase t} :=
    fun t _ => isCamelCase_camelCase t
  have htoHyphen : Set.MapsTo hyphenCase {t | IsCamelCase t} {t | IsHyphenCase t} :=
    fun t _ => isHyphenCase_hyphenCase t
  refine ⟨fun t => ⟨camelCase_hyphenCase t, hyphenCase_camelCase t⟩, fun t => ⟨?_, ?_⟩,
    fun t => ⟨camelCase_eq_self_iff, hyphenCase_eq_self_iff⟩,
    invOn_spellings.bijOn htoCamel htoHyphen, invOn_spellings.symm.bijOn htoHyphen htoCamel,
    invOn_spellings, fun s t => ⟨camelCase_eq_camelCase_iff, ?_⟩, ?_⟩
  · exact camelCase_eq_self_iff.2 (isCamelCase_camelCase t)
  · exact hyphenCase_eq_self_iff.2 (isHyphenCase_hyphenCase t)
  · intro h
    have hkey := camelCase_eq_camelCase_iff.2 h
    rw [ruleOf, ruleOf, hkey]
    exact ⟨rfl, fun settings => rfl⟩
  · intro key hkey t
    constructor
    · rintro ⟨ht, rfl⟩
      rw [hyphenCase_camelCase, hyphenCase_eq_self_iff.2 ht]
    · rintro rfl
      refine ⟨isHyphenCase_hyphenCase key, ?_⟩
      rw [camelCase_hyphenCase]
      exact camelCase_eq_self_iff.2 (isCamelCase_of_mem_keys hkey)

/-- A key that is taken for a code names the rule as its code does, though it is not in hyphen
case. -/
theorem spellings_correspond_of_missingDoctype :
    ("missingDoctype" : Text) ∈ knownRules.keys ∧
      hyphenCase "missing-doctype" = hyphenCase "missingDoctype" ∧
      ruleOf "missing-doctype" = ruleOf "missingDoctype" ∧
      IsHyphenCase "missing-doctype" ∧ camelCase "missing-doctype" = "missingDoctype" := by
  have hkey : ("missingDoctype" : Text) ∈ knownRules.keys := by decide +kernel
  have hcode : ("missing-doctype" : Text) = hyphenCase "missingDoctype" := by decide
  have hspelled : hyphenCase "missing-doctype" = hyphenCase "missingDoctype" := by decide
  obtain ⟨-, -, -, -, -, -, hsame, hknown⟩ := spellings_correspond
  exact ⟨hkey, hspelled, ((hsame _ _).2 hspelled).1, (hknown _ hkey _).2 hcode⟩

end HtmlDiagnostics
