import HtmlDiagnostics.Proofs.Markdown.CodeSpan
import HtmlDiagnostics.Proofs.Template.Splitting
import HtmlDiagnostics.Proofs.Text.Numeral
import Mathlib.Data.List.Forall2

/-! # The texts of rules keep their code spans

The templates of the rules put every placeholder into a code span of its own. What is put in may be
a backtick itself; it is shown in such a way that the span grows to double backticks around it. So
a reader of Markdown finds in a rendered template the spans of the template, each with what its
placeholder has read.

* **`Inline.Filled`** — what becomes of a piece of a template.
* **`Inline.isFillable`**, **`takeTurns`** — the pieces that templates consist of, and their order.
* **`exists_scan_eq_filled`** — templates of such pieces keep their spans.
* **`isFillable_of_mem_knownRuleEntries`** — the templates of the rules are of this form.
* **`scan_rule_text`** — the texts of rules keep their spans. -/

namespace HtmlDiagnostics.Markdown

open Template (ReadsInside isPlain render)

/-! ## Pieces of a template -/

/-- What a piece of a template is in the rendered text: plain text and spans without a placeholder
stay what they are, and a span with a placeholder holds what that has read. Nothing becomes of a
run of backticks that nothing closes, nor does one come about. -/
inductive Inline.Filled (source : Text) (offset : Int) : Inline → Inline → Prop
  /-- Plain text is unchanged. -/
  | text {t : Text} : Filled source offset (.text t) (.text t)
  /-- A span without a placeholder keeps its content. -/
  | plain {content : Text} (free : isPlain content = true) :
      Filled source offset (.code content) (.code content)
  /-- The source character at the offset. -/
  | character {c : CodePoint} (read : Text.at? source offset = some c) :
      Filled source offset (.code "%c") (.code [c])
  /-- The source character right before the offset. -/
  | before {c : CodePoint} (read : Text.at? source (offset - 1) = some c) :
      Filled source offset (.code "%c-1") (.code [c])
  /-- The code point at the offset in hexadecimal. -/
  | codePoint {c : CodePoint} (read : Text.at? source offset = some c) :
      Filled source offset (.code "%x") (.code ("0x" ++ Text.upperHex c.val))

/-- How a piece is written, a span between single backticks. -/
def Inline.written : Inline → Text
  | .text t => t
  | .code content => CodePoint.backtick :: (content ++ [CodePoint.backtick])
  | .unmatched count => List.replicate count CodePoint.backtick

/-- Whether the piece is a span. -/
def Inline.isCode : Inline → Bool
  | .code _ => true
  | _ => false

/-- Whether a text can stand between backticks, or between spans, as it is. -/
def isInert (t : Text) : Bool := t ≠ [] && !t.contains CodePoint.backtick && isPlain t

/-- What it takes to stand between backticks. -/
theorem inert_iff {t : Text} :
    isInert t = true ↔ t ≠ [] ∧ CodePoint.backtick ∉ t ∧ isPlain t = true := by
  simp [isInert, and_assoc]

/-- Whether a piece can be filled: no placeholder stands outside a span or next to anything else
in a span. -/
def Inline.isFillable : Inline → Bool
  | .text t => isInert t
  | .code content =>
    content = "%c" || content = "%c-1" || content = "%x" ||
      (isInert content && stripped content = content)
  | .unmatched _ => false

/-- Whether spans and plain text take turns. -/
def takeTurns : List Inline → Bool
  | p :: q :: rest => p.isCode != q.isCode && takeTurns (q :: rest)
  | _ => true

/-! ## Filling a span -/

variable {source : Text} {offset : Int}

/-- **A source character in a span** is the content of the span, also if it is a backtick: then the
three pieces that it is shown as make runs of two, one and two backticks with those around. -/
theorem scan_shown (c : CodePoint) {rest : Text} (hrest : rest.head? ≠ some CodePoint.backtick) :
    scan (CodePoint.backtick ::
        ((if c = CodePoint.backtick then Template.backtickShown else [c])
          ++ CodePoint.backtick :: rest))
      = .code [c] :: scan rest := by
  split
  · rename_i hc
    have hruns : runs (CodePoint.backtick :: (Template.backtickShown ++ CodePoint.backtick :: rest))
        = .backticks 2 :: ([.other [space], .backticks 1, .other [space]]
          ++ .backticks 2 :: runs rest) := by
      have hclosing : runs (CodePoint.backtick :: CodePoint.backtick :: rest)
          = .backticks 2 :: runs rest := runs_backticks_append 1 hrest
      have hshown : CodePoint.backtick :: (Template.backtickShown ++ CodePoint.backtick :: rest)
          = CodePoint.backtick :: CodePoint.backtick :: space :: CodePoint.backtick :: space
              :: CodePoint.backtick :: CodePoint.backtick :: rest := rfl
      rw [hshown]
      simp only [runs_cons] at hclosing ⊢
      rw [hclosing]
      rfl
    have hinner : Run.backticks 2 ∉ [Run.other [space], .backticks 1, .other [space]] := by decide
    rw [scan, hruns, scanRuns_span hinner, hc]
    rfl
  · rename_i hc
    have hfree : CodePoint.backtick ∉ [c] := fun h => hc (List.mem_singleton.1 h).symm
    rw [scan_span (List.cons_ne_nil c []) hfree hrest, stripped_singleton]

/-- **A hexadecimal code point in a span** is the content of the span. -/
theorem scan_hexadecimal (c : CodePoint) {rest : Text}
    (hrest : rest.head? ≠ some CodePoint.backtick) :
    scan (CodePoint.backtick ::
        (((("0x" : Text) ++ Text.upperHex c.val) ++ CodePoint.backtick :: rest)))
      = .code ("0x" ++ Text.upperHex c.val) :: scan rest := by
  have hcons : ("0x" : Text) ++ Text.upperHex c.val
      = CodePoint.ofChar '0' :: CodePoint.ofChar 'x' :: Text.upperHex c.val := rfl
  have hfree : CodePoint.backtick ∉ ("0x" : Text) ++ Text.upperHex c.val := by
    intro h
    rcases List.mem_append.1 h with h | h
    · revert h
      decide
    · have hdigit := Text.isUpperHexDigit_of_mem_upperHex c.val _ h
      revert hdigit
      decide
  rw [scan_span (hcons ▸ List.cons_ne_nil _ _) hfree hrest, hcons, stripped_cons (by decide)]

/-! ## Filling the pieces -/

/-- What becomes of the content of a span: it is rendered to a text that a reader takes for the
filled span when backticks are put around it. -/
theorem exists_scan_code {content : Text} (hfill : (Inline.code content).isFillable = true)
    (inside : ReadsInside content source offset) :
    ∃ text filled, render content source offset = .ok text ∧
      Inline.Filled source offset (.code content) filled ∧
      ∀ rest : Text, rest.head? ≠ some CodePoint.backtick →
        scan (CodePoint.backtick :: (text ++ CodePoint.backtick :: rest)) = filled :: scan rest := by
  -- a character placeholder shows what it reads at its place
  have hshown : ∀ {place : Int} {c : CodePoint}, Text.at? source (offset + place) = some c →
      Template.shownAt source (offset + place)
        = if c = CodePoint.backtick then Template.backtickShown else [c] := by
    intro place c hc
    rw [Template.shownAt, hc]
  simp only [Inline.isFillable, Bool.or_eq_true, Bool.and_eq_true, decide_eq_true_eq] at hfill
  rcases hfill with ((rfl | rfl) | rfl) | ⟨hinert, hstripped⟩
  · have hread := inside (.character none) (by decide) 0 rfl
    obtain ⟨c, hc⟩ := Option.isSome_iff_exists.1 hread
    refine ⟨Template.shownAt source offset ++ [], .code [c], rfl, .character ?_, ?_⟩
    · rwa [Int.add_zero] at hc
    · intro rest hrest
      have hc := hshown hc
      rw [Int.add_zero] at hc
      rw [List.append_nil, hc]
      exact scan_shown c hrest
  · have hread := inside (.character (some ⟨.minus, "1"⟩)) (by decide) (-1) rfl
    obtain ⟨c, hc⟩ := Option.isSome_iff_exists.1 hread
    refine ⟨Template.shownAt source (offset + -1) ++ [], .code [c], rfl, .before hc, ?_⟩
    intro rest hrest
    rw [List.append_nil, hshown hc]
    exact scan_shown c hrest
  · have hread := inside .codePoint (by decide) 0 rfl
    obtain ⟨c, hc⟩ := Option.isSome_iff_exists.1 hread
    rw [Int.add_zero] at hc
    refine ⟨Template.hexAt source offset ++ [], _, rfl, .codePoint hc, ?_⟩
    intro rest hrest
    rw [List.append_nil, Template.hexAt, hc]
    exact scan_hexadecimal c hrest
  · -- nothing to fill in
    obtain ⟨hne, hfree, hplain⟩ := inert_iff.1 hinert
    refine ⟨content, .code content, Template.render_of_isPlain hplain source offset,
      .plain hplain, ?_⟩
    intro rest hrest
    rw [scan_span hne hfree hrest, hstripped]

/-! ## Filling a template -/

/-- Whether a text starts with a backtick goes by its first piece. -/
def StartsLike (t : Text) : List Inline → Prop
  | [] => t = []
  | p :: _ => t.head? = some CodePoint.backtick ↔ p.isCode = true

/-- A text that starts like pieces behind plain text starts with a backtick, if with anything. -/
theorem StartsLike.after_text {t inert : Text} {ps : List Inline} (h : StartsLike t ps)
    (hturns : takeTurns (.text inert :: ps) = true) : ∀ c ∈ t.head?, c = CodePoint.backtick := by
  intro c hc
  cases ps with
  | nil =>
    obtain rfl : t = [] := h
    cases hc
  | cons p rest =>
    rw [takeTurns, Bool.and_eq_true, bne_iff_ne] at hturns
    have hcode : p.isCode = true := Bool.ne_false_iff.1 (Ne.symm hturns.1)
    exact Option.some.inj (hc.symm.trans (h.2 hcode))

/-- A text that starts like pieces behind a span does not start with a backtick. -/
theorem StartsLike.after_code {t content : Text} {ps : List Inline} (h : StartsLike t ps)
    (hturns : takeTurns (.code content :: ps) = true) : t.head? ≠ some CodePoint.backtick := by
  cases ps with
  | nil =>
    obtain rfl : t = [] := h
    exact nofun
  | cons p rest =>
    rw [takeTurns, Bool.and_eq_true, bne_iff_ne] at hturns
    exact fun ht => hturns.1 (h.1 ht).symm

/-- Text without backticks starts with none, whatever follows it. -/
theorem head?_append_of_inert {inert : Text} (h : isInert inert = true) (t : Text) :
    (inert ++ t).head? ≠ some CodePoint.backtick := by
  obtain ⟨hne, hfree, -⟩ := inert_iff.1 h
  obtain ⟨c, inert, rfl⟩ := List.exists_cons_of_ne_nil hne
  rw [List.cons_append, List.head?_cons]
  intro hc
  exact hfree (Option.some.inj hc ▸ List.mem_cons_self)

/-- What remains of pieces that take turns behind the first one takes turns. -/
theorem takeTurns_of_cons {p : Inline} {ps : List Inline} (h : takeTurns (p :: ps) = true) :
    takeTurns ps = true := by
  cases ps with
  | nil => rfl
  | cons q rest =>
    rw [takeTurns, Bool.and_eq_true] at h
    exact h.2

/-- A template of fillable pieces starts like them. -/
theorem startsLike_written {ps : List Inline} (hfill : ps.all Inline.isFillable = true) :
    StartsLike (ps.flatMap Inline.written) ps := by
  cases ps with
  | nil => rfl
  | cons p rest =>
    rw [List.all_cons, Bool.and_eq_true] at hfill
    rw [StartsLike, List.flatMap_cons]
    cases p with
    | text inert => exact iff_of_false (head?_append_of_inert hfill.1 _) Bool.false_ne_true
    | code content => exact iff_of_true rfl rfl
    | unmatched count => cases hfill.1

/-- **Templates of fillable pieces keep their spans.** The induction goes over the pieces; to know
where a run of backticks ends, one has to know how the text behind it starts. -/
theorem exists_scan_eq_filled {ps : List Inline} (hfill : ps.all Inline.isFillable = true)
    (hturns : takeTurns ps = true) (inside : ReadsInside (ps.flatMap Inline.written) source offset) :
    ∃ text, render (ps.flatMap Inline.written) source offset = .ok text ∧ StartsLike text ps ∧
      List.Forall₂ (Inline.Filled source offset) ps (scan text) := by
  induction ps with
  | nil => exact ⟨[], rfl, rfl, .nil⟩
  | cons p ps ih =>
    rw [List.all_cons, Bool.and_eq_true] at hfill
    obtain ⟨hp, hps⟩ := hfill
    have hwritten := startsLike_written hps
    rw [List.flatMap_cons] at inside ⊢
    cases p with
    | unmatched count => cases hp
    | text inert =>
      obtain ⟨hne, hfree, hplain⟩ := inert_iff.1 hp
      -- the template goes on with a backtick, or not at all
      have hcut : ∀ c ∈ (ps.flatMap Inline.written).head?, Template.EndsPlaceholder c :=
        fun c hc => Template.endsPlaceholder_of_eq_backtick (hwritten.after_text hturns c hc)
      obtain ⟨-, hinside⟩ := inside.of_append hcut
      obtain ⟨text, hrender, hstarts, hfilled⟩ := ih hps (takeTurns_of_cons hturns) hinside
      refine ⟨inert ++ text, ?_, ?_, ?_⟩
      · exact Template.render_append hcut (Template.render_of_isPlain hplain source offset) hrender
      · exact iff_of_false (head?_append_of_inert hp text) Bool.false_ne_true
      · rw [scan, runs_other_append hne hfree (hstarts.after_text hturns), scanRuns_other]
        exact .cons .text hfilled
    | code content =>
      have hbacktick : CodePoint.backtick ≠ CodePoint.percent := by decide
      have hspan : (Inline.code content).written ++ ps.flatMap Inline.written
          = CodePoint.backtick :: (content ++ CodePoint.backtick :: ps.flatMap Inline.written) := by
        rw [Inline.written, List.cons_append, List.append_assoc, List.singleton_append]
      have hcut : ∀ c ∈ (CodePoint.backtick :: ps.flatMap Inline.written).head?,
          Template.EndsPlaceholder c :=
        fun c hc => Template.endsPlaceholder_of_eq_backtick (Option.some.inj hc).symm
      rw [hspan] at inside ⊢
      obtain ⟨hcontent, hinside⟩ := (inside.of_cons hbacktick).of_append hcut
      obtain ⟨text, hrender, hstarts, hfilled⟩ :=
        ih hps (takeTurns_of_cons hturns) (hinside.of_cons hbacktick)
      obtain ⟨shown, filled, hshown, hcode, hscan⟩ := exists_scan_code hp hcontent
      refine ⟨CodePoint.backtick :: (shown ++ CodePoint.backtick :: text), ?_, ?_, ?_⟩
      · exact Template.render_cons hbacktick
          (Template.render_append hcut hshown (Template.render_cons hbacktick hrender))
      · exact iff_of_true rfl rfl
      · rw [hscan text (hstarts.after_code hturns)]
        exact .cons hcode hfilled

/-! ## The rules -/

/-- Whether a template consists of fillable pieces, and a reader finds just these in it. -/
def isFillable (template : Text) : Bool :=
  (scan template).flatMap Inline.written = template && (scan template).all Inline.isFillable
    && takeTurns (scan template)

/-- The templates of the known rules consist of fillable pieces. -/
theorem isFillable_of_mem_knownRuleEntries : ∀ entry ∈ knownRuleEntries,
    isFillable entry.2.reason ∧ isFillable entry.2.explanation := by
  decide +kernel

/-- **The texts of rules keep their code spans.** Take a template of a known rule, a source, and an
offset at which all placeholders of the template read a place inside the source. The template is
rendered, and a reader of Markdown finds in the rendered text what he finds in the template, piece
by piece: the same plain text, and as many code spans in the same order. A span without a
placeholder has the same content; where the template has a character placeholder, the content is
the source character, be it a backtick or a space; where it has a code point placeholder, the
content is the number of the code point in hexadecimal. No backticks are left over. -/
theorem scan_rule_text {key : Text} {rule : Rule} (known : (key, rule) ∈ knownRules.entries)
    {template : Text} (htemplate : template = rule.reason ∨ template = rule.explanation)
    (source : Text) (offset : Int) (inside : ReadsInside template source offset) :
    ∃ text, render template source offset = .ok text ∧
      List.Forall₂ (Inline.Filled source offset) (scan template) (scan text) := by
  have hfillable : isFillable template = true := by
    obtain ⟨hreason, hexplanation⟩ := isFillable_of_mem_knownRuleEntries _ known
    rcases htemplate with rfl | rfl
    · exact hreason
    · exact hexplanation
  rw [isFillable, Bool.and_eq_true, Bool.and_eq_true, decide_eq_true_eq] at hfillable
  obtain ⟨⟨hwritten, hpieces⟩, hturns⟩ := hfillable
  rw [← hwritten] at inside
  obtain ⟨text, hrender, -, hfilled⟩ := exists_scan_eq_filled hpieces hturns inside
  rw [hwritten] at hrender
  exact ⟨text, hrender, hfilled⟩

/-- A backtick that stands where a tag name should begin is found in a span of its own. -/
theorem scan_rule_text_of_backtick :
    let rule := ruleOf "invalid-first-character-of-tag-name"
    (("invalidFirstCharacterOfTagName" : Text), rule) ∈ knownRules.entries ∧
      ReadsInside rule.explanation "<\x60>" 1 ∧
      ∃ text, render rule.explanation "<\x60>" 1 = .ok text ∧
        List.Forall₂ (Inline.Filled "<\x60>" 1) (scan rule.explanation) (scan text) := by
  intro rule
  have known : (("invalidFirstCharacterOfTagName" : Text), rule) ∈ knownRules.entries := by
    decide +kernel
  have inside : ReadsInside rule.explanation "<\x60>" 1 := by
    intro token ht place hplace
    rcases place?_of_mem_rule "invalid-first-character-of-tag-name" (.inr ht) hplace with rfl | rfl
    · decide
    · decide
  exact ⟨known, inside, scan_rule_text known (.inr rfl) "<\x60>" 1 inside⟩

/-- A backtick in a span of its own: the spaces only keep it apart. -/
example : scan "Unexpected \x60\x60 \x60 \x60\x60. Expected \x60>\x60"
    = [.text "Unexpected ", .code "\x60", .text ". Expected ", .code ">"] := by decide

end HtmlDiagnostics.Markdown
