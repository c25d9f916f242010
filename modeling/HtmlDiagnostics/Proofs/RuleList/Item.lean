import HtmlDiagnostics.Encoding.Newline
import HtmlDiagnostics.Proofs.Rule.Spelling
import HtmlDiagnostics.Proofs.Text.Line
import HtmlDiagnostics.RuleList.Markdown
import HtmlDiagnostics.Template

/-! # What an item of the list is made of

An item has its key, texts around it that are always the same, the code that is made of the key, the
name of the repository, and the reason with a small first letter. In front of the key there are a
few fixed code points without a backtick; what comes behind the key may be anything.

* **`itemFrame`**, **`all_item`** — what holds of all code points of an item.
* **`CodePoint.eq_or_le_of_mem_lowerCase`** — the lower case of a code point is no control unless
  the code point is one.
* **`lineFeed_notMem_item`** — an item is on one line if its texts are.
* **`itemFront`**, **`exists_item_eq`** — the start of an item, its key between two backticks, and
  the rest.
* **`render_eq_flatMap`** — every item brings its line feed. -/

namespace HtmlDiagnostics

open Newline (lineFeed)

/-! ## Letters -/

/-- The runs of capitals lead to letters: to `a` and what comes behind it. -/
theorem le_shifted_of_mem_caseRuns : ∀ run ∈ caseRuns, 0x61 ≤ run.first + run.shift := by
  decide +kernel

/-- **The lower case of a code point** is the code point or has letters and marks only. -/
theorem CodePoint.eq_or_le_of_mem_lowerCase {c d : CodePoint} (h : d ∈ c.lowerCase) :
    d = c ∨ 0x61 ≤ d.val := by
  rw [lowerCase] at h
  split at h
  · -- the capital I with a dot above
    simp only [List.mem_cons, List.not_mem_nil, or_false] at h
    rcases h with rfl | rfl
    · exact .inr (by decide)
    · exact .inr (by decide)
  · split at h
    · rename_i run hrun
      have hfirst : run.first ≤ c.val := by
        have hcovers := List.find?_some hrun
        simp only [CaseRun.covers, Bool.and_eq_true, decide_eq_true_eq] at hcovers
        exact hcovers.1.1
      have hle := le_shifted_of_mem_caseRuns run (List.mem_of_find?_eq_some hrun)
      obtain rfl := List.mem_singleton.1 h
      rw [ofNat?]
      split
      · refine .inr ?_
        rw [Option.getD_some]
        show 0x61 ≤ (c.val + run.shift).toNat
        omega
      · exact .inl rfl
    · exact .inl (List.mem_singleton.1 h)

/-- A small first letter brings no line feed in. -/
theorem Text.lineFeed_notMem_lowerFirst {t : Text} (h : lineFeed ∉ t) :
    lineFeed ∉ Text.lowerFirst t := by
  cases t with
  | nil => exact List.not_mem_nil
  | cons c t =>
    rw [List.mem_cons, not_or] at h
    rw [Text.lowerFirst_cons, List.mem_append, not_or]
    refine ⟨fun hletter => ?_, h.2⟩
    rcases CodePoint.eq_or_le_of_mem_lowerCase hletter with hc | hle
    · exact h.1 hc
    · exact absurd hle (by decide)

/-- Neither do the hyphens and small letters of a code. -/
theorem lineFeed_notMem_hyphenCase {key : Text} (h : lineFeed ∉ key) :
    lineFeed ∉ hyphenCase key := by
  intro hmem
  rw [hyphenCase] at hmem
  obtain ⟨c, hc, hmem⟩ := List.mem_flatMap.1 hmem
  split at hmem
  · rename_i hupper
    have hlower := CodePoint.isAsciiLower_asciiLower hupper
    simp only [List.mem_cons, List.not_mem_nil, or_false] at hmem
    rcases hmem with hhyphen | hletter
    · exact absurd hhyphen (by decide)
    · rw [← hletter] at hlower
      revert hlower
      decide
  · rw [List.mem_singleton.1 hmem] at h
    exact h hc

namespace RuleList

/-! ## The code points of an item -/

/-- The fixed texts of an item, one behind the other. -/
def itemFrame : Text :=
  "* " ++ ("[" ++ [CodePoint.ofChar '\x60'] ++ "](" ++ anchorBase ++ ")") ++ " — "
    ++ (" (" ++ "example" ++ "https://github.com/" ++ "/blob/main/test/parse-error/"
      ++ "/index.html")

/-- **What holds of all code points of an item**: whatever does of its fixed texts, of the name of
the repository, of the key and its code, and of the reason. -/
theorem all_item {p : CodePoint → Bool} {repository key : Text} {rule : Rule}
    (hframe : itemFrame.all p = true) (hrepository : repository.all p = true)
    (hkey : key.all p = true) (hcode : (hyphenCase key).all p = true)
    (hreason : (Text.lowerFirst rule.reason).all p = true) :
    (item repository key rule).all p = true := by
  simp only [itemFrame, List.all_append, List.all_cons, List.all_nil, Bool.and_true,
    Bool.and_eq_true] at hframe
  obtain ⟨⟨⟨hbullet, ⟨⟨⟨hopen, hbacktick⟩, hmiddle⟩, hanchor⟩, hclose⟩, hdash⟩,
    ⟨⟨⟨hstart, hword⟩, hhost⟩, hdirectory⟩, hfile⟩ := hframe
  have hlink : ∀ {label target : Text}, label.all p = true → target.all p = true →
      (link label target).all p = true := by
    intro label target hlabel htarget
    simp only [link, List.all_append, hopen, hlabel, hmiddle, htarget, hclose, Bool.and_self]
  have hinline : (inlineCode key).all p = true := by
    simp only [inlineCode, List.cons_append, List.all_cons, List.all_append, List.all_nil,
      hbacktick, hkey, Bool.and_self]
  have hheading : (heading key rule).all p = true := by
    rw [heading]
    split
    · refine hlink hinline ?_
      rw [anchorUrl, List.all_append, hanchor, hcode, Bool.and_self]
    · exact hinline
  have hexample : (example? repository key).all p = true := by
    rw [example?]
    split
    · rfl
    · have hurl : (exampleUrl repository (hyphenCase key)).all p = true := by
        simp only [exampleUrl, List.all_append, hhost, hrepository, hdirectory, hcode, hfile,
          Bool.and_self]
      simp only [List.all_append, hstart, hlink hword hurl, hclose, Bool.and_self]
  simp only [item, List.all_append, hbullet, hheading, hdash, hreason, hexample, Bool.and_self]

/-- **An item is on one line** if key, reason and repository are. -/
theorem lineFeed_notMem_item {repository key : Text} {rule : Rule}
    (hrepository : lineFeed ∉ repository) (hkey : lineFeed ∉ key)
    (hreason : lineFeed ∉ rule.reason) : lineFeed ∉ item repository key rule := by
  have hother : ∀ {t : Text}, lineFeed ∉ t → t.all (· ≠ lineFeed) = true := by
    intro t ht
    exact List.all_eq_true.2 fun c hc => decide_eq_true fun heq => ht (heq ▸ hc)
  have hall : (item repository key rule).all (· ≠ lineFeed) = true :=
    all_item (by decide +kernel) (hother hrepository) (hother hkey)
      (hother (lineFeed_notMem_hyphenCase hkey)) (hother (Text.lineFeed_notMem_lowerFirst hreason))
  intro h
  exact of_decide_eq_true (List.all_eq_true.1 hall _ h) rfl

/-! ## The start of an item -/

/-- What an item has in front of its key: a bullet, and a bracket if the key is a link. -/
def itemFront (rule : Rule) : Text := if rule.hasAnchor then "* [" else "* "

/-- **The start of an item**: behind its front the key stands between two backticks. -/
theorem exists_item_eq (repository key : Text) (rule : Rule) : ∃ rest,
    item repository key rule
      = itemFront rule ++ CodePoint.backtick :: (key ++ CodePoint.backtick :: rest) := by
  have hbacktick : CodePoint.ofChar '\x60' = CodePoint.backtick := rfl
  rw [item, heading, itemFront]
  cases rule.hasAnchor with
  | true =>
    refine ⟨"](" ++ anchorUrl (hyphenCase key) ++ ")" ++ " — " ++ Text.lowerFirst rule.reason
      ++ example? repository key, ?_⟩
    have hopen : ("* [" : Text) = "* " ++ "[" := rfl
    simp only [if_true, link, inlineCode, hbacktick, hopen, List.append_assoc, List.cons_append,
      List.nil_append]
  | false =>
    refine ⟨" — " ++ Text.lowerFirst rule.reason ++ example? repository key, ?_⟩
    simp only [Bool.false_eq_true, if_false, inlineCode, hbacktick, List.append_assoc,
      List.cons_append, List.nil_append]

/-- The front has no backtick. -/
theorem backtick_notMem_itemFront (rule : Rule) : CodePoint.backtick ∉ itemFront rule := by
  rw [itemFront]
  cases rule.hasAnchor <;> decide

/-! ## The items one behind the other -/

/-- **Every item brings its line feed**, the last one too. -/
theorem render_eq_flatMap {rules : OrderedMap Rule} (h : rules.entries ≠ []) (repository : Text) :
    render repository rules
      = rules.entries.flatMap fun entry => item repository entry.1 entry.2 ++ [lineFeed] := by
  have hfeed : ("\n" : Text) = [lineFeed] := rfl
  have hitems : (rules.entries.map fun entry => item repository entry.1 entry.2) ≠ [] := by
    simpa only [ne_eq, List.map_eq_nil_iff] using h
  rw [render, hfeed, Text.joinWith_append_separator [lineFeed] hitems, List.flatMap_map]

end RuleList

end HtmlDiagnostics
