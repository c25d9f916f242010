import HtmlDiagnostics.Proofs.OrderedMap
import HtmlDiagnostics.Proofs.RuleList.Item

/-! # The rules can be read back from their list

The reasons of rules are arbitrary texts, and so is the name of the repository. A reason may have
backticks, brackets and links like those of the item that it stands in. But the key comes first: what
stands between the first two backticks of a line is the key, and what stands in front of them tells
whether there is a link. So keys and links are read back from the list alone, and only line feeds
could spoil it.

* **`firstCode?`**, **`startsWithLink`**, **`read`** — reading a list.
* **`IsListable`** — rules whose list can be read.
* **`readItem?_item`**, **`read_render`** — the keys and the links of the rules are found again.
* **`list_tells_rules`** — all that a list tells of its rules. -/

namespace HtmlDiagnostics.RuleList

open Newline (lineFeed)

/-! ## Reading -/

/-- What stands between the first two backticks of a line. -/
def firstCode? (line : Text) : Option Text :=
  (Text.breakOn? [CodePoint.backtick] line).bind fun parts =>
    (Text.breakOn? [CodePoint.backtick] parts.2).map Prod.fst

/-- Whether a line is an item that starts with a link. -/
def startsWithLink (line : Text) : Bool := (Text.dropMarker? "* [" line).isSome

/-- The key of the rule on a line, and whether it is linked; nothing if the line has no key. -/
def readItem? (line : Text) : Option (Text × Bool) :=
  (firstCode? line).map fun key => (key, startsWithLink line)

/-- The keys of the rules in a list, line by line, and whether they are linked. -/
def read (list : Text) : List (Text × Bool) := (Text.cutAt lineFeed list).filterMap readItem?

/-- The keys of rules in order, and whether the rules have anchors. -/
def outline (rules : OrderedMap Rule) : List (Text × Bool) :=
  rules.entries.map fun entry => (entry.1, entry.2.hasAnchor)

/-- Rules whose list can be read: there is one at least, no key has a backtick, and the texts that go
into the list have no line feeds. -/
structure IsListable (rules : OrderedMap Rule) : Prop where
  /-- There is a rule. -/
  nonempty : rules.entries ≠ []
  /-- The keys can be put between backticks. -/
  backtick : ∀ entry ∈ rules.entries, CodePoint.backtick ∉ entry.1
  /-- The keys are on one line. -/
  key : ∀ entry ∈ rules.entries, lineFeed ∉ entry.1
  /-- So are the reasons. -/
  reason : ∀ entry ∈ rules.entries, lineFeed ∉ entry.2.reason

variable {rules other : OrderedMap Rule} {repository : Text}

/-! ## One item -/

/-- **The key is the first inline code of its item**, whatever comes behind it. -/
theorem firstCode?_item {key : Text} (hkey : CodePoint.backtick ∉ key) (repository : Text)
    (rule : Rule) : firstCode? (item repository key rule) = some key := by
  obtain ⟨rest, hitem⟩ := exists_item_eq repository key rule
  rw [firstCode?, hitem, Text.breakOn?_singleton (backtick_notMem_itemFront rule), Option.bind_some,
    Text.breakOn?_singleton hkey]
  rfl

/-- **An item starts with a link exactly if its rule has an anchor.** -/
theorem startsWithLink_item (repository key : Text) (rule : Rule) :
    startsWithLink (item repository key rule) = rule.hasAnchor := by
  obtain ⟨rest, hitem⟩ := exists_item_eq repository key rule
  rw [startsWithLink, hitem, itemFront]
  cases rule.hasAnchor with
  | true =>
    rw [if_pos rfl, Text.dropMarker?_eq_some_iff.2 rfl]
    rfl
  | false =>
    -- a backtick stands where the bracket would be
    rfl

/-- So the item is read. -/
theorem readItem?_item {key : Text} (hkey : CodePoint.backtick ∉ key) (repository : Text)
    (rule : Rule) : readItem? (item repository key rule) = some (key, rule.hasAnchor) := by
  rw [readItem?, firstCode?_item hkey, startsWithLink_item]
  rfl

/-! ## The whole list -/

/-- **The lines of a list are its items**, and behind the last one there is nothing. -/
theorem cutAt_render (listable : IsListable rules) (hrepository : lineFeed ∉ repository) :
    Text.cutAt lineFeed (render repository rules)
      = (rules.entries.map fun entry => item repository entry.1 entry.2) ++ [[]] := by
  have hlines : ∀ line ∈ rules.entries.map fun entry => item repository entry.1 entry.2,
      lineFeed ∉ line := by
    intro line hline
    obtain ⟨entry, hentry, rfl⟩ := List.mem_map.1 hline
    exact lineFeed_notMem_item hrepository (listable.key entry hentry)
      (listable.reason entry hentry)
  rw [render_eq_flatMap listable.nonempty, ← Text.cutAt_flatMap hlines, List.flatMap_map]

/-- **Keys and links are found again.** -/
theorem read_render (listable : IsListable rules) (hrepository : lineFeed ∉ repository) :
    read (render repository rules) = outline rules := by
  have hnothing : [([] : Text)].filterMap readItem? = [] := rfl
  rw [read, cutAt_render listable hrepository, List.filterMap_append, hnothing, List.append_nil,
    List.filterMap_map, outline, ← List.filterMap_eq_map]
  refine List.filterMap_congr fun entry hentry => ?_
  exact readItem?_item (listable.backtick entry hentry) repository entry.2

/-- Rules without a common key make the lists of both, one behind the other. -/
theorem render_ofList_append (h : rules.entries ≠ []) (hother : other.entries ≠ [])
    (apart : ∀ key ∈ rules.keys, key ∉ other.keys) (repository : Text) :
    render repository (.ofList (rules.entries ++ other.entries))
      = render repository rules ++ render repository other := by
  have hnodup : ((rules.entries ++ other.entries).map Prod.fst).Nodup := by
    rw [List.map_append, List.nodup_append]
    refine ⟨rules.nodup, other.nodup, ?_⟩
    rintro key hkey _ hkey' rfl
    exact apart key hkey hkey'
  have hentries := OrderedMap.entries_ofList_of_nodup hnodup
  have hne : (OrderedMap.ofList (rules.entries ++ other.entries)).entries ≠ [] := by
    rw [hentries]
    exact List.append_ne_nil_of_left_ne_nil h _
  rw [render_eq_flatMap hne, hentries, List.flatMap_append, ← render_eq_flatMap h,
    ← render_eq_flatMap hother]

/-- **What a list tells of its rules.** Take one rule or more in any order, where no key has a
backtick or a line feed and no reason a line feed, and a repository without line feeds. The list ends
with a line feed, and cutting it at its line feeds gives one line for each rule, in order, and an
empty piece. On every line the text between the first two backticks is the key, and the line starts
with a link exactly if the rule has an anchor, so the keys and the links of all rules are read from
the list alone. Hence rules with other keys, other links or another order have another list, whatever
their reasons and their repositories are. And the list of two maps that have no key in common, put
together, is the list of the one behind the list of the other. -/
theorem list_tells_rules :
    (∀ (rules : OrderedMap Rule) (repository : Text), IsListable rules → lineFeed ∉ repository →
      (render repository rules).getLast? = some lineFeed ∧
      Text.cutAt lineFeed (render repository rules)
        = (rules.entries.map fun entry => item repository entry.1 entry.2) ++ [[]] ∧
      (∀ entry ∈ rules.entries,
        firstCode? (item repository entry.1 entry.2) = some entry.1 ∧
        (("* [" : Text) <+: item repository entry.1 entry.2 ↔ entry.2.hasAnchor = true)) ∧
      read (render repository rules) = outline rules) ∧
    (∀ (rules other : OrderedMap Rule) (repository elsewhere : Text),
      IsListable rules → IsListable other → lineFeed ∉ repository → lineFeed ∉ elsewhere →
      outline rules ≠ outline other → render repository rules ≠ render elsewhere other) ∧
    ∀ (rules other : OrderedMap Rule) (repository : Text),
      rules.entries ≠ [] → other.entries ≠ [] → (∀ key ∈ rules.keys, key ∉ other.keys) →
      render repository (.ofList (rules.entries ++ other.entries))
        = render repository rules ++ render repository other := by
  refine ⟨fun rules repository listable hrepository => ⟨?_, ?_, ?_, ?_⟩, ?_, ?_⟩
  · exact List.getLast?_concat
  · exact cutAt_render listable hrepository
  · intro entry hentry
    refine ⟨firstCode?_item (listable.backtick entry hentry) repository entry.2, ?_⟩
    rw [← startsWithLink_item repository entry.1, startsWithLink, Option.isSome_iff_exists]
    exact exists_congr fun rest => by rw [Text.dropMarker?_eq_some_iff, eq_comm]
  · exact read_render listable hrepository
  · intro rules other repository elsewhere listable listable' hrepository helsewhere hne h
    refine hne ?_
    rw [← read_render listable hrepository, h, read_render listable' helsewhere]
  · intro rules other repository h hother apart
    exact render_ofList_append h hother apart repository

/-- A reason that starts like a linked item, in a rule without an anchor, and the same rule with
one. -/
theorem list_tells_rules_of_backticks :
    let rule : Rule := ⟨"[`b`](c) ([example](d))", "", false⟩
    let rules : OrderedMap Rule := .ofList [("a", rule)]
    let linked : OrderedMap Rule := .ofList [("a", { rule with hasAnchor := true })]
    let more : OrderedMap Rule := .ofList [("surrogateInInputStream", rule)]
    IsListable rules ∧ IsListable linked ∧ lineFeed ∉ ("x/`y" : Text) ∧ lineFeed ∉ ("" : Text) ∧
      read (render "x/`y" rules) = [(("a" : Text), false)] ∧
      outline rules ≠ outline linked ∧ render "x/`y" rules ≠ render "" linked ∧
      (∀ key ∈ rules.keys, key ∉ more.keys) ∧
      render "" (.ofList (rules.entries ++ more.entries)) = render "" rules ++ render "" more := by
  intro rule rules linked more
  have listable : IsListable rules := ⟨by decide, by decide, by decide, by decide⟩
  have listable' : IsListable linked := ⟨by decide, by decide, by decide, by decide⟩
  have hrepository : lineFeed ∉ ("x/`y" : Text) := by decide
  have helsewhere : lineFeed ∉ ("" : Text) := by decide
  have hne : outline rules ≠ outline linked := by decide
  have apart : ∀ key ∈ rules.keys, key ∉ more.keys := by decide
  obtain ⟨htold, hdiffer, htogether⟩ := list_tells_rules
  obtain ⟨-, -, -, hread⟩ := htold rules "x/`y" listable hrepository
  exact ⟨listable, listable', hrepository, helsewhere, hread, hne,
    hdiffer rules linked "x/`y" "" listable listable' hrepository helsewhere hne, apart,
    htogether rules more "" (by decide) (by decide) apart⟩

end HtmlDiagnostics.RuleList
