import HtmlDiagnostics.Proofs.OrderedMap
import HtmlDiagnostics.Proofs.Severity
import HtmlDiagnostics.Proofs.Text.Order

/-! # Drafts refused and accepted

A check looks at the sink first and at the keys of the settings second. A draft that gets past both
leaves a configuration with the settings for known rules and one note for each of the others.

* **`Draft.Verdict`** — the three outcomes of a check, with what each of them rests on.
* **`Draft.check_eq_iff`** — a check comes to its verdict and to nothing else.
* **`Draft.run_checkLogging_eq_overLog`** — the steps of a check, over a log that holds notes.
* **`Draft.recheck`** — what was accepted is accepted again, without a note.
* **`Draft.check_partitions`** — what becomes of the settings of a draft. -/

namespace HtmlDiagnostics

variable {σ ε : Type}

/-! ## The place of the sink -/

namespace SinkChoice

/-- What stands in the place of the sink if there is a sink, and if there is none. -/
def of : Option (Sink σ ε) → SinkChoice σ ε
  | none => .value .null
  | some sink => .receiver sink

/-- A choice is read as the sink that it was made of. -/
@[simp] theorem read_of (sink : Option (Sink σ ε)) : (of sink).read = .ok sink := by
  cases sink with
  | none => rfl
  | some sink => rfl

/-- A value other than null is refused, and the refusal shows it. -/
theorem read_value {value : Setting} (h : value ≠ .null) :
    (SinkChoice.value value : SinkChoice σ ε).read = .error (.notASink value) := by
  cases value with
  | null => exact absurd rfl h
  | bool value => rfl
  | integer value => rfl
  | decimal value => rfl
  | text value => rfl
  | list items => rfl
  | object fields => rfl

/-- Whatever stands in the place of the sink, it was made of one or is a value other than null. -/
theorem exists_of_or_value (choice : SinkChoice σ ε) :
    (∃ sink, choice = of sink) ∨ ∃ value : Setting, value ≠ .null ∧ choice = .value value := by
  cases choice with
  | receiver sink => exact .inl ⟨some sink, rfl⟩
  | value value =>
    by_cases h : value = .null
    · subst h
      exact .inl ⟨none, rfl⟩
    · exact .inr ⟨value, h, rfl⟩

end SinkChoice

/-- Two configurations are equal if they ask for the same. -/
theorem Configuration.eq_of_fields {c₁ c₂ : Configuration σ ε} (mode : c₁.mode = c₂.mode)
    (sink : c₁.sink = c₂.sink) (entries : c₁.settings.entries = c₂.settings.entries)
    (strict : c₁.strict = c₂.strict) : c₁ = c₂ := by
  have settings : c₁.settings = c₂.settings := OrderedMap.ext entries
  cases c₁
  cases c₂
  simp_all

namespace Draft

/-! ## Verdicts -/

/-- What a check comes to, said on the settings as a map. -/
inductive Verdict (draft : Draft σ ε) :
    Except ConfigurationError (Configuration σ ε × List Note) → Prop
  /-- A value other than null is no sink. Neither the settings nor the strictness matter. -/
  | notASink {value : Setting} (place : draft.sink = .value value) (notNull : value ≠ .null) :
    Verdict draft (.error (.notASink value))
  /-- A strict caller hears of all keys of unknown rules, in ascending order. -/
  | unknownRules {sink : Option (Sink σ ε)} {keys : List Text} (place : draft.sink = .of sink)
      (strict : draft.strict = true) (nonempty : keys ≠ [])
      (unknown : ∀ key, key ∈ keys ↔ key ∈ draft.settingMap.keys ∧ isKnown key = false)
      (ascending : keys.Pairwise (· < ·)) :
    Verdict draft (.error (.unknownRules keys))
  /-- The settings for known rules stay, in their order, and every other key is noted, in its
  order. For a strict caller there is no other key. -/
  | accepted {configuration : Configuration σ ε} (place : draft.sink = .of configuration.sink)
      (mode : configuration.mode = draft.mode) (strict : configuration.strict = draft.strict)
      (known : draft.strict = true → ∀ key ∈ draft.settingMap.keys, isKnown key = true)
      (kept : configuration.settings.entries
        = draft.settingMap.entries.filter fun entry => isKnown entry.1) :
    Verdict draft (.ok (configuration,
      (draft.settingMap.keys.filter fun key => !isKnown key).map .settingIgnored))

variable {draft : Draft σ ε}

/-- The keys of unknown rules are those that are not known. -/
theorem mem_unknownKeys {key : Text} :
    key ∈ draft.unknownKeys ↔ key ∈ draft.settingMap.keys ∧ isKnown key = false := by
  simp [unknownKeys, List.mem_filter]

/-- No key is listed twice. -/
theorem nodup_unknownKeys (draft : Draft σ ε) : draft.unknownKeys.Nodup :=
  draft.settingMap.nodup.filter _

/-- Without keys of unknown rules every key is known. -/
theorem unknownKeys_eq_nil_iff :
    draft.unknownKeys = [] ↔ ∀ key ∈ draft.settingMap.keys, isKnown key = true := by
  simp [unknownKeys, List.filter_eq_nil_iff]

/-- A refused sink ends the check. -/
theorem check_of_value {value : Setting} (place : draft.sink = .value value)
    (notNull : value ≠ .null) : draft.check = .error (.notASink value) := by
  rw [check_eq, place, SinkChoice.read_value notNull]

/-- With a sink, or without one, the keys decide. -/
theorem check_of {sink : Option (Sink σ ε)} (place : draft.sink = .of sink) :
    draft.check = if draft.strict = true ∧ draft.unknownKeys ≠ []
      then .error (.unknownRules (Text.sorted draft.unknownKeys))
      else .ok (draft.accept sink, draft.unknownKeys.map .settingIgnored) := by
  rw [check_eq, place, SinkChoice.read_of]
  simp only [Bool.and_eq_true, Bool.not_eq_true', List.isEmpty_eq_false_iff]
  rfl

/-- A check comes to a verdict. -/
theorem verdict_check (draft : Draft σ ε) : draft.Verdict draft.check := by
  obtain ⟨sink, place⟩ | ⟨value, notNull, place⟩ := draft.sink.exists_of_or_value
  · rw [check_of place]
    by_cases h : draft.strict = true ∧ draft.unknownKeys ≠ []
    · rw [if_pos h]
      refine .unknownRules place h.1 ?_ ?_ ?_
      · exact mt Text.sorted_eq_nil_iff.1 h.2
      · intro key
        rw [Text.mem_sorted, mem_unknownKeys]
      · exact Text.pairwise_sorted draft.nodup_unknownKeys
    · rw [if_neg h]
      refine .accepted place rfl rfl ?_ rfl
      intro strict
      rw [← unknownKeys_eq_nil_iff]
      by_contra hnil
      exact h ⟨strict, hnil⟩
  · rw [check_of_value place notNull]
    exact .notASink place notNull

/-- There is one verdict on a draft. -/
theorem Verdict.check_eq {result : Except ConfigurationError (Configuration σ ε × List Note)}
    (h : draft.Verdict result) : draft.check = result := by
  cases h with
  | notASink place notNull => exact check_of_value place notNull
  | @unknownRules sink keys place strict nonempty unknown ascending =>
    -- there is only one ascending list of these keys
    have hkeys : keys = Text.sorted draft.unknownKeys :=
      Text.sorted_eq_of_mem_iff ascending draft.nodup_unknownKeys fun key =>
        (unknown key).trans mem_unknownKeys.symm
    have hsome : draft.unknownKeys ≠ [] := by
      rw [hkeys] at nonempty
      exact mt Text.sorted_eq_nil_iff.2 nonempty
    rw [check_of place, if_pos ⟨strict, hsome⟩, hkeys]
  | @accepted configuration place mode strict known kept =>
    have hnone : ¬ (draft.strict = true ∧ draft.unknownKeys ≠ []) := fun h =>
      h.2 (unknownKeys_eq_nil_iff.2 (known h.1))
    have hconfiguration : configuration = draft.accept configuration.sink :=
      Configuration.eq_of_fields mode rfl kept strict
    rw [check_of place, if_neg hnone, ← hconfiguration]
    rfl

/-- **A check comes to its verdict and to nothing else.** -/
theorem check_eq_iff (draft : Draft σ ε)
    (result : Except ConfigurationError (Configuration σ ε × List Note)) :
    draft.check = result ↔ draft.Verdict result := by
  constructor
  · rintro rfl
    exact draft.verdict_check
  · exact Verdict.check_eq

/-- A draft is accepted exactly if what stands in the place of the sink makes sense and no key of an
unknown rule meets a strict caller. -/
theorem exists_check_eq_ok_iff (draft : Draft σ ε) :
    (∃ configuration notes, draft.check = .ok (configuration, notes)) ↔
      (∃ sink, draft.sink = .of sink) ∧ (draft.strict = true → draft.unknownKeys = []) := by
  constructor
  · rintro ⟨configuration, notes, h⟩
    rw [check_eq_iff] at h
    cases h with
    | accepted place mode strict known kept =>
      exact ⟨⟨_, place⟩, fun h => unknownKeys_eq_nil_iff.2 (known h)⟩
  · rintro ⟨⟨sink, place⟩, known⟩
    rw [check_of place, if_neg fun h => h.2 (known h.1)]
    exact ⟨_, _, rfl⟩

/-- The keys of the settings as a map are those of the pairs. -/
theorem mem_keys_settingMap {key : Text} :
    key ∈ draft.settingMap.keys ↔ key ∈ draft.settings.map Prod.fst := by
  rw [settingMap, OrderedMap.keys_ofList, List.mem_eraseDups]

/-- A refusal depends on nothing of the settings but on which keys there are. -/
theorem check_eq_error_of_keys {other : Draft σ ε} (sink : other.sink = draft.sink)
    (strict : other.strict = draft.strict)
    (keys : ∀ key, key ∈ other.settings.map Prod.fst ↔ key ∈ draft.settings.map Prod.fst)
    {e : ConfigurationError} (h : draft.check = .error e) : other.check = .error e := by
  rw [check_eq_iff] at h ⊢
  cases h with
  | notASink place notNull => exact .notASink (sink.trans place) notNull
  | unknownRules place hstrict nonempty unknown ascending =>
    refine .unknownRules (sink.trans place) (strict.trans hstrict) nonempty ?_ ascending
    intro key
    rw [unknown key, mem_keys_settingMap, mem_keys_settingMap, keys key]

/-! ## What is accepted -/

section Accepted

variable {configuration : Configuration σ ε} {notes : List Note}

/-- The kept keys and the others are all keys. -/
theorem keys_append_unknownKeys_perm (h : draft.check = .ok (configuration, notes)) :
    (configuration.settings.keys ++ draft.unknownKeys).Perm draft.settingMap.keys := by
  rw [settings_of_check h, OrderedMap.keys_filterKeys]
  exact List.filter_append_perm isKnown draft.settingMap.keys

/-- The severity of a known rule is what the settings made it, that of any other is a warning. -/
theorem severityOf_kept (h : draft.check = .ok (configuration, notes)) (key : Text) :
    severityOf key configuration.settings
      = if isKnown key then severityOf key draft.settingMap else .warning := by
  rw [severityOf, settings_of_check h, OrderedMap.get?_filterKeys]
  by_cases hknown : isKnown key = true
  · rw [if_pos hknown, if_pos hknown]
    rfl
  · rw [if_neg hknown, if_neg hknown]
    rfl

/-- **What was accepted is accepted again, without a note**, by a strict caller and by any other. -/
theorem recheck (h : draft.check = .ok (configuration, notes)) (strict : Bool) :
    ({ draft with settings := configuration.settings.entries, strict := strict } : Draft σ ε).check
      = .ok ({ configuration with strict := strict }, []) := by
  rw [check_eq_iff] at h
  cases h with
  | accepted place mode _ known kept =>
    generalize hagain : ({ draft with
      settings := configuration.settings.entries, strict := strict } : Draft σ ε) = again
    have hplace : again.sink = .of configuration.sink := by rw [← hagain, place]
    have hmap : again.settingMap = configuration.settings := by
      rw [← hagain]
      exact configuration.settings.ofList_entries
    have hunknown : again.unknownKeys = [] := by
      rw [unknownKeys_eq_nil_iff, hmap]
      exact configuration.known
    have haccept : again.accept configuration.sink = { configuration with strict := strict } := by
      refine Configuration.eq_of_fields ?_ rfl ?_ ?_
      · rw [accept, ← hagain, mode]
      · -- every entry that was kept is kept again
        rw [accept, OrderedMap.entries_filterKeys, hmap, List.filter_eq_self]
        exact fun entry hentry => configuration.known entry.1 (List.mem_map_of_mem hentry)
      · rw [accept, ← hagain]
    rw [check_of hplace, if_neg fun h => h.2 hunknown, hunknown, haccept, List.map_nil]

end Accepted

/-! ## The log -/

/-- What is left over a log: a refusal leaves it as it is, and the notes of a configuration go
behind it. -/
def overLog (log : List Note) :
    Except ConfigurationError (Configuration σ ε × List Note) →
      Except ConfigurationError (Configuration σ ε) × List Note
  | .error e => (.error e, log)
  | .ok (configuration, notes) => (.ok configuration, log ++ notes)

/-- The steps of a check come to what the check says, over any log. -/
theorem run_checkLogging_eq_overLog (draft : Draft σ ε) (log : List Note) :
    draft.checkLogging.run.run log = overLog log draft.check := by
  rw [run_checkLogging, check_eq]
  cases draft.sink.read with
  | error e => rfl
  | ok sink =>
    by_cases h : (draft.strict && !draft.unknownKeys.isEmpty) = true
    · simp only [if_pos h, overLog]
    · simp only [if_neg h, overLog]

/-! ## The whole check -/

/-- **What becomes of the settings of a draft.** The pairs are read as a map, in which a key stands
at its first place with its last value. The check comes to its verdict and to nothing else: what is
no sink is refused before any setting is looked at, keys of unknown rules are refused if the caller
is strict, and every other draft is accepted. A refusal leaves the log alone and stays the same
however the pairs are arranged. A draft that is accepted keeps the settings of known rules and takes
one warning for each of the other keys, and kept and noted keys are all keys. The severity of a
known rule is the one that all settings give it, and that of any other rule is a warning. The kept
settings are accepted again, by a strict caller and by any other, unchanged and without a note. -/
theorem check_partitions (draft : Draft σ ε) :
    let loaded := draft.settingMap
    let unknown := loaded.keys.filter fun key => !isKnown key
    (loaded.keys.Nodup ∧ loaded.keys = (draft.settings.map Prod.fst).eraseDups ∧
      ∀ key, loaded.get? key
        = (draft.settings.reverse.find? fun pair => pair.1 = key).map Prod.snd) ∧
    (∀ result, draft.check = result ↔ draft.Verdict result) ∧
    ((∃ configuration notes, draft.check = .ok (configuration, notes)) ↔
      (∃ sink, draft.sink = .of sink) ∧ (draft.strict = true → unknown = [])) ∧
    (∀ log, draft.checkLogging.run.run log = overLog log draft.check) ∧
    (∀ other : Draft σ ε, other.sink = draft.sink → other.strict = draft.strict →
      (∀ key, key ∈ other.settings.map Prod.fst ↔ key ∈ draft.settings.map Prod.fst) →
      ∀ e, draft.check = .error e ↔ other.check = .error e) ∧
    ∀ configuration notes, draft.check = .ok (configuration, notes) →
      (configuration.settings.keys ++ unknown).Perm loaded.keys ∧
      (∀ note ∈ notes, note.level = .warning) ∧
      (∀ key, severityOf key configuration.settings
        = if isKnown key then severityOf key loaded else .warning) ∧
      ∀ strict : Bool,
        ({ draft with
            settings := configuration.settings.entries, strict := strict } : Draft σ ε).check
          = .ok ({ configuration with strict := strict }, []) := by
  intro loaded unknown
  refine ⟨⟨loaded.nodup, OrderedMap.keys_ofList _, OrderedMap.get?_ofList _⟩, draft.check_eq_iff,
    draft.exists_check_eq_ok_iff, draft.run_checkLogging_eq_overLog, ?_, ?_⟩
  · -- having the same keys goes both ways, and so does being refused
    intro other sink strict keys e
    constructor
    · exact check_eq_error_of_keys sink strict keys
    · exact check_eq_error_of_keys sink.symm strict.symm fun key => (keys key).symm
  · intro configuration notes h
    refine ⟨keys_append_unknownKeys_perm h, ?_, severityOf_kept h, recheck h⟩
    rw [check_eq_iff] at h
    cases h with
    | accepted place mode strict known kept =>
      rintro note hnote
      obtain ⟨key, -, rfl⟩ := List.mem_map.1 hnote
      rfl

/-- Two keys of no rule are refused in either order, and dropped for a caller who is not strict. -/
theorem check_partitions_of_two_unknown_keys :
    let draft : Draft Unit Unit :=
      { settings := [("nope", .integer 1), ("eofInTag", .integer 2), ("alsoNope", .bool false)]
        strict := true }
    let reversed : Draft Unit Unit := { draft with settings := draft.settings.reverse }
    let lenient : Draft Unit Unit := { draft with strict := false }
    (∃ keys, draft.check = .error (.unknownRules keys) ∧
      reversed.check = .error (.unknownRules keys)) ∧
    ∃ configuration notes, lenient.check = .ok (configuration, notes) ∧
      severityOf "alsoNope" configuration.settings = .warning ∧
      ({ draft with settings := configuration.settings.entries } : Draft Unit Unit).check
        = .ok ({ configuration with strict := true }, []) := by
  intro draft reversed lenient
  have hkeys : ∀ key, key ∈ reversed.settings.map Prod.fst ↔ key ∈ draft.settings.map Prod.fst := by
    intro key
    simp [reversed]
  obtain ⟨-, -, -, -, hother, -⟩ := check_partitions draft
  obtain ⟨-, -, -, -, -, haccepted⟩ := check_partitions lenient
  have hdraft : draft.check = .error (.unknownRules _) := rfl
  have hlenient : lenient.check = .ok (_, _) := rfl
  obtain ⟨-, -, hseverity, hagain⟩ := haccepted _ _ hlenient
  have hunknown : ¬ isKnown "alsoNope" = true := by decide +kernel
  refine ⟨⟨_, hdraft, (hother reversed rfl rfl hkeys _).1 hdraft⟩, _, _, hlenient, ?_, hagain true⟩
  rw [hseverity, if_neg hunknown]

end Draft

end HtmlDiagnostics
