import HtmlDiagnostics.Log
import HtmlDiagnostics.Rule.Known
import HtmlDiagnostics.Sink

/-! # Configurations

* **`Draft σ ε`** — what a caller asks for, unchecked.
* **`Configuration σ ε`** — what a caller asked for, checked: every setting is for a known rule.
* **`Draft.checkLogging`** — from the one to the other, step by step over a log. Settings for
  unknown rules are refused if the caller wants to be strict, and else dropped with a note.
* **`Draft.check`** — what that comes to over an empty log; **`Draft.check_eq`** — without steps. -/

namespace HtmlDiagnostics

variable {σ ε : Type}

/-! ## Drafts and configurations -/

/-- What a caller puts in the place of the sink. -/
inductive SinkChoice (σ ε : Type) where
  /-- A receiver of diagnostics. -/
  | receiver (sink : Sink σ ε)
  /-- A plain value. Only the null value makes sense: it stands for no sink. -/
  | value (value : Setting)

/-- What a caller asks for. -/
structure Draft (σ ε : Type) where
  /-- What to parse. -/
  mode : Mode := .document
  /-- Where the diagnostics go. -/
  sink : SinkChoice σ ε := .value .null
  /-- The settings of rules by key, in order. -/
  settings : List (Text × Setting) := []
  /-- Whether a setting for an unknown rule is refused. -/
  strict : Bool := false

/-- A configuration that makes sense. -/
structure Configuration (σ ε : Type) where
  /-- What to parse. -/
  mode : Mode
  /-- Where the diagnostics go, if anywhere. -/
  sink : Option (Sink σ ε)
  /-- The settings of rules by key. -/
  settings : OrderedMap Setting
  /-- Whether a setting for an unknown rule would have been refused. -/
  strict : Bool
  /-- Every setting is for a known rule. -/
  known : ∀ key ∈ settings.keys, isKnown key

/-- The configuration of a caller who asks for nothing. -/
def Configuration.standard : Configuration σ ε where
  mode := .document
  sink := none
  settings := .empty
  strict := false
  known := by simp

/-! ## Errors -/

/-- Why a draft is refused. -/
inductive ConfigurationError where
  /-- The value in the place of the sink is no sink. -/
  | notASink (value : Setting)
  /-- There are settings for unknown rules. -/
  | unknownRules (keys : List Text)

namespace ConfigurationError

/-- The refusal of settings for some keys, which it lists in ascending order. -/
def ofUnknown (keys : List Text) : ConfigurationError := .unknownRules (Text.sorted keys)

/-- What the refusal says. -/
def message : ConfigurationError → Text
  | .notASink value => "on_error must be callable, got " ++ value.kind
  | .unknownRules keys => "Unknown parse error rule(s): " ++ Text.joinWith ", " keys

end ConfigurationError

/-! ## Checking a draft -/

/-- The sink that a choice stands for, if any. -/
def SinkChoice.read : SinkChoice σ ε → Except ConfigurationError (Option (Sink σ ε))
  | .receiver sink => .ok (some sink)
  | .value .null => .ok none
  | .value other => .error (.notASink other)

namespace Draft

/-- The settings as a map: the last setting of a key counts. -/
def settingMap (draft : Draft σ ε) : OrderedMap Setting := .ofList draft.settings

/-- The keys of settings for unknown rules, in order. -/
def unknownKeys (draft : Draft σ ε) : List Text :=
  draft.settingMap.keys.filter fun key => !isKnown key

/-- What is kept of the settings is for known rules. -/
theorem isKnown_of_mem_kept (draft : Draft σ ε) :
    ∀ key ∈ (draft.settingMap.filterKeys isKnown).keys, isKnown key = true := by
  intro key h
  rw [OrderedMap.keys_filterKeys] at h
  exact (List.mem_filter.1 h).2

/-- The configuration of a draft that is accepted. -/
def accept (draft : Draft σ ε) (sink : Option (Sink σ ε)) : Configuration σ ε where
  mode := draft.mode
  sink := sink
  settings := draft.settingMap.filterKeys isKnown
  strict := draft.strict
  known := draft.isKnown_of_mem_kept

/-- Takes a note. -/
def takeNote (note : Note) : ExceptT ConfigurationError (StateM (List Note)) Unit :=
  modify fun log => log ++ [note]

/-- The configuration that a draft stands for, over a log: look at the sink, look at the keys, take
a note for each setting that is dropped, and keep the others. -/
def checkLogging (draft : Draft σ ε) :
    ExceptT ConfigurationError (StateM (List Note)) (Configuration σ ε) := do
  let sink ← draft.sink.read
  if draft.strict && !draft.unknownKeys.isEmpty then
    throw (.ofUnknown draft.unknownKeys)
  else
    forM draft.unknownKeys fun key => takeNote (.settingIgnored key)
    return draft.accept sink

/-- The configuration that a draft stands for, with the notes that are taken over an empty log. -/
def check (draft : Draft σ ε) : Except ConfigurationError (Configuration σ ε × List Note) :=
  match draft.checkLogging.run.run [] with
  | (.error e, _) => .error e
  | (.ok configuration, notes) => .ok (configuration, notes)

/-- Notes are taken in order, behind those that are there. -/
theorem run_forM_takeNote (keys : List Text) (log : List Note) :
    (forM keys fun key => takeNote (.settingIgnored key)).run.run log
      = (.ok (), log ++ keys.map .settingIgnored) := by
  induction keys generalizing log with
  | nil =>
    rw [List.map_nil, List.append_nil]
    rfl
  | cons key rest ih =>
    calc (forM (key :: rest) fun key => takeNote (.settingIgnored key)).run.run log
        = (forM rest fun key => takeNote (.settingIgnored key)).run.run
            (log ++ [.settingIgnored key]) := rfl
      _ = (.ok (), log ++ (key :: rest).map .settingIgnored) := by simp [ih]

/-- The steps of a check come to one of three results. A refusal leaves the log as it is. -/
theorem run_checkLogging (draft : Draft σ ε) (log : List Note) :
    draft.checkLogging.run.run log
      = match draft.sink.read with
        | .error e => (.error e, log)
        | .ok sink =>
          if draft.strict && !draft.unknownKeys.isEmpty then
            (.error (.ofUnknown draft.unknownKeys), log)
          else (.ok (draft.accept sink), log ++ draft.unknownKeys.map .settingIgnored) := by
  rw [checkLogging]
  cases draft.sink.read with
  | error e => rfl
  | ok sink =>
    by_cases h : (draft.strict && !draft.unknownKeys.isEmpty) = true
    · simp only [if_pos h]
      rfl
    · simp only [if_neg h]
      -- with the sink at hand, only the notes and the result are left
      show (do
        forM draft.unknownKeys fun key => takeNote (.settingIgnored key)
        return draft.accept sink : ExceptT ConfigurationError _ _).run.run log = _
      rw [ExceptT.run_bind, StateT.run_bind, run_forM_takeNote]
      rfl

/-- What a check comes to. The sink is looked at first. -/
theorem check_eq (draft : Draft σ ε) :
    draft.check
      = match draft.sink.read with
        | .error e => .error e
        | .ok sink =>
          if draft.strict && !draft.unknownKeys.isEmpty then .error (.ofUnknown draft.unknownKeys)
          else .ok (draft.accept sink, draft.unknownKeys.map .settingIgnored) := by
  rw [check, run_checkLogging]
  cases draft.sink.read with
  | error e => rfl
  | ok sink =>
    by_cases h : (draft.strict && !draft.unknownKeys.isEmpty) = true
    · simp only [if_pos h]
    · simp only [if_neg h]
      rfl

end Draft

end HtmlDiagnostics
