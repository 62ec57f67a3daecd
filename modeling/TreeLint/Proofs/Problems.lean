import TreeLint.Proofs.Registration

/-!
# The problems of a configuration

A configuration that is accepted may still have problems, and each of them is accounted for once.
The entries are gone through in document order; what is wrong with an entry is noted in the order of
its settings. The entries that name no rule come after all of that, except for those that give no
settings at all: these have been noted already and are not asked for their rule. What is logged as a
warning are the same problems in the same order.

## Main definitions

* `Config.rulesIn`: the entries of a document
* `Config.causesIn`: what is wrong with an entry
* `Config.WellFormedEntry`: an entry with which nothing is wrong
* `Registry.problemsIn`: the problems of a document in the order in which they are noted

## Main results

* `RuleSettings.snd_ofDocument`: reading an entry finds what is wrong with it
* `Registry.problems_of_ofDocument`, `Registry.warnings_of_ofDocument`: what is noted and logged
* `Registry.problems_account_for_entries`: the problems of a configuration are accounted for
-/

namespace TreeLint

namespace Document

/-- Whether a value is a truth value. -/
def isTruthValue : Document → Bool
  | .bool _ => true
  | _ => false

/-- Whether a value is a list of texts. -/
def isTextList : Document → Bool
  | .arr ds => ds.all isText
  | _ => false

theorem isTextList_iff {d : Document} :
    d.isTextList ↔ ∃ names : List String, d = .arr (names.map .str) := by
  cases d with
  | arr ds =>
    constructor
    · intro h
      induction ds with
      | nil => exact ⟨[], rfl⟩
      | cons d ds ih =>
        obtain ⟨hd, hds⟩ := Bool.and_eq_true_iff.mp h
        obtain ⟨names, hnames⟩ := ih hds
        cases d with
        | str name =>
          cases hnames
          exact ⟨name :: names, rfl⟩
        | _ => cases hd
    · rintro ⟨names, hnames⟩
      cases hnames
      simp [isTextList, isText]
  | _ => simp [isTextList]

end Document

open RuleSettings (fieldIn?)

/-! ## What is wrong with an entry -/

namespace Config

/-- The entries of a document in their order: those of its rules, where these are a mapping. -/
def rulesIn (d : Document) : List (String × Document) :=
  match fieldIn? d "rules" with
  | some (.obj rules) => rules
  | _ => []

/-- A value is given as a severity and names no level. -/
def namesNoLevel (v : Document) : Bool :=
  !v.isNull && (Severity.ofDocument? v).isNone

/-- What is wrong with an entry, in the order of its settings. An entry that is neither null, a
truth value nor a mapping has no settings. -/
def causesIn (entry : Document) : List ProblemCause :=
  (if entry.givesSettings then [] else [.malformedSettings]) ++
  (if (fieldIn? entry "enabled").all Document.isTruthValue then [] else [.malformedSwitch]) ++
  (((fieldIn? entry "severity").filter namesNoLevel).map fun v =>
    .unknownSeverity (Severity.unknownMessage v)).toList ++
  (if (fieldIn? entry "disable_categories").all fun v => v.isNull || v.isTextList then []
    else [.malformedCategories])

/-- Nothing is wrong with an entry. -/
structure WellFormedEntry (entry : Document) : Prop where
  gives : entry = .null ∨ (∃ b, entry = .bool b) ∨ ∃ fields, entry = .obj fields
  switch : ∀ v, fieldIn? entry "enabled" = some v → ∃ b, v = .bool b
  severity : ∀ v, fieldIn? entry "severity" = some v →
    v = .null ∨ ∃ severity, Severity.ofDocument? v = some severity
  categories : ∀ v, fieldIn? entry "disable_categories" = some v →
    v = .null ∨ ∃ names : List String, v = .arr (names.map .str)

theorem givesSettings_iff {entry : Document} :
    entry.givesSettings ↔
      entry = .null ∨ (∃ b, entry = .bool b) ∨ ∃ fields, entry = .obj fields := by
  cases entry <;> simp [Document.givesSettings]

theorem isTruthValue_iff {v : Document} : v.isTruthValue ↔ ∃ b, v = .bool b := by
  cases v <;> simp [Document.isTruthValue]

theorem isNull_iff {v : Document} : v.isNull ↔ v = .null := by
  cases v <;> simp [Document.isNull]

/-- A severity is no problem exactly if it is null or names a level. -/
theorem not_namesNoLevel_iff {v : Document} :
    ¬ namesNoLevel v ↔ v = .null ∨ ∃ severity, Severity.ofDocument? v = some severity := by
  rw [namesNoLevel, Bool.and_eq_true, Bool.not_eq_true', Option.isNone_iff_eq_none, not_and_or,
    Bool.not_eq_false, isNull_iff, ← Option.ne_none_iff_exists']

/-- Nothing is listed for an entry exactly if nothing is wrong with it. -/
theorem causesIn_eq_nil_iff {entry : Document} : causesIn entry = [] ↔ WellFormedEntry entry := by
  have hcauses : causesIn entry = [] ↔ entry.givesSettings ∧
      (∀ v, fieldIn? entry "enabled" = some v → v.isTruthValue) ∧
      (∀ v, fieldIn? entry "severity" = some v → ¬ namesNoLevel v) ∧
      ∀ v, fieldIn? entry "disable_categories" = some v → v.isNull ∨ v.isTextList := by
    simp [causesIn, Option.filter_eq_none_iff, Option.all_eq_true, or_iff_not_imp_left]
  simp only [hcauses, givesSettings_iff, isTruthValue_iff, not_namesNoLevel_iff, isNull_iff,
    Document.isTextList_iff]
  exact ⟨fun ⟨hgives, hswitch, hseverity, hcategories⟩ =>
      ⟨hgives, hswitch, hseverity, hcategories⟩,
    fun h => ⟨h.gives, h.switch, h.severity, h.categories⟩⟩

end Config

/-! ## What reading an entry finds -/

namespace RuleSettings

/-- A switch that is given and is no truth value is a problem. -/
theorem snd_readSwitch (v : Option Document) :
    (readSwitch v).2.toList =
      if v.all Document.isTruthValue then [] else [.malformedSwitch] := by
  rcases v with _ | (_ | _ | _ | _ | _ | _ | _) <;> rfl

/-- A severity that is given and names no level is a problem, which quotes it. -/
theorem snd_readSeverity (v : Option Document) :
    (readSeverity v).2 = (v.filter Config.namesNoLevel).map fun v =>
      .unknownSeverity (Severity.unknownMessage v) := by
  rcases v with _ | v
  · rfl
  · rw [Option.filter_some, Config.namesNoLevel]
    cases v with
    | null => rfl
    | _ =>
      simp only [readSeverity, Document.isNull, Bool.not_false, Bool.true_and]
      split
      case h_1 hlevel => simp [hlevel]
      case h_2 hlevel => simp [hlevel]

theorem isSome_mapM_asName? (ds : List Document) :
    (ds.mapM asName?).isSome = ds.all Document.isText := by
  have hlist := Document.isTextList_iff (d := .arr ds)
  simp only [Document.isTextList, Document.arr.injEq] at hlist
  rw [Bool.eq_iff_iff, hlist, Option.isSome_iff_exists]
  exact exists_congr fun names => Config.mapM_asName?_eq_some_iff

/-- Disabled categories that are given and are no list of texts are a problem. -/
theorem snd_readCategories (v : Option Document) :
    (readCategories v).2.toList =
      if v.all fun v => v.isNull || v.isTextList then [] else [.malformedCategories] := by
  rcases v with _ | (_ | _ | _ | _ | _ | ds | _)
  case some.arr =>
    simp only [readCategories, Option.all_some, Document.isNull, Document.isTextList,
      Bool.false_or, ← isSome_mapM_asName?]
    cases ds.mapM asName? <;> rfl
  all_goals rfl

/-- Reading an entry finds what is wrong with it, in the order of its settings. -/
theorem snd_ofDocument (entry : Document) : (ofDocument entry).2 = Config.causesIn entry := by
  cases entry with
  | obj fields =>
    have hfields : (ofDocument (.obj fields)).2 =
        (readSwitch (Document.field? fields "enabled")).2.toList ++
          (readSeverity (Document.field? fields "severity")).2.toList ++
          (readCategories (Document.field? fields "disable_categories")).2.toList := rfl
    rw [hfields, snd_readSwitch, snd_readSeverity, snd_readCategories]
    rfl
  | _ => rfl

end RuleSettings

/-! ## What a registration notes -/

namespace Config

/-- The problems of an entry, under its key. -/
def entryProblems (entry : String × Document) : List ConfigProblem :=
  (causesIn entry.2).map fun cause => ⟨entry.1, cause⟩

theorem value_addEntry_problems (config : Config) (entry : String × Document) :
    (addEntry config entry).value.problems = config.problems ++ entryProblems entry := by
  rw [entryProblems, ← RuleSettings.snd_ofDocument]
  rfl

/-- Each problem of an entry is noted as it is found. -/
theorem events_addEntry (config : Config) (entry : String × Document) :
    (addEntry config entry).events = (entryProblems entry).map .settingsProblem := by
  rw [entryProblems, ← RuleSettings.snd_ofDocument]
  rfl

/-- The problems of entries are noted one entry after the other. -/
theorem problems_foldlM_addEntry (config : Config) (rules : List (String × Document)) :
    (rules.foldlM addEntry config).value.problems =
      config.problems ++ rules.flatMap entryProblems := by
  induction rules generalizing config with
  | nil => simp
  | cons entry rules ih =>
    rw [List.foldlM_cons, Logged.value_bind, ih, value_addEntry_problems, List.append_assoc,
      List.flatMap_cons]

/-- An entry is asked for its rule only if it gives settings. -/
theorem keys_foldlM_addEntry (rules : List (String × Document)) :
    (rules.foldlM addEntry {}).value.rules.map Prod.fst =
      (rules.filter fun entry => entry.2.givesSettings).map Prod.fst := by
  rw [rules_foldlM_addEntry, List.nil_append, List.map_filterMap, ← List.filterMap_eq_filter,
    List.map_filterMap]
  refine List.filterMap_congr fun entry _ => ?_
  rw [namedSettings?, RuleSettings.fst_ofDocument]
  cases hgives : entry.2.givesSettings <;> simp [Option.guard, hgives]

/-- The entries that an accepted document is read by are those of its rules. -/
theorem entries_eq_rulesIn {d : Document} {rules : List (String × Document)}
    (h : entries d = .ok rules) : rules = rulesIn d := by
  cases d with
  | obj fs =>
    cases hrules : Document.field? fs "rules" with
    | none =>
      rw [entries, hrules] at h
      cases h
      rw [rulesIn, fieldIn?, hrules]
    | some value =>
      rw [rulesIn, fieldIn?, hrules]
      cases hm : value.isMapping with
      | true =>
        cases value with
        | obj rules' =>
          rw [entries, hrules] at h
          cases h
          rfl
        | _ => cases hm
      | false =>
        rw [entries_of_not_isMapping (by rw [hrules, Option.getD_some]) hm] at h
        split at h
        · cases h
        · cases h
          cases value with
          | obj => cases hm
          | _ => rfl
  | null =>
    cases h
    rfl
  | _ => cases h

end Config

namespace Registry

/-- An id is that of a built-in rule. -/
def isBuiltin (id : String) : Bool :=
  (builtinRules.map Rule.id).contains id

/-- The problems of a document in the order in which they are noted: what is wrong with its entries,
and then the entries that give settings to no rule. -/
def problemsIn (d : Document) : List ConfigProblem :=
  (Config.rulesIn d).flatMap Config.entryProblems ++
    ((Config.rulesIn d).filter fun entry =>
      entry.2.givesSettings && !isBuiltin entry.1).map fun entry => ⟨entry.1, .unknownRule⟩

/-- Entries that could be used but name no built-in rule are unknown rules. -/
theorem unknownRules_foldlM_addEntry (rules : List (String × Document)) :
    unknownRules (rules.foldlM Config.addEntry {}).value =
      (rules.filter fun entry =>
        entry.2.givesSettings && !isBuiltin entry.1).map fun entry => ⟨entry.1, .unknownRule⟩ := by
  rw [unknownRules, Config.keys_foldlM_addEntry, List.filter_map, List.map_map, List.filter_filter]
  simp only [Function.comp_def, Bool.and_comm]
  rfl

theorem isBuiltin_iff {id : String} : isBuiltin id ↔ id ∈ builtinRules.map Rule.id :=
  List.contains_iff_mem

/-- There are no problems exactly if all entries are well-formed and name built-in rules. -/
theorem problemsIn_eq_nil_iff {d : Document} :
    problemsIn d = [] ↔ ∀ entry ∈ Config.rulesIn d,
      Config.WellFormedEntry entry.2 ∧ entry.1 ∈ builtinRules.map Rule.id := by
  have hlists : problemsIn d = [] ↔ (∀ entry ∈ Config.rulesIn d, Config.causesIn entry.2 = []) ∧
      ∀ entry ∈ Config.rulesIn d, entry.2.givesSettings → isBuiltin entry.1 := by
    simp [problemsIn, Config.entryProblems]
  simp only [hlists, Config.causesIn_eq_nil_iff, isBuiltin_iff]
  constructor
  · rintro ⟨hformed, hknown⟩ entry hentry
    have hgives := Config.givesSettings_iff.mpr (hformed entry hentry).gives
    exact ⟨hformed entry hentry, hknown entry hentry hgives⟩
  · intro hentries
    exact ⟨fun entry hentry => (hentries entry hentry).1,
      fun entry hentry _ => (hentries entry hentry).2⟩

/-- An entry that names no rule has a problem: it is unknown, or it gives no settings to begin
with. -/
theorem exists_mem_problemsIn {d : Document} {entry : String × Document}
    (hentry : entry ∈ Config.rulesIn d) (hunknown : entry.1 ∉ builtinRules.map Rule.id) :
    ∃ p ∈ problemsIn d, p.rule = entry.1 := by
  by_cases hgives : entry.2.givesSettings
  · refine ⟨⟨entry.1, .unknownRule⟩, List.mem_append_right _ ?_, rfl⟩
    refine List.mem_map.mpr ⟨entry, List.mem_filter.mpr ⟨hentry, ?_⟩, rfl⟩
    rw [← isBuiltin_iff, Bool.not_eq_true] at hunknown
    rw [hgives, hunknown]
    rfl
  · refine ⟨⟨entry.1, .malformedSettings⟩, List.mem_append_left _ ?_, rfl⟩
    refine List.mem_flatMap.mpr ⟨entry, hentry, List.mem_map.mpr ⟨_, ?_, rfl⟩⟩
    simp [Config.causesIn, hgives]

/-- Registering rules notes nothing but the disabled ones, which is no warning. -/
theorem level_of_mem_addAll (config : Config) (r : Registry) (rules : List Rule) {event : Event}
    (h : event ∈ (addAll config r rules).events) : event.level = .debug := by
  induction rules generalizing r with
  | nil => cases h
  | cons rule rules ih =>
    rw [addAll, Logged.events_bind] at h
    rcases List.mem_append.mp h with hrule | hrest
    · -- Of a single rule nothing is noted unless it is disabled.
      unfold addConfigured at hrule
      split at hrule
      · cases hrule
      · split at hrule
        · cases hrule
        · rw [List.mem_singleton.mp hrule]
          rfl
    · split at hrest
      · exact ih _ hrest
      · cases hrest

theorem filter_isWarning_addAll (config : Config) (r : Registry) (rules : List Rule) :
    (addAll config r rules).events.filter (fun event => event.level.isWarning) = [] := by
  refine List.filter_eq_nil_iff.mpr fun event hevent => ?_
  rw [level_of_mem_addAll config r rules hevent]
  exact Bool.false_ne_true

theorem filter_isWarning_map {α : Type} {f : α → Event} (hf : ∀ a, (f a).level = .warning)
    (as : List α) : (as.map f).filter (fun event => event.level.isWarning) = as.map f := by
  refine List.filter_eq_self.mpr fun event hevent => ?_
  obtain ⟨a, -, rfl⟩ := List.mem_map.mp hevent
  rw [hf]
  rfl

section Accepted

variable {d : Document} {registry : Registry}

/-- Where a registry is made, the configuration is read entry by entry. -/
theorem config_of_ofDocument (h : (ofDocument d).value = .ok registry) :
    Config.ofDocument d = .ok ((Config.rulesIn d).foldlM Config.addEntry {}) := by
  unfold ofDocument at h
  cases hentries : Config.entries d with
  | error fault =>
    rw [Config.ofDocument, hentries] at h
    cases h
  | ok rules => rw [Config.ofDocument, hentries, ← Config.entries_eq_rulesIn hentries]; rfl

/-- A registry holds the problems of its document. -/
theorem problems_of_ofDocument (h : (ofDocument d).value = .ok registry) :
    registry.problems = problemsIn d := by
  have hconfig := config_of_ofDocument h
  simp only [ofDocument, hconfig, Logged.value_bind, ofConfig] at h
  rw [value_addAll _ _ _ nodup_builtinRules (by simp [ids])] at h
  rw [← Except.ok.inj h, problemsIn, Config.problems_foldlM_addEntry,
    unknownRules_foldlM_addEntry]
  rfl

/-- What is logged as a warning while a document is registered are its problems. -/
theorem warnings_of_ofDocument (h : (ofDocument d).value = .ok registry) :
    ((ofDocument d).events.filter fun event => event.level.isWarning).map Event.message =
      (problemsIn d).map ConfigProblem.message := by
  have hconfig := config_of_ofDocument h
  simp only [ofDocument, hconfig, Logged.events_bind, ofConfig, List.filter_append,
    List.map_append, problemsIn, unknownRules_foldlM_addEntry]
  rw [filter_isWarning_addAll, Logged.events_foldlM Config.events_addEntry, ← List.map_flatMap,
    filter_isWarning_map fun p => rfl, filter_isWarning_map fun p => rfl, List.map_nil,
    List.append_nil, List.map_map, List.map_map]
  rfl

/-- **Every problem of a configuration is accounted for.** The problems that a registry holds are
what is wrong with the entries of its document, entry by entry, and then the entries that give
settings to no rule. The warnings that are logged have the messages of these problems. So there are
none exactly if all entries are well-formed and name built-in rules, and an entry that names none is
the subject of at least one. -/
theorem problems_account_for_entries (h : (ofDocument d).value = .ok registry) :
    registry.problems = problemsIn d ∧
    ((ofDocument d).events.filter fun event => event.level.isWarning).map Event.message =
      registry.problems.map ConfigProblem.message ∧
    (registry.problems = [] ↔ ∀ entry ∈ Config.rulesIn d,
      Config.WellFormedEntry entry.2 ∧ entry.1 ∈ builtinRules.map Rule.id) ∧
    ∀ entry ∈ Config.rulesIn d, entry.1 ∉ builtinRules.map Rule.id →
      ∃ p ∈ registry.problems, p.rule = entry.1 := by
  have hproblems := problems_of_ofDocument h
  refine ⟨hproblems, ?_, ?_, ?_⟩
  · rw [hproblems]
    exact warnings_of_ofDocument h
  · rw [hproblems]
    exact problemsIn_eq_nil_iff
  · intro entry hentry hunknown
    rw [hproblems]
    exact exists_mem_problemsIn hentry hunknown

end Accepted

/-- A configuration with three faults in the entry of a rule, an entry that gives no settings, and
one that gives a faulty setting to no rule. -/
def faultyConfig : Document :=
  .obj [("rules", .obj [
    ("security_unsafe_usage", .obj [("disable_categories", .arr [.str "block", .int 3]),
      ("severity", .str "loud"), ("enabled", .null)]),
    ("security_lost_usage", .int 5), ("missing_type", .null),
    ("security_typo_usage", .obj [("enabled", .int 1)])])]

/-- The entry that gives no settings is not said to name no rule, and the one that gives a faulty
setting is, after all other problems. -/
theorem problems_account_for_faultyConfig :
    ∃ registry, (ofDocument faultyConfig).value = .ok registry ∧
      registry.problems =
        [⟨"security_unsafe_usage", .malformedSwitch⟩,
          ⟨"security_unsafe_usage", .unknownSeverity "Unknown severity level: 'loud'"⟩,
          ⟨"security_unsafe_usage", .malformedCategories⟩,
          ⟨"security_lost_usage", .malformedSettings⟩,
          ⟨"security_typo_usage", .malformedSwitch⟩,
          ⟨"security_typo_usage", .unknownRule⟩] := by
  obtain ⟨registry, hregistry⟩ :
      ∃ registry, (ofDocument faultyConfig).value = .ok registry := ⟨_, rfl⟩
  refine ⟨registry, hregistry, ?_⟩
  rw [(problems_account_for_entries hregistry).1]
  decide +kernel

end Registry

end TreeLint
