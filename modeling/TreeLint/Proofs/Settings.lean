import TreeLint.Proofs.Logged
import TreeLint.Registry

/-!
# The settings that a configuration document gives

What a configuration document says about a rule is read off the entry of the rule's id alone:
whether the rule is off, its severity and its disabled categories. An entry that is neither null, a
truth value nor a mapping says nothing. The registry for a document holds the rules that are not
off, in the order of `builtinRules`, each with the settings that the document gives it.

## Main definitions

* `RuleSettings.isOff`, `RuleSettings.severityIn?`, `RuleSettings.categoriesIn`: what an entry says
* `Config.entryOf`: the entry that a configuration document has for a rule
* `Config.disables`, `Config.severityFor`, `Config.disabledFor`: the settings that apply to a rule
* `Config.applied?`: the registered rule with these settings, unless it is off

## Main results

* `RuleSettings.fst_ofDocument`: the settings of an entry are what it says
* `Registry.entries_of_ofDocument`: the registry for a configuration document
-/

namespace TreeLint

/-- Whether a document can be the entry of a rule. -/
def Document.givesSettings : Document → Bool
  | .null => true
  | .bool _ => true
  | .obj _ => true
  | _ => false

/-- Whether a value is a text. -/
def Document.isText : Document → Bool
  | .str _ => true
  | _ => false

/-! ## What an entry says -/

namespace RuleSettings

/-- A field of an entry that is a mapping. -/
def fieldIn? (entry : Document) (key : String) : Option Document :=
  match entry with
  | .obj fields => Document.field? fields key
  | _ => none

/-- Whether a value is given and false. -/
def isFalse : Option Document → Bool
  | some (.bool b) => !b
  | _ => false

/-- Whether an entry switches its rule off: it is false, or its switch is. -/
def isOff (entry : Document) : Bool :=
  isFalse (some entry) || isFalse (fieldIn? entry "enabled")

/-- The severity that an entry sets. -/
def severityIn? (entry : Document) : Option Severity :=
  (fieldIn? entry "severity").bind Severity.ofDocument?

/-- The categories that an entry disables. -/
def categoriesIn (entry : Document) : List String :=
  match fieldIn? entry "disable_categories" with
  | some (.arr ds) => (ds.mapM asName?).getD []
  | _ => []

/-- All that an entry says. -/
def saidBy (entry : Document) : RuleSettings :=
  ⟨!isOff entry, severityIn? entry, categoriesIn entry⟩

/-- A switch is on unless it is false. -/
theorem fst_readSwitch (d : Option Document) : (readSwitch d).1 = !isFalse d := by
  rcases d with _ | (_ | _ | _ | _ | _ | _ | _) <;> simp [readSwitch, isFalse]

/-- A severity that names no level counts as none. -/
theorem fst_readSeverity (d : Option Document) :
    (readSeverity d).1 = d.bind Severity.ofDocument? := by
  rcases d with _ | d
  · rfl
  · cases d with
    | null => rfl
    | _ =>
      simp only [readSeverity, Option.bind_some]
      split
      case h_1 _ _ h => rw [h]
      case h_2 _ h => rw [h]

/-- Categories that are no list of texts count as none. -/
theorem fst_readCategories (d : Option Document) :
    (readCategories d).1 = match d with
      | some (.arr ds) => (ds.mapM asName?).getD []
      | _ => [] := by
  rcases d with _ | (_ | _ | _ | _ | _ | ds | _) <;> simp only [readCategories]
  cases ds.mapM asName? <;> rfl

/-- The settings of an entry are what it says, unless it cannot be one. -/
theorem fst_ofDocument (entry : Document) :
    (ofDocument entry).1 = if entry.givesSettings then some (saidBy entry) else none := by
  cases entry with
  | null => rfl
  | bool b => cases b <;> rfl
  | obj fields =>
    have hsaid : (ofFields fields).1 = saidBy (.obj fields) := by
      simp only [ofFields, fst_readSwitch, fst_readSeverity, fst_readCategories]
      rfl
    exact congrArg some hsaid
  | _ => rfl

end RuleSettings

/-! ## What a configuration document says -/

namespace Config

/-- The entry that a configuration document has for a rule, if it can be one. -/
def entryOf (d : Document) (id : String) : Option Document :=
  match entries d with
  | .ok rules => (rules.find? fun entry => entry.1 == id && entry.2.givesSettings).map Prod.snd
  | .error _ => none

/-- Whether a configuration document switches a rule off. -/
def disables (d : Document) (id : String) : Bool :=
  (entryOf d id).any RuleSettings.isOff

/-- The severity that applies to a rule: the one set for it, or its own. -/
def severityFor (d : Document) (rule : Rule) : Severity :=
  ((entryOf d rule.id).bind RuleSettings.severityIn?).getD rule.severity

/-- The categories of a rule that a configuration document disables. -/
def disabledFor (d : Document) (id : String) : List String :=
  (entryOf d id).elim [] RuleSettings.categoriesIn

/-- The registered rule with the settings that apply to it, unless it is off. -/
def applied? (d : Document) (rule : Rule) : Option Entry :=
  if disables d rule.id then none
  else some ⟨rule, severityFor d rule, disabledFor d rule.id⟩

/-- A rule that is not disabled has the entry with its settings. -/
theorem applied?_eq_some_iff {d : Document} {rule : Rule} {e : Entry} :
    applied? d rule = some e ↔
      disables d rule.id = false ∧ e = ⟨rule, severityFor d rule, disabledFor d rule.id⟩ := by
  unfold applied?
  cases disables d rule.id <;> simp [eq_comm]

/-- The settings of an entry of the configuration, by the rule that it names. -/
def namedSettings? (entry : String × Document) : Option (String × RuleSettings) :=
  (RuleSettings.ofDocument entry.2).1.map fun settings => (entry.1, settings)

/-- The settings are added in the order of the entries that give any. -/
theorem rules_foldlM_addEntry (config : Config) (rules : List (String × Document)) :
    (rules.foldlM addEntry config).value.rules =
      config.rules ++ rules.filterMap namedSettings? := by
  induction rules generalizing config with
  | nil => simp
  | cons entry rules ih =>
    rw [List.foldlM_cons, Logged.value_bind, ih, List.filterMap_cons]
    have hentry : (addEntry config entry).value.rules =
        config.rules ++ (namedSettings? entry).toList := rfl
    rw [hentry]
    cases namedSettings? entry <;> simp

/-- The first entry for a rule that can be used gives its settings. -/
theorem lookup_filterMap_namedSettings? (rules : List (String × Document)) (id : String) :
    (rules.filterMap namedSettings?).lookup id =
      ((rules.find? fun entry => entry.1 == id && entry.2.givesSettings).map Prod.snd).map
        RuleSettings.saidBy := by
  induction rules with
  | nil => rfl
  | cons entry rules ih =>
    rw [List.filterMap_cons, List.find?_cons]
    -- An entry that gives no settings is left out on one side and passed over on the other.
    by_cases hgives : entry.2.givesSettings
    · have hentry : namedSettings? entry = some (entry.1, RuleSettings.saidBy entry.2) := by
        simp [namedSettings?, RuleSettings.fst_ofDocument, hgives]
      rw [hentry, List.lookup_cons, ih]
      by_cases hid : entry.1 = id
      · simp [hid, hgives]
      · have hleft : (id == entry.1) = false := beq_eq_false_iff_ne.mpr fun h => hid h.symm
        have hright : (entry.1 == id) = false := beq_eq_false_iff_ne.mpr hid
        simp [hleft, hright]
    · have hentry : namedSettings? entry = none := by
        simp [namedSettings?, RuleSettings.fst_ofDocument, hgives]
      simp [hentry, ih, hgives]

/-- The settings of a rule are what its entry says. -/
theorem settings?_of_ofDocument {d : Document} {config : Logged Config}
    (h : ofDocument d = .ok config) (id : String) :
    config.value.settings? id = (entryOf d id).map RuleSettings.saidBy := by
  unfold ofDocument at h
  unfold entryOf
  cases hrules : entries d with
  | error fault => simp [hrules, Except.map] at h
  | ok rules =>
    rw [hrules] at h
    obtain rfl : rules.foldlM addEntry {} = config := Except.ok.inj h
    rw [settings?, rules_foldlM_addEntry, List.nil_append]
    exact lookup_filterMap_namedSettings? rules id

end Config

/-! ## The registry for a configuration document -/

namespace Registry

/-- The registered rule that a configuration asks for, unless it disables the rule. -/
def configured? (config : Config) (rule : Rule) : Option Entry :=
  match config.settings? rule.id with
  | none => some (entryFor rule none [])
  | some settings =>
    if settings.enabled then some (entryFor rule settings.severity settings.disabledCategories)
    else none

theorem add_of_not_mem {r : Registry} {rule : Rule} (h : rule.id ∉ r.ids)
    (severity : Option Severity) (categories : List String) :
    r.add rule severity categories =
      .ok { r with entries := r.entries ++ [entryFor rule severity categories] } := by
  rw [add, if_neg]
  simpa [contains] using h

/-- A rule with a new id is registered with its settings, unless it is disabled. -/
theorem value_addConfigured {r : Registry} {rule : Rule} (h : rule.id ∉ r.ids)
    (config : Config) :
    (addConfigured config r rule).value =
      .ok { r with entries := r.entries ++ (configured? config rule).toList } := by
  unfold addConfigured configured?
  cases config.settings? rule.id with
  | none => exact add_of_not_mem h none []
  | some settings =>
    by_cases hon : settings.enabled
    · simp only [hon, if_true]
      exact add_of_not_mem h _ _
    · simp [hon]

theorem id_of_configured? {config : Config} {rule : Rule} {e : Entry}
    (h : configured? config rule = some e) : e.id = rule.id := by
  unfold configured? at h
  split at h
  · rw [← Option.some.inj h]
    rfl
  · split at h
    · rw [← Option.some.inj h]
      rfl
    · cases h

/-- Rules with distinct new ids are all registered, except for those that are disabled. -/
theorem value_addAll (config : Config) (r : Registry) (rules : List Rule)
    (hdistinct : (rules.map Rule.id).Nodup) (hnew : ∀ rule ∈ rules, rule.id ∉ r.ids) :
    (addAll config r rules).value =
      .ok { r with entries := r.entries ++ rules.filterMap (configured? config) } := by
  induction rules generalizing r with
  | nil => simp [addAll]
  | cons rule rules ih =>
    obtain ⟨hrule, hrest⟩ := List.nodup_cons.mp hdistinct
    have hstep := value_addConfigured (hnew rule List.mem_cons_self) config
    have hfresh : ∀ other ∈ rules, other.id ∉
        ids { r with entries := r.entries ++ (configured? config rule).toList } := by
      intro other hother hmem
      rw [ids, List.map_append, List.mem_append] at hmem
      rcases hmem with hmem | hmem
      · exact hnew other (List.mem_cons_of_mem _ hother) hmem
      · obtain ⟨e, he, hid⟩ := List.mem_map.mp hmem
        have hsame := id_of_configured? (Option.mem_toList.mp he)
        exact hrule (List.mem_map.mpr ⟨other, hother, by rw [← hid, hsame]⟩)
    simp only [addAll, Logged.value_bind, hstep]
    rw [ih _ hrest hfresh, List.filterMap_cons]
    cases configured? config rule <;> simp

theorem nodup_builtinRules : (builtinRules.map Rule.id).Nodup := by
  decide

/-- The registered rule that a document asks for. -/
theorem configured?_of_ofDocument {d : Document} {config : Logged Config}
    (h : Config.ofDocument d = .ok config) (rule : Rule) :
    configured? config.value rule = Config.applied? d rule := by
  unfold configured? Config.applied? Config.disables Config.severityFor Config.disabledFor
  rw [Config.settings?_of_ofDocument h]
  cases Config.entryOf d rule.id with
  | none => rfl
  | some entry =>
    cases hoff : RuleSettings.isOff entry <;> simp [RuleSettings.saidBy, entryFor, hoff]

/-- The registry for a configuration document holds the rules that are not off, in their order and
with the settings that apply to them. -/
theorem entries_of_ofDocument {d : Document} {registry : Registry}
    (h : (ofDocument d).value = .ok registry) :
    registry.entries = builtinRules.filterMap (Config.applied? d) := by
  unfold ofDocument at h
  cases hconfig : Config.ofDocument d with
  | error fault => simp [hconfig] at h
  | ok config =>
    simp only [hconfig, Logged.value_bind, ofConfig] at h
    rw [value_addAll _ _ _ nodup_builtinRules (by simp [ids])] at h
    have happlied : configured? config.value = Config.applied? d :=
      funext (configured?_of_ofDocument hconfig)
    rw [← Except.ok.inj h, List.nil_append, happlied]

end Registry

end TreeLint
