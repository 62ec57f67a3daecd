import Mathlib.Data.List.Nodup
import TreeLint.Proofs.DumpFields
import TreeLint.Proofs.Settings
import TreeLint.Proofs.WellFormed

/-!
# Registration by a configuration document

A document is refused as a configuration only for its outer shape. Whatever else is wrong with it
leaves the rules as strict as they are: a rule is left out only where its entry says so literally,
its severity is its own unless its entry names another, and its categories are all reported unless
its entry lists names. Each of the three settings is taken from one place of the document, so it
does not depend on the rest of it, nor on the order of the entries.

## Main definitions

* `Config.entryGiven?`, `Config.fieldGiven?`: what a document has for a rule, well-formed or not
* `Config.IsRefused`: a document whose outer shape is not that of a configuration
* `Entry.Follows`: the settings of a registered rule are those of its fields in a document

## Main results

* `Config.entryOf_eq`: the entry that is used for a rule is the one given, if it can be used
* `Registry.exists_error_iff`: which documents are refused
* `Registry.registers_by_own_fields`: what a document registers, and what each setting depends on
-/

namespace TreeLint

/-- Whether a value is a mapping. -/
def Document.isMapping : Document → Bool
  | .obj _ => true
  | _ => false

open RuleSettings (fieldIn? isFalse isOff severityIn? categoriesIn asName?)

namespace Config

variable {d d' : Document} {id : String}

/-! ## What a document has for a rule -/

/-- The value under the id of a rule among the rules of a document. -/
def entryGiven? (d : Document) (id : String) : Option Document :=
  (fieldIn? d "rules").bind fun rules => fieldIn? rules id

/-- A field of the entry of a rule, where that is a mapping. -/
def fieldGiven? (d : Document) (id key : String) : Option Document :=
  (entryGiven? d id).bind fun entry => fieldIn? entry key

/-- Whether a document switches a rule off: its entry is false, or the switch in it is. -/
def switchesOff (d : Document) (id : String) : Bool :=
  isFalse (entryGiven? d id) || isFalse (fieldGiven? d id "enabled")

/-- The document is neither null nor a mapping, or its rules are given and are no mapping. -/
def IsRefused (d : Document) : Prop :=
  (d.isNull = false ∧ d.isMapping = false) ∨
    ∃ rules, fieldIn? d "rules" = some rules ∧ rules.holds ∧ rules.isMapping = false

theorem nodup_of_fieldIn? (hkeys : d.DistinctKeys) {key : String}
    {fields : List (String × Document)} (h : fieldIn? d key = some (.obj fields)) :
    (fields.map Prod.fst).Nodup := by
  cases d with
  | obj fs =>
    have hinner : (Document.obj fields).DistinctKeys :=
      (Document.distinctKeys_obj_iff.mp hkeys).2 _ (Dump.mem_of_lookup h)
    exact (Document.distinctKeys_obj_iff.mp hinner).1
  | _ => cases h

/-- Where keys are distinct, an entry that cannot be used is not replaced by another. -/
theorem find?_eq_filter_lookup {rules : List (String × Document)}
    (hkeys : (rules.map Prod.fst).Nodup) (id : String) :
    (rules.find? fun entry => entry.1 == id && entry.2.givesSettings).map Prod.snd =
      (rules.lookup id).filter Document.givesSettings := by
  induction rules with
  | nil => rfl
  | cons entry rules ih =>
    obtain ⟨hnew, hkeys⟩ := List.nodup_cons.mp hkeys
    rw [List.find?_cons, List.lookup_cons]
    by_cases hid : entry.1 = id
    · subst hid
      have hlater := ih hkeys
      rw [Dump.lookup_eq_none_of_not_mem hnew] at hlater
      cases hgives : entry.2.givesSettings with
      | false => simpa [Option.filter, hgives] using hlater
      | true => simp [Option.filter, hgives]
    · have hleft : (entry.1 == id) = false := beq_eq_false_iff_ne.mpr hid
      have hright : (id == entry.1) = false := beq_eq_false_iff_ne.mpr fun h => hid h.symm
      simp only [hleft, hright, Bool.false_and]
      exact ih hkeys

/-- Rules that are no mapping are refused if they hold, and count as none otherwise. -/
theorem entries_of_not_isMapping {fs : List (String × Document)} {rules : Document}
    (hrules : (Document.field? fs "rules").getD .null = rules) (hm : rules.isMapping = false) :
    entries (.obj fs) = if rules.holds then .error .rulesNotAMapping else .ok [] := by
  rw [entries, hrules]
  cases rules with
  | obj => cases hm
  | _ => rfl

theorem fieldIn?_of_not_isMapping (hm : d.isMapping = false) (key : String) :
    fieldIn? d key = none := by
  cases d with
  | obj => cases hm
  | _ => rfl

/-- The entry that is used for a rule is the one given, if it can be used. -/
theorem entryOf_eq (hkeys : d.DistinctKeys) (id : String) :
    entryOf d id = (entryGiven? d id).filter Document.givesSettings := by
  cases d with
  | obj fs =>
    cases hrules : Document.field? fs "rules" with
    | none => simp [entryOf, entries, entryGiven?, fieldIn?, hrules, Document.holds]
    | some rules =>
      have hgiven : entryGiven? (.obj fs) id = fieldIn? rules id := by
        rw [entryGiven?, fieldIn?, hrules, Option.bind_some]
      cases hm : rules.isMapping with
      | true =>
        cases rules with
        | obj rules =>
          rw [hgiven]
          simp only [entryOf, entries, hrules, Option.getD_some]
          exact find?_eq_filter_lookup (nodup_of_fieldIn? hkeys hrules) id
        | _ => cases hm
      | false =>
        rw [hgiven, fieldIn?_of_not_isMapping hm, entryOf,
          entries_of_not_isMapping (by rw [hrules, Option.getD_some]) hm]
        cases rules.holds <;> rfl
  | _ => rfl

/-- An entry that cannot be used has no fields, so the fields of the entry that is used are those
given. -/
theorem bind_entryOf (hkeys : d.DistinctKeys) (id key : String) :
    ((entryOf d id).bind fun entry => fieldIn? entry key) = fieldGiven? d id key := by
  rw [entryOf_eq hkeys, fieldGiven?]
  rcases entryGiven? d id with _ | entry
  · rfl
  · cases entry <;> rfl

/-- Where keys are distinct, the order of the entries does not matter. -/
theorem lookup_eq_of_perm {rules rules' : List (String × Document)}
    (hkeys : (rules.map Prod.fst).Nodup) (hperm : rules.Perm rules') (id : String) :
    rules.lookup id = rules'.lookup id := by
  induction hperm with
  | nil => rfl
  | cons entry _ ih =>
    rw [List.lookup_cons, List.lookup_cons, ih (List.nodup_cons.mp hkeys).2]
  | swap a b rules =>
    have hne : a.1 ≠ b.1 := by
      simp only [List.map_cons, List.nodup_cons, List.mem_cons, not_or] at hkeys
      exact fun h => hkeys.1.1 h.symm
    rw [List.lookup_cons, List.lookup_cons, List.lookup_cons, List.lookup_cons]
    -- The id is the key of at most one of the two entries that change places.
    cases ha : id == a.1 with
    | false => rfl
    | true =>
      have hb : (id == b.1) = false := by
        rw [eq_of_beq ha]
        exact beq_eq_false_iff_ne.mpr hne
      rw [hb]
  | trans hleft _ ihleft ihright =>
    rw [ihleft hkeys, ihright ((hleft.map Prod.fst).nodup_iff.mp hkeys)]

/-- A rule is disabled exactly if the document switches it off. -/
theorem disables_eq (hkeys : d.DistinctKeys) (id : String) : disables d id = switchesOff d id := by
  rw [disables, entryOf_eq hkeys, switchesOff, fieldGiven?]
  rcases entryGiven? d id with _ | entry
  · rfl
  · cases entry <;> rfl

/-- The severity of a rule is the one that its entry names, or else the rule's own. -/
theorem severityFor_eq (hkeys : d.DistinctKeys) (rule : Rule) :
    severityFor d rule =
      ((fieldGiven? d rule.id "severity").bind Severity.ofDocument?).getD rule.severity := by
  rw [severityFor, ← bind_entryOf hkeys, Option.bind_assoc]
  rfl

/-- The disabled categories of a rule are those that its entry lists, if all of them are texts. -/
theorem disabledFor_eq (hkeys : d.DistinctKeys) (id : String) :
    disabledFor d id = match fieldGiven? d id "disable_categories" with
      | some (.arr ds) => (ds.mapM asName?).getD []
      | _ => [] := by
  rw [disabledFor, ← bind_entryOf hkeys]
  cases entryOf d id <;> rfl

theorem mapM_asName?_eq_some_iff {ds : List Document} {names : List String} :
    ds.mapM asName? = some names ↔ ds = names.map .str := by
  induction ds generalizing names with
  | nil => cases names <;> simp
  | cons d ds ih =>
    cases d with
    | str s =>
      simp only [List.mapM_cons, asName?, Option.bind_eq_bind, Option.bind_some,
        Option.bind_eq_some_iff, ih, Option.pure_def, Option.some.injEq]
      constructor
      · rintro ⟨rest, rfl, rfl⟩
        rfl
      · intro h
        cases names with
        | nil => cases h
        | cons name names =>
          obtain ⟨⟨⟩, rfl⟩ := List.cons.inj h
          exact ⟨names, rfl, rfl⟩
    | _ => cases names <;> simp [List.mapM_cons, asName?]

theorem isRefused_iff : IsRefused d ↔ ∃ fault, entries d = .error fault := by
  cases d with
  | obj fs =>
    have hshape : IsRefused (.obj fs) ↔ ∃ rules, Document.field? fs "rules" = some rules ∧
        rules.holds ∧ rules.isMapping = false := by
      simp [IsRefused, Document.isMapping, fieldIn?]
    rw [hshape]
    cases hrules : Document.field? fs "rules" with
    | none => simp [entries, hrules, Document.holds]
    | some rules =>
      cases hm : rules.isMapping with
      | true =>
        cases rules with
        | obj rules => simp [entries, hrules, Document.isMapping]
        | _ => cases hm
      | false =>
        rw [entries_of_not_isMapping (by rw [hrules, Option.getD_some]) hm]
        cases hholds : rules.holds <;> simp [hm, hholds]
  | _ => simp [IsRefused, entries, fieldIn?, Document.isMapping, Document.isNull]

end Config

/-! ## Registered rules -/

/-- The settings of a registered rule are those of its own fields in a document: the severity that
is named there, or else the rule's own, and the disabled categories that are listed there, or else
none. -/
structure Entry.Follows (e : Entry) (d : Document) : Prop where
  severity_of_named : ∀ v severity, Config.fieldGiven? d e.id "severity" = some v →
    Severity.ofDocument? v = some severity → e.severity = severity
  severity_of_unnamed : (∀ v, Config.fieldGiven? d e.id "severity" = some v →
    Severity.ofDocument? v = none) → e.severity = e.rule.severity
  disabled_of_listed : ∀ names : List String,
    Config.fieldGiven? d e.id "disable_categories" = some (.arr (names.map .str)) →
    e.disabledCategories = names
  disabled_of_unlisted : (∀ names : List String,
    Config.fieldGiven? d e.id "disable_categories" ≠ some (.arr (names.map .str))) →
    e.disabledCategories = []

namespace Registry

variable {d d' : Document} {registry registry' : Registry} {e e' : Entry}

/-- A registry is refused exactly if its document is. The built-in rules have distinct ids, so
registering them does not fail. -/
theorem exists_error_iff :
    (∃ fault, (ofDocument d).value = .error fault) ↔ Config.IsRefused d := by
  rw [Config.isRefused_iff]
  cases hentries : Config.entries d with
  | error fault => simp [ofDocument, Config.ofDocument, hentries, Except.map]
  | ok rules =>
    simp only [ofDocument, Config.ofDocument, hentries, Except.map, Logged.value_bind, ofConfig]
    rw [value_addAll _ _ _ nodup_builtinRules (by simp [ids])]
    simp

/-- The registered rules are the built-in ones that are not switched off, in their order. -/
theorem map_rule_entries (hkeys : d.DistinctKeys) (h : (ofDocument d).value = .ok registry) :
    registry.entries.map Entry.rule =
      builtinRules.filter fun rule => !Config.switchesOff d rule.id := by
  rw [entries_of_ofDocument h, List.map_filterMap, ← List.filterMap_eq_filter]
  refine List.filterMap_congr fun rule _ => ?_
  rw [Config.applied?, Config.disables_eq hkeys]
  cases hoff : Config.switchesOff d rule.id <;> simp [Option.guard, hoff]

/-- A registered rule is built in, and its settings are those of the document. -/
theorem mem_entries (h : (ofDocument d).value = .ok registry) (he : e ∈ registry.entries) :
    e.rule ∈ builtinRules ∧ e.severity = Config.severityFor d e.rule ∧
      e.disabledCategories = Config.disabledFor d e.id := by
  rw [entries_of_ofDocument h] at he
  obtain ⟨rule, hrule, happlied⟩ := List.mem_filterMap.mp he
  obtain ⟨-, rfl⟩ := Config.applied?_eq_some_iff.mp happlied
  exact ⟨hrule, rfl, rfl⟩

/-- The id of an entry tells its rule, whatever the document was. -/
theorem rule_eq_of_id_eq (h : (ofDocument d).value = .ok registry) (he : e ∈ registry.entries)
    (h' : (ofDocument d').value = .ok registry') (he' : e' ∈ registry'.entries)
    (hid : e.id = e'.id) : e.rule = e'.rule :=
  List.inj_on_of_nodup_map nodup_builtinRules (mem_entries h he).1 (mem_entries h' he').1 hid

theorem follows_of_mem (hkeys : d.DistinctKeys) (h : (ofDocument d).value = .ok registry)
    (he : e ∈ registry.entries) : e.Follows d := by
  obtain ⟨-, hseverity, hdisabled⟩ := mem_entries h he
  rw [Config.severityFor_eq hkeys] at hseverity
  rw [Config.disabledFor_eq hkeys] at hdisabled
  refine ⟨fun v severity hv hnamed => ?_, fun hunnamed => ?_, fun names hlisted => ?_,
    fun hunlisted => ?_⟩
  · have hfield : Config.fieldGiven? d e.rule.id "severity" = some v := hv
    rw [hseverity, hfield, Option.bind_some, hnamed, Option.getD_some]
  · rw [hseverity]
    cases hfield : Config.fieldGiven? d e.rule.id "severity" with
    | none => rfl
    | some v => rw [Option.bind_some, hunnamed v hfield, Option.getD_none]
  · rw [hdisabled, hlisted]
    simp only [Config.mapM_asName?_eq_some_iff.mpr rfl, Option.getD_some]
  · rw [hdisabled]
    split
    · next ds hfield =>
      cases hnames : ds.mapM asName? with
      | none => rfl
      | some names =>
        rw [Config.mapM_asName?_eq_some_iff] at hnames
        exact absurd (hnames ▸ hfield) (hunlisted names)
    · rfl

/-- Entries of one rule have the same severity if the documents give it the same. -/
theorem severity_eq_of_mem (hkeys : d.DistinctKeys) (h : (ofDocument d).value = .ok registry)
    (he : e ∈ registry.entries) (hkeys' : d'.DistinctKeys)
    (h' : (ofDocument d').value = .ok registry') (he' : e' ∈ registry'.entries)
    (hid : e.id = e'.id)
    (hfield : Config.fieldGiven? d e.id "severity" = Config.fieldGiven? d' e.id "severity") :
    e.severity = e'.severity := by
  have hrule := rule_eq_of_id_eq h he h' he' hid
  have hfield : Config.fieldGiven? d e.rule.id "severity" =
      Config.fieldGiven? d' e.rule.id "severity" := hfield
  rw [(mem_entries h he).2.1, (mem_entries h' he').2.1, Config.severityFor_eq hkeys,
    Config.severityFor_eq hkeys', ← hrule, hfield]

/-- Entries of one rule have the same disabled categories if the documents give it the same. -/
theorem disabled_eq_of_mem (hkeys : d.DistinctKeys) (h : (ofDocument d).value = .ok registry)
    (he : e ∈ registry.entries) (hkeys' : d'.DistinctKeys)
    (h' : (ofDocument d').value = .ok registry') (he' : e' ∈ registry'.entries)
    (hid : e.id = e'.id)
    (hfield : Config.fieldGiven? d e.id "disable_categories" =
      Config.fieldGiven? d' e.id "disable_categories") :
    e.disabledCategories = e'.disabledCategories := by
  rw [(mem_entries h he).2.2, (mem_entries h' he').2.2, Config.disabledFor_eq hkeys,
    Config.disabledFor_eq hkeys', hfield, hid]

/-- A built-in rule is registered exactly if it is not switched off. -/
theorem mem_ids_iff (hkeys : d.DistinctKeys) (h : (ofDocument d).value = .ok registry)
    {rule : Rule} (hrule : rule ∈ builtinRules) :
    rule ∈ registry.entries.map Entry.rule ↔ Config.switchesOff d rule.id = false := by
  rw [map_rule_entries hkeys h, List.mem_filter]
  simp [hrule]

/-- The entries are the same if the documents have the same entries for the built-in rules. -/
theorem entries_eq_of_entryGiven? (hkeys : d.DistinctKeys)
    (h : (ofDocument d).value = .ok registry) (hkeys' : d'.DistinctKeys)
    (h' : (ofDocument d').value = .ok registry')
    (hsame : ∀ rule ∈ builtinRules, Config.entryGiven? d rule.id = Config.entryGiven? d' rule.id) :
    registry.entries = registry'.entries := by
  rw [entries_of_ofDocument h, entries_of_ofDocument h']
  refine List.filterMap_congr fun rule hrule => ?_
  have hentry : Config.entryOf d rule.id = Config.entryOf d' rule.id := by
    rw [Config.entryOf_eq hkeys, Config.entryOf_eq hkeys', hsame rule hrule]
  rw [Config.applied?, Config.applied?, Config.disables, Config.disables, Config.severityFor,
    Config.severityFor, Config.disabledFor, Config.disabledFor, hentry]

/-- **A malformed configuration weakens no rule.** A document with distinct keys is refused if and
only if it is neither null nor a mapping, or its rules are given and no mapping. Otherwise it
registers, in their order, the built-in rules that it does not literally switch off, each with the
severity and the disabled categories of its own fields.

Two documents agree on a rule's being registered if they agree on its entry's being false and on its
switch, on its severity if they agree on that field, and on its disabled categories if they agree on
that one, whatever else they hold. So they register the same if they have the same entries for the
built-in rules, and in particular if only the order of the entries differs. -/
theorem registers_by_own_fields (hkeys : d.DistinctKeys) :
    ((∃ fault, (ofDocument d).value = .error fault) ↔ Config.IsRefused d) ∧
    ∀ registry, (ofDocument d).value = .ok registry →
      registry.entries.map Entry.rule =
        builtinRules.filter (fun rule => !Config.switchesOff d rule.id) ∧
      (∀ e ∈ registry.entries, e.Follows d) ∧
      ∀ d' registry', d'.DistinctKeys → (ofDocument d').value = .ok registry' →
        (∀ rule ∈ builtinRules,
          isFalse (Config.entryGiven? d rule.id) = isFalse (Config.entryGiven? d' rule.id) →
          Config.fieldGiven? d rule.id "enabled" = Config.fieldGiven? d' rule.id "enabled" →
          (rule ∈ registry.entries.map Entry.rule ↔ rule ∈ registry'.entries.map Entry.rule)) ∧
        (∀ e ∈ registry.entries, ∀ e' ∈ registry'.entries, e.id = e'.id →
          (Config.fieldGiven? d e.id "severity" = Config.fieldGiven? d' e.id "severity" →
            e.severity = e'.severity) ∧
          (Config.fieldGiven? d e.id "disable_categories" =
              Config.fieldGiven? d' e.id "disable_categories" →
            e.disabledCategories = e'.disabledCategories)) ∧
        ((∀ rule ∈ builtinRules,
            Config.entryGiven? d rule.id = Config.entryGiven? d' rule.id) →
          registry.entries = registry'.entries) ∧
        (∀ rules rules', fieldIn? d "rules" = some (.obj rules) →
          fieldIn? d' "rules" = some (.obj rules') → rules.Perm rules' →
          registry.entries = registry'.entries) := by
  refine ⟨exists_error_iff, fun registry h => ⟨map_rule_entries hkeys h,
    fun e he => follows_of_mem hkeys h he, fun d' registry' hkeys' h' => ?_⟩⟩
  have hentries := entries_eq_of_entryGiven? hkeys h hkeys' h'
  refine ⟨fun rule hrule hentry hswitch => ?_, fun e he e' he' hid => ⟨?_, ?_⟩, hentries,
    fun rules rules' hrules hrules' hperm => hentries fun rule _ => ?_⟩
  · rw [mem_ids_iff hkeys h hrule, mem_ids_iff hkeys' h' hrule, Config.switchesOff,
      Config.switchesOff, hentry, hswitch]
  · exact severity_eq_of_mem hkeys h he hkeys' h' he' hid
  · exact disabled_eq_of_mem hkeys h he hkeys' h' he' hid
  · rw [Config.entryGiven?, hrules, Config.entryGiven?, hrules', Option.bind_some,
      Option.bind_some]
    exact Config.lookup_eq_of_perm (Config.nodup_of_fieldIn? hkeys hrules) hperm rule.id

/-- A configuration that switches one rule off and is malformed in the entries of two others. -/
def damagedConfig : Document :=
  .obj [("rules", .obj [("security_unsafe_usage", .bool false), ("missing_type", .int 3),
    ("security_panic_usage", .obj [("enabled", .str "no"), ("severity", .str " Warn")]),
    ("security_typo_usage", .bool false)])]

/-- The malformed entries leave their rules on, and the severity beside the malformed switch
applies. -/
theorem registers_damagedConfig :
    damagedConfig.DistinctKeys ∧ ∃ registry, (ofDocument damagedConfig).value = .ok registry ∧
      registry.entries.map Entry.rule = [indexing, panicProne, missingType] ∧
      (∀ e ∈ registry.entries, e.id = "security_panic_usage" → e.severity = .warn) ∧
      ∀ e ∈ registry.entries, e.id = "missing_type" → e.severity = e.rule.severity := by
  have hkeys : damagedConfig.DistinctKeys := by simp [damagedConfig]
  obtain ⟨registry, hregistry⟩ :
      ∃ registry, (ofDocument damagedConfig).value = .ok registry := ⟨_, rfl⟩
  obtain ⟨hrules, hfollows, -⟩ := (registers_by_own_fields hkeys).2 registry hregistry
  refine ⟨hkeys, registry, hregistry, hrules, fun e he hid => ?_, fun e he hid => ?_⟩
  · refine (hfollows e he).severity_of_named (.str " Warn") .warn ?_ (by decide)
    rw [hid]
    rfl
  · refine (hfollows e he).severity_of_unnamed fun v hv => ?_
    rw [hid] at hv
    cases hv

end Registry

end TreeLint
