import Mathlib.Data.List.Basic
import TreeLint.Proofs.Conditions
import TreeLint.Proofs.Settings

/-!
# Rules do not interfere

All rules of a registry are offered the same nodes in one traversal, and what they report goes to
one sink, which drops duplicates. Still a rule reports what it would report alone. This rests on
three facts: no two registered rules have the same id, an offer that fails leaves the other offers
as they are, and rules put their own ids on their diagnostics, so that no diagnostic of one rule is
a duplicate of another's.

## Main definitions

* `Registration`, `Registry.ofRegistrations`: the registry after a sequence of registrations
* `Rule.LabelsOwn`: a rule puts its own id on all that it reports
* `recordedFor`: the diagnostics of a rule after a traversal

## Main results

* `Registry.nodup_ids_ofRegistrations`: ids are unique after any sequence of registrations
* `emissions_filter_rule`: the contributions with the id of a rule are those of its entry
* `traverse_isolates_rules`: a rule reports among others what it reports alone
-/

namespace TreeLint

/-! ## Sequences of registrations -/

/-- A rule with the settings that it is to be registered with. -/
structure Registration where
  rule : Rule
  severity : Option Severity := none
  disabledCategories : List String := []

namespace Registry

/-- The registry after a registration. One that is refused leaves the registry as it was. -/
def register (r : Registry) (c : Registration) : Registry :=
  match r.add c.rule c.severity c.disabledCategories with
  | .ok s => s
  | .error _ => r

/-- The registry after a sequence of registrations to an empty one. -/
def ofRegistrations (cs : List Registration) : Registry :=
  cs.foldl register empty

theorem ofRegistrations_concat (cs : List Registration) (c : Registration) :
    ofRegistrations (cs ++ [c]) = (ofRegistrations cs).register c :=
  List.foldl_append

/-- A registration whose id is taken changes nothing, and any other adds an entry at the end. -/
theorem entries_register (r : Registry) (c : Registration) :
    (r.register c).entries = if c.rule.id ∈ r.ids then r.entries
      else r.entries ++ [entryFor c.rule c.severity c.disabledCategories] := by
  unfold register
  by_cases hid : c.rule.id ∈ r.ids
  · have hrefused : r.add c.rule c.severity c.disabledCategories =
        .error (.duplicateRule c.rule.id) := by
      rw [add, if_pos]
      simpa [contains] using hid
    rw [hrefused, if_pos hid]
  · rw [add_of_not_mem hid, if_neg hid]

/-- Registering a rule does not repeat an id, since one that is taken is refused. -/
theorem nodup_ids_register {r : Registry} (hr : r.ids.Nodup) (c : Registration) :
    (r.register c).ids.Nodup := by
  rw [ids, entries_register]
  split
  case isTrue => exact hr
  case isFalse hnew =>
    rw [List.map_append, List.nodup_append]
    refine ⟨hr, List.pairwise_singleton _ _, ?_⟩
    rintro id hid _ hc rfl
    have hc : id = c.rule.id := List.mem_singleton.mp hc
    exact hnew (hc ▸ hid)

/-- Ids are unique after any sequence of registrations, whichever of them were refused. -/
theorem nodup_ids_ofRegistrations (cs : List Registration) : (ofRegistrations cs).ids.Nodup := by
  induction cs using List.reverseRecOn with
  | nil => exact List.nodup_nil
  | append_singleton cs c ih =>
    rw [ofRegistrations_concat]
    exact nodup_ids_register ih c

theorem exists_of_mem_ofRegistrations {cs : List Registration} {e : Entry}
    (he : e ∈ (ofRegistrations cs).entries) : ∃ c ∈ cs, e.rule = c.rule := by
  induction cs using List.reverseRecOn with
  | nil => cases he
  | append_singleton cs c ih =>
    have hcases : e ∈ (ofRegistrations cs).entries ∨ e.rule = c.rule := by
      rw [ofRegistrations_concat, entries_register] at he
      split at he
      case isTrue => exact .inl he
      case isFalse =>
        rcases List.mem_append.mp he with hold | hadded
        · exact .inl hold
        · rw [List.mem_singleton.mp hadded]
          exact .inr rfl
    rcases hcases with hold | hrule
    · obtain ⟨c', hc', hrule⟩ := ih hold
      exact ⟨c', List.mem_append_left _ hc', hrule⟩
    · exact ⟨c, by simp, hrule⟩

/-- Where ids are unique, the entry of an id is the only one with it. -/
theorem exists_split_of_get? {r : Registry} (hr : r.ids.Nodup) {id : String} {e : Entry}
    (he : r.get? id = some e) :
    ∃ before after, r.entries = before ++ e :: after ∧ e.id = id ∧
      (∀ other ∈ before, other.id ≠ id) ∧ ∀ other ∈ after, other.id ≠ id := by
  obtain ⟨hid, before, after, hsplit, hbefore⟩ := List.find?_eq_some_iff_append.mp he
  have hid : e.id = id := by simpa using hid
  refine ⟨before, after, hsplit, hid, fun other hother => by simpa using hbefore other hother, ?_⟩
  intro other hother hsame
  rw [ids, hsplit, List.map_append, List.map_cons] at hr
  have hnodup := (List.nodup_cons.mp (List.nodup_append.mp hr).2.1).1
  exact hnodup (List.mem_map.mpr ⟨other, hother, hsame.trans hid.symm⟩)

end Registry

/-! ## Rules that label what they report -/

/-- The rule puts its own id on all diagnostics that it reports, whatever the node. -/
def Rule.LabelsOwn (rule : Rule) : Prop :=
  ∀ context node ds, (rule.check context node).value = .reported ds → ∀ d ∈ ds, d.rule = rule.id

/-- A rule that reports findings labels them with its own id. -/
theorem Rule.Finds.labelsOwn {rule : Rule}
    {findings : CompilationUnit → Node → Option (List Finding)} (h : rule.Finds findings) :
    rule.LabelsOwn := by
  intro context node ds hds d hd
  rw [h context node] at hds
  split at hds
  · obtain rfl := Outcome.reported.inj hds
    obtain ⟨f, -, rfl⟩ := List.mem_map.mp hd
    rfl
  · cases hds

/-- What an offer contributes bears the id of the entry. -/
theorem Entry.rule_of_mem_emission {e : Entry} (h : e.rule.LabelsOwn) {context : Context}
    {node : Node} {d : Diagnostic} (hd : d ∈ e.emission (e.rule.check context node).value) :
    d.rule = e.id := by
  cases houtcome : (e.rule.check context node).value with
  | reported ds =>
    rw [houtcome, emission] at hd
    split at hd
    · cases hd
    · obtain ⟨d', hd', rfl⟩ := List.mem_map.mp ((List.takeWhile_sublist _).subset hd)
      have hkept : (e.restamp d').rule = d'.rule := by
        unfold restamp
        split <;> rfl
      rw [hkept]
      exact h context node ds houtcome d' (List.mem_filter.mp hd').1
  | nothing =>
    rw [houtcome] at hd
    cases hd
  | unclassified reason =>
    rw [houtcome] at hd
    cases hd
  | failed =>
    rw [houtcome] at hd
    cases hd

/-! ## Isolation -/

section Isolation

variable {r : Registry} {id : String} {e : Entry}

/-- The contributions with the id of a rule are those of its entry, offer by offer. -/
theorem emissions_filter_rule (hr : r.ids.Nodup)
    (hlabels : ∀ other ∈ r.entries, other.rule.LabelsOwn) (he : r.get? id = some e)
    (context : Context) (roots : List Node) :
    ((emissions context r.entries roots).filter fun d => d.rule == id) =
      emissions context [e] roots := by
  obtain ⟨before, after, hsplit, rfl, hbefore, hafter⟩ := Registry.exists_split_of_get? hr he
  rw [hsplit] at hlabels ⊢
  simp only [emissions, List.filter_flatMap]
  refine List.flatMap_congr fun node _ => ?_
  -- The offers to all other entries contribute nothing that bears the id.
  have hnone : ∀ others : List Entry, (∀ other ∈ others, other.rule.LabelsOwn) →
      (∀ other ∈ others, other.id ≠ e.id) →
      (others.flatMap fun other => (other.emission (other.rule.check context node).value).filter
        fun d => d.rule == e.id) = [] := by
    intro others howns hother
    refine List.flatMap_eq_nil_iff.mpr fun other hmem => List.filter_eq_nil_iff.mpr fun d hd => ?_
    rw [Entry.rule_of_mem_emission (howns other hmem) hd]
    simpa using hother other hmem
  have hall : (e.emission (e.rule.check context node).value).filter (fun d => d.rule == e.id) =
      e.emission (e.rule.check context node).value := by
    refine List.filter_eq_self.mpr fun d hd => ?_
    rw [Entry.rule_of_mem_emission (hlabels e (by simp)) hd]
    exact beq_self_eq_true _
  rw [List.flatMap_append, List.flatMap_cons, List.flatMap_singleton,
    hnone before (fun other h => hlabels other (by simp [h])) hbefore,
    hnone after (fun other h => hlabels other (by simp [h])) hafter, hall, List.nil_append,
    List.append_nil]

/-- The diagnostics with the id of a rule that the sink holds after a traversal. -/
def recordedFor (id : String) (context : Context) (entries : List Entry) (roots : List Node)
    (sink : Sink) : List Diagnostic :=
  (traverse context entries roots sink).value.diagnostics.filter fun d => d.rule == id

/-- A rule adds to any sink the first occurrences of what its own entry contributes. -/
theorem recordedFor_eq (hr : r.ids.Nodup)
    (hlabels : ∀ other ∈ r.entries, other.rule.LabelsOwn) (he : r.get? id = some e)
    (context : Context) (roots : List Node) (sink : Sink) :
    recordedFor id context r.entries roots sink =
      (sink.diagnostics.filter fun d => d.rule == id) ++
        ((emissions context [e] roots).filter fun d => !sink.seen.contains d).eraseDups := by
  rw [recordedFor, value_traverse, Sink.diagnostics_acceptAll, List.filter_append,
    ← eraseDups_filter, List.filter_comm, emissions_filter_rule hr hlabels he]

/-- What is recorded for a rule depends on its own entry only, whatever else is registered. -/
theorem recordedFor_ofRegistrations {cs : List Registration}
    (hlabels : ∀ c ∈ cs, c.rule.LabelsOwn) (he : (Registry.ofRegistrations cs).get? id = some e)
    (context : Context) (roots : List Node) (sink : Sink) :
    recordedFor id context (Registry.ofRegistrations cs).entries roots sink =
      (sink.diagnostics.filter fun d => d.rule == id) ++
        ((emissions context [e] roots).filter fun d => !sink.seen.contains d).eraseDups := by
  refine recordedFor_eq (Registry.nodup_ids_ofRegistrations cs) ?_ he context roots sink
  intro other hother
  obtain ⟨c, hc, hrule⟩ := Registry.exists_of_mem_ofRegistrations hother
  exact hrule ▸ hlabels c hc

theorem recordedFor_singleton (hlabels : e.rule.LabelsOwn) (context : Context)
    (roots : List Node) (sink : Sink) :
    recordedFor e.id context [e] roots sink =
      (sink.diagnostics.filter fun d => d.rule == e.id) ++
        ((emissions context [e] roots).filter fun d => !sink.seen.contains d).eraseDups := by
  refine recordedFor_eq (r := ⟨[e], []⟩) (List.pairwise_singleton _ _) ?_ ?_ context roots sink
  · simpa using hlabels
  · simp [Registry.get?]

end Isolation

/-- **Rules do not interfere.** In a registry built by any registrations, of rules that put their
own ids on what they report, the diagnostics that a traversal records for a registered rule are
those that it records with the entry of that rule alone, in the same order. So it is for every sink
that the traversal starts with, and any other registry with the same entry for the rule gives the
same diagnostics of the rule. -/
theorem traverse_isolates_rules {cs : List Registration} (hlabels : ∀ c ∈ cs, c.rule.LabelsOwn)
    {id : String} {e : Entry} (he : (Registry.ofRegistrations cs).get? id = some e)
    (context : Context) (roots : List Node) :
    recordedFor id context (Registry.ofRegistrations cs).entries roots .empty =
      (traverse context [e] roots .empty).value.diagnostics ∧
    (∀ sink, recordedFor id context (Registry.ofRegistrations cs).entries roots sink =
      recordedFor id context [e] roots sink) ∧
    ∀ others : List Registration, (∀ c ∈ others, c.rule.LabelsOwn) →
      (Registry.ofRegistrations others).get? id = some e →
      ∀ sink, recordedFor id context (Registry.ofRegistrations others).entries roots sink =
        recordedFor id context (Registry.ofRegistrations cs).entries roots sink := by
  refine ⟨?_, fun sink => ?_, fun others hothers hsame sink => ?_⟩
  · rw [recordedFor_ofRegistrations hlabels he, value_traverse, Sink.diagnostics_acceptAll]
    rfl
  · obtain rfl : e.id = id := by simpa using List.find?_some he
    obtain ⟨c, hc, hrule⟩ :=
      Registry.exists_of_mem_ofRegistrations (List.mem_of_find?_eq_some he)
    have hlabel : e.rule.LabelsOwn := hrule ▸ hlabels c hc
    rw [recordedFor_ofRegistrations hlabels he, recordedFor_singleton hlabel]
  · rw [recordedFor_ofRegistrations hothers hsame, recordedFor_ofRegistrations hlabels he]

/-- A rule that cannot classify an index expression and fails on every other node. -/
def explodingRule (id : String) : Rule where
  id := id
  severity := .deny
  check _ node := match node with
    | .expr (.index ..) => pure (.unclassified "cannot classify index")
    | _ => pure .failed

/-- Registrations of two built-in rules after a rule that always fails, with one more for an id that
is taken. -/
def crowdedRegistrations : List Registration :=
  [⟨explodingRule "exploding", none, []⟩, ⟨uncheckedRegion, some .warn, ["trait"]⟩,
    ⟨indexing, none, []⟩, ⟨explodingRule "security_unsafe_usage", none, []⟩]

/-- A line of the crowded roots. -/
def crowdedLine (line : Int) : Span :=
  .written ⟨"src/lib.rs", line, 1, line, 9⟩

/-- A foreign item, and an unchecked function with an unchecked block that indexes after a foreign
statement. -/
def crowdedRoots : List Node :=
  let indexed : Expr :=
    .index (.literal .null (crowdedLine 3)) (.literal (.int 0) (crowdedLine 3)) (crowdedLine 3)
  let body : Block := .mk [.foreign "Foreign" (crowdedLine 3)] (crowdedLine 2) (some indexed)
    .uncheckedByUser (crowdedLine 2)
  [.item (.foreign "Foreign" (crowdedLine 9)),
    .item (.function "run" (crowdedLine 1) .unchecked [] (some body))]

/-- Among a rule that fails on every node and another that reports, the rule on unchecked regions
records its two diagnostics, with the severity of the registration that was not refused. -/
theorem traverse_isolates_uncheckedRegion :
    let context : Context := ⟨⟨"lib", [], [], {}⟩, none⟩
    recordedFor "security_unsafe_usage" context
        (Registry.ofRegistrations crowdedRegistrations).entries crowdedRoots .empty =
      [⟨"security_unsafe_usage", .warn, crowdedLine 1, "Unsafe function detected.",
          .named "function"⟩,
        ⟨"security_unsafe_usage", .warn, crowdedLine 2, "Usage of unsafe block detected.",
          .named "block"⟩] := by
  intro context
  have hexploding : ∀ id, (explodingRule id).LabelsOwn := by
    intro id context node ds hds
    simp only [explodingRule] at hds
    split at hds <;> cases hds
  have hlabels : ∀ c ∈ crowdedRegistrations, c.rule.LabelsOwn := by
    simp only [crowdedRegistrations, List.forall_mem_cons]
    exact ⟨hexploding _, (Rule.finds_ofFindings _ _ _).labelsOwn,
      (Rule.finds_ofFindings _ _ _).labelsOwn, hexploding _, List.forall_mem_nil _⟩
  have he : (Registry.ofRegistrations crowdedRegistrations).get? "security_unsafe_usage" =
      some ⟨uncheckedRegion, .warn, ["trait"]⟩ := rfl
  rw [(traverse_isolates_rules hlabels he context crowdedRoots).1, value_traverse,
    Sink.diagnostics_acceptAll]
  cbv

end TreeLint
