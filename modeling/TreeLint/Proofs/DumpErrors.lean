import TreeLint.Proofs.DumpDescent

/-!
# The error of a dump

A dump that cannot be read fails with the first fault that is met on the way through it. The way
goes from a document to one of its parts when everything that is read before that part can be read;
it keeps the innermost node that it has entered by its kind. The fault at its end is the fault of
the dump, of every document on the way and of no other: only a missing field, which has no node of
its own, is attributed to the innermost node around it.

## Main definitions

* `Site`: a document in a position of a file, with the innermost node around it
* `Site.ComesTo`: reading a document comes to a part of it, at any depth
* `Site.Stops`: reading a document stops at a fault of its own

## Main results

* `Site.ComesTo.exists_fault?`: the fault at which reading stops is seen from every document around
* `Site.exists_comesTo`: every fault has a place at which reading stops
* `Site.ComesTo.fault?_eq_some`: the fault of a node is that of every document around it
* `dump_errors_name_innermost_nodes`: the error of a dump is its first fault
-/

namespace TreeLint.Dump

/-! ## Attribution -/

namespace Fault

theorem within_ne_absent (sort : NodeSort) (word key : String) (fault : Fault) :
    fault.within sort word ≠ .absent key := by
  cases fault <;> rintro ⟨⟩

/-- A fault that is attributed to a node is not attributed again outside of it. -/
theorem attributed_attributed (fault : Fault) (inner outer : Option (NodeSort × String)) :
    (fault.attributed inner).attributed outer = fault.attributed (inner.or outer) := by
  rcases inner with _ | ⟨sort, word⟩
  · rfl
  · exact attributed_of_ne_absent (fun key => within_ne_absent sort word key fault) outer

/-- Only a missing field that no node answers for is of a class of its own. -/
theorem faultClass_eq_incomplete_iff {fault : Fault} :
    fault.faultClass = .incomplete ↔ ∃ key, fault = .absent key := by
  cases fault with
  | notAMapping role got => cases hrole : role.asksOptionally <;> simp [faultClass, hrole]
  | _ => simp [faultClass]

end Fault

/-- What a node fails with names a node already, or is no missing field. -/
theorem Position.ne_absent_of_node {file : String} {sort : NodeSort} {d : Document} {fault : Fault}
    (h : (slot (.node sort)).fault? file d = some fault) (key : String) : fault ≠ .absent key := by
  cases d with
  | obj fs =>
    cases hkind : (Slot.node sort).kind? fs with
    | none =>
      rw [fault?, Slot.role_obj_of_no_kind hkind] at h
      cases h
      exact kindFault_ne_absent sort key
    | some kind =>
      rw [fault?, Slot.role_obj hkind, faultOf?_mapError, Option.map_eq_some_iff] at h
      obtain ⟨inner, -, rfl⟩ := h
      exact Fault.within_ne_absent sort _ key inner
  | _ =>
    cases sort
    all_goals
      rw [fault?, Slot.role, Slot.raw, read] at h
      cases h
      rintro ⟨⟩

/-! ## The way through a dump -/

/-- A document that is read in a position of a file, with the innermost node around it. -/
structure Site where
  file : String
  owner : Option (NodeSort × String)
  position : Position
  document : Document

namespace Site

/-- A whole dump. -/
def ofDump (file : String) (d : Document) : Site :=
  ⟨file, none, .dump, d⟩

/-- The fault of the document. -/
def fault? (s : Site) : Option Fault :=
  s.position.fault? s.file s.document

/-- The steps in which the document is read. -/
def steps (s : Site) : List Step :=
  s.position.steps s.document

/-- The innermost node with the fields of the document: the document itself if it is a node that
names its kind, and otherwise the innermost node around it. -/
def innermost (s : Site) : Option (NodeSort × String) :=
  (s.position.owner? s.document).or s.owner

/-- A part of the document in a position. -/
def part (s : Site) (p : Position) (x : Document) : Site :=
  ⟨s.position.fileWithin s.file s.document, s.innermost, p, x⟩

/-- All of these steps can be taken when the document is read. -/
def Passes (s : Site) (steps : List Step) : Prop :=
  ∀ step ∈ steps, step.fault? (s.position.fileWithin s.file s.document) = none

/-- Reading the first document comes to the second, a part of it at any depth: in each document on
the way, all steps before the next part can be taken. -/
inductive ComesTo : Site → Site → Prop
  | refl (s : Site) : ComesTo s s
  | into {s t : Site} {before after : List Step} {p : Position} {x : Document}
      (hsteps : s.steps = before ++ .visit p x :: after) (hbefore : s.Passes before)
      (hpart : ComesTo (s.part p x) t) : ComesTo s t

/-- Reading the document stops at a fault of its own, after steps that can all be taken. -/
def Stops (s : Site) (own : Fault) : Prop :=
  ∃ before after, s.steps = before ++ .fault own :: after ∧ s.Passes before

variable {s t : Site} {fault own : Fault}

/-! ## From the place of a fault outwards -/

theorem fault?_eq (s : Site) :
    s.fault? = (Step.first (s.position.fileWithin s.file s.document) s.steps).map
      (Fault.attributed (s.position.owner? s.document)) :=
  s.position.fault?_eq s.file s.document

/-- The first step that fails decides on the fault of the document. -/
theorem fault?_of_step {before after : List Step} {step : Step}
    (hsteps : s.steps = before ++ step :: after) (hbefore : s.Passes before)
    (hstep : step.fault? (s.position.fileWithin s.file s.document) = some fault) :
    s.fault? = some (fault.attributed (s.position.owner? s.document)) := by
  have hnone : Step.first (s.position.fileWithin s.file s.document) before = none := by
    refine firstFault_eq_none_iff.mpr fun fault hfault => ?_
    obtain ⟨step, hmem, rfl⟩ := List.mem_map.mp hfault
    exact hbefore step hmem
  have hfirst : Step.first (s.position.fileWithin s.file s.document) (step :: after) =
      some fault := by
    rw [Step.first, List.map_cons, hstep]
    rfl
  rw [fault?_eq, hsteps, Step.first_append, hnone, Option.none_or, hfirst, Option.map_some]

theorem Stops.fault?_eq_some (h : s.Stops own) :
    s.fault? = some (own.attributed (s.position.owner? s.document)) := by
  obtain ⟨before, after, hsteps, hbefore⟩ := h
  exact fault?_of_step hsteps hbefore rfl

/-- Where reading stops on the way through a document, there the document fails. Seen from around
it, the fault is attributed to the innermost node of the place where reading stops. -/
theorem ComesTo.exists_fault? (h : s.ComesTo t) (hstops : t.Stops own) :
    ∃ fault, s.fault? = some fault ∧ fault.attributed s.owner = own.attributed t.innermost := by
  induction h with
  | refl s => exact ⟨_, hstops.fault?_eq_some, Fault.attributed_attributed own _ _⟩
  | @into s t before after p x hsteps hbefore _ ih =>
    obtain ⟨fault, hfault, hsame⟩ := ih hstops
    refine ⟨_, fault?_of_step hsteps hbefore hfault, ?_⟩
    rw [Fault.attributed_attributed]
    exact hsame

/-- The fault of a node is the fault of every document through which reading comes to it. -/
theorem ComesTo.fault?_eq_some (h : s.ComesTo t) (habsent : ∀ key, fault ≠ .absent key)
    (hfault : t.fault? = some fault) : s.fault? = some fault := by
  induction h with
  | refl s => exact hfault
  | into hsteps hbefore _ ih =>
    rw [fault?_of_step hsteps hbefore (ih hfault), Fault.attributed_of_ne_absent habsent]

/-! ## To the place of a fault -/

/-- A list of steps that fails has a first step that fails. -/
theorem exists_step_of_first {file : String} {steps : List Step}
    (h : Step.first file steps = some fault) :
    ∃ before step after, steps = before ++ step :: after ∧ step.fault? file = some fault ∧
      ∀ step ∈ before, step.fault? file = none := by
  induction steps with
  | nil => cases h
  | cons step steps ih =>
    cases hstep : step.fault? file with
    | some own =>
      rw [Step.first, List.map_cons, hstep] at h
      cases h
      exact ⟨[], step, steps, rfl, hstep, List.forall_mem_nil _⟩
    | none =>
      rw [Step.first, List.map_cons, hstep] at h
      obtain ⟨before, next, after, rfl, hnext, hbefore⟩ := ih h
      exact ⟨step :: before, next, after, rfl, hnext, List.forall_mem_cons.mpr ⟨hstep, hbefore⟩⟩

/-- Every fault of a document has a place at which reading stops. -/
theorem exists_comesTo (h : s.fault? = some fault) :
    ∃ t own, s.ComesTo t ∧ t.Stops own ∧ fault.attributed s.owner = own.attributed t.innermost := by
  -- The parts of a document are smaller, so the way to the place ends.
  obtain ⟨file, owner, position, d⟩ := s
  induction d using Position.steps_induction generalizing file owner position fault with
  | h d ih =>
    rw [fault?_eq] at h
    obtain ⟨inner, hfirst, rfl⟩ := Option.map_eq_some_iff.mp h
    obtain ⟨before, step, after, hsteps, hstep, hbefore⟩ := exists_step_of_first hfirst
    rw [Fault.attributed_attributed]
    cases step with
    | fault own =>
      cases hstep
      exact ⟨_, inner, .refl _, ⟨before, after, hsteps, hbefore⟩, rfl⟩
    | visit p x =>
      have hmem : .visit p x ∈ position.steps d := by
        rw [show position.steps d = _ from hsteps]
        simp
      obtain ⟨t, own, hcomes, hstops, hsame⟩ := ih position p x hmem _ _ _ hstep
      exact ⟨t, own, .into hsteps hbefore hcomes, hstops, hsame⟩

end Site

/-! ## The error of a dump -/

open Site (ofDump)

variable {file : String} {d : Document} {fault : Fault}

theorem readMember_ne_absent {α : Type} [Vocabulary α] {key : String} :
    (readMember d : Except Fault α) ≠ .error (.absent key) := by
  unfold readMember
  split
  · split <;> rintro ⟨⟩
  · rintro ⟨⟩

theorem readTable_ne_absent {role : MappingRole} {key : String} :
    readTable role d ≠ .error (.absent key) := by
  unfold readTable
  split
  · rintro ⟨⟩
  · split <;> rintro ⟨⟩

/-- No step of a dump fails with a missing field: none is needed outside of the items, and these
are nodes. -/
theorem ne_absent_of_mem_dumpSteps {fs : List (String × Document)} {step : Step}
    (h : step ∈ dumpSteps fs) (hfault : step.fault? file = some fault) (key : String) :
    fault ≠ .absent key := by
  rintro rfl
  simp only [dumpSteps, List.mem_append] at h
  rcases h with (hlang | hitem) | hdefinitions
  · unfold langItemSteps at hlang
    split at hlang
    · obtain ⟨entry, -, hentry⟩ := List.mem_flatMap.mp hlang
      obtain ⟨own, hown, rfl⟩ := Step.mem_check.mp hentry
      cases hfault
      exact readMember_ne_absent hown
    · next hown =>
      cases List.mem_singleton.mp hlang
      cases hfault
      exact readTable_ne_absent hown
  · rcases Step.mem_elements hitem with rfl | ⟨x, rfl, -⟩
    · cases hfault
    · exact Position.ne_absent_of_node hfault key rfl
  · obtain ⟨own, hown, rfl⟩ := Step.mem_check.mp hdefinitions
    cases hfault
    exact readTable_ne_absent hown

/-- A dump never fails with a missing field that no node answers for. -/
theorem ne_absent_of_readUnit (h : readUnit file d = .error fault) (key : String) :
    fault ≠ .absent key := by
  cases d with
  | obj fs =>
    rw [← faultOf?_eq_some_iff, ← first_dumpSteps] at h
    obtain ⟨before, step, after, hsteps, hstep, -⟩ := Site.exists_step_of_first h
    have hmem : step ∈ dumpSteps fs := by simp [hsteps]
    exact ne_absent_of_mem_dumpSteps hmem hstep key
  | _ =>
    cases h
    rintro ⟨⟩

/-- A dump fails with a fault if and only if reading it stops at that fault. -/
theorem readUnit_eq_error_iff :
    readUnit file d = .error fault ↔
      ∃ t own, (ofDump file d).ComesTo t ∧ t.Stops own ∧ fault = own.attributed t.innermost := by
  rw [← faultOf?_eq_some_iff]
  constructor
  · intro h
    exact Site.exists_comesTo h
  · rintro ⟨t, own, hcomes, hstops, rfl⟩
    obtain ⟨fault, hfault, rfl⟩ := hcomes.exists_fault? hstops
    exact hfault

/-- **The error of a dump.** For every document that is read as a dump: it never fails with a
missing field that no node answers for. Where reading stops because a field is missing, the dump is
refused, and the message names the innermost node around that is entered by its kind. What a node
fails with is the error of every document through which reading comes to it, and so of the dump. The
dump fails with exactly the fault at which reading it stops, the first one in the order of its
steps. -/
theorem dump_errors_name_innermost_nodes (file : String) (d : Document) :
    (∀ fault, readUnit file d = .error fault → fault.faultClass ≠ .incomplete) ∧
    (∀ t key, (ofDump file d).ComesTo t → t.Stops (.absent key) →
      ∃ sort word, t.innermost = some (sort, word) ∧
        readUnit file d = .error (.missingField sort word key) ∧
        (Fault.missingField sort word key).faultClass = .refused ∧
        (Fault.missingField sort word key).message =
          sort.title ++ " of kind " ++ Text.quoted word ++ " is missing field " ++
            Text.quoted key) ∧
    (∀ (t : Site) (sort : NodeSort) (fault : Fault), t.position = .slot (.node sort) →
      t.fault? = some fault →
        (∀ s : Site, s.ComesTo t → s.fault? = some fault) ∧
        ((ofDump file d).ComesTo t → readUnit file d = .error fault)) ∧
    ∀ fault, readUnit file d = .error fault ↔
      ∃ t own, (ofDump file d).ComesTo t ∧ t.Stops own ∧ fault = own.attributed t.innermost := by
  refine ⟨fun fault h => ?_, fun t key hcomes hstops => ?_, ?_, fun fault => readUnit_eq_error_iff⟩
  · rw [ne_eq, Fault.faultClass_eq_incomplete_iff]
    rintro ⟨key, rfl⟩
    exact ne_absent_of_readUnit h key rfl
  · have herror := readUnit_eq_error_iff.mpr ⟨t, _, hcomes, hstops, rfl⟩
    cases howner : t.innermost with
    | none =>
      rw [howner] at herror
      exact absurd rfl (ne_absent_of_readUnit herror key)
    | some owner =>
      rw [howner] at herror
      exact ⟨owner.1, owner.2, rfl, herror, rfl, rfl⟩
  · intro t sort fault hnode hfault
    have habsent : ∀ key, fault ≠ .absent key := by
      have hslot : (Position.slot (.node sort)).fault? t.file t.document = some fault :=
        hnode ▸ hfault
      exact Position.ne_absent_of_node hslot
    refine ⟨fun s hcomes => hcomes.fault?_eq_some habsent hfault, fun hcomes => ?_⟩
    exact faultOf?_eq_some_iff.mp (hcomes.fault?_eq_some habsent hfault)

/-- The span of a pattern from a macro that does not say where it was called. -/
def unplacedSpan : Document :=
  .obj [("line", .int 3), ("column", .int 9), ("origin", .obj [("kind", .str "macro")])]

/-- A binding with that pattern. -/
def unplacedBinding : Document :=
  .obj [("kind", .str "let"), ("pat", .obj [("name", .str "x"), ("span", unplacedSpan)])]

/-- The body of a function, which is a block whatever it names. -/
def unplacedBody : Document :=
  .obj [("span", .arr [.int 2, .int 1, .int 4, .int 2]), ("stmts", .arr [unplacedBinding])]

/-- A dump with one function. -/
def unplacedDump : Document :=
  .obj [("items", .arr [.obj [("kind", .str "fn"), ("name", .str "run"),
    ("span", .arr [.int 1, .int 1, .int 4, .int 2]), ("body", unplacedBody)]])]

/-- The missing call site is attributed to the binding, the innermost node around the origin of the
span of its pattern, and not to the function. -/
theorem readUnit_unplacedDump :
    readUnit "lib.json" unplacedDump = .error (.missingField .statement "let" "call_site") := by
  let origin : Site :=
    ⟨"lib.json", some (.statement, "let"), .origin, .obj [("kind", .str "macro")]⟩
  have hcomes : (ofDump "lib.json" unplacedDump).ComesTo origin := by
    refine @Site.ComesTo.into _ _ [] _ _ _ rfl (List.forall_mem_nil _) ?_
    refine @Site.ComesTo.into _ _ [.visit .span _] _ _ _ rfl (List.forall_mem_singleton.mpr rfl) ?_
    refine @Site.ComesTo.into _ _ [.visit .span _] _ _ _ rfl (List.forall_mem_singleton.mpr rfl) ?_
    refine @Site.ComesTo.into _ _ [] _ _ _ rfl (List.forall_mem_nil _) ?_
    refine @Site.ComesTo.into _ _ [] _ _ _ rfl (List.forall_mem_nil _) ?_
    refine @Site.ComesTo.into _ _ [] _ _ _ rfl (List.forall_mem_nil _) ?_
    exact .refl _
  have hstops : origin.Stops (.absent "call_site") := ⟨[], [], rfl, List.forall_mem_nil _⟩
  obtain ⟨sort, word, howner, herror, -⟩ :=
    (dump_errors_name_innermost_nodes "lib.json" unplacedDump).2.1 origin _ hcomes hstops
  cases howner
  exact herror

end TreeLint.Dump
