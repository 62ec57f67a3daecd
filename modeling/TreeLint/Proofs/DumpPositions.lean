import TreeLint.Proofs.Consultations
import TreeLint.Proofs.DumpReading
import TreeLint.Proofs.Loops

/-!
# Positions of nodes in a dump

A dump with a hole in the place of one node, and what the dump is read as when a document is put
there. The hole may be at any depth: it is reached through the objects around it, each a frame that
knows its other fields and, where the field holds a sequence, the elements beside the hole.

## Main definitions

* `Slot.kind?`: the kind that an object is read as in a position
* `Frame`, `Frame.plug`: an object with a hole in one of its fields
* `Frame.Fits`: the object stands in a position, and a node in its hole
* `Frame.Reached`: all that is consulted before the hole can be read
* `Leads`: a chain of objects leads from one position to another
* `Reaches`: reading comes through a chain of objects to the hole

## Main results

* `Frame.Fits.role_congr`, `Frame.Fits.exists_child`, `Frame.Fits.role_error`: what is seen outside
  of what is put into the hole of one object
* `Frame.exists_fits`: every child of a node is read in a hole
* `Leads.role_congr`, `Leads.exists_mem_preorder`, `Reaches.role_error`: the same through a chain
* `exists_leads_of_mem_preorder`: every node below another is read below a chain
-/

namespace TreeLint.Dump

open Loops (mapM_eq_ok_iff mapM_of_first exists_of_forall₂ map_mapM)

variable {file : String} {d d' : Document} {fs : List (String × Document)}

theorem map_mapError {α β : Type} (f : α → β) (g : Fault → Fault) (x : Except Fault α) :
    (x.mapError g).map f = (x.map f).mapError g := by
  cases x <;> rfl

theorem exists_split_of_lookup {key : String} (h : fs.lookup key = some d) :
    ∃ before after, fs = before ++ (key, d) :: after ∧ key ∉ before.map Prod.fst := by
  obtain ⟨before, after, rfl, hbefore⟩ := List.lookup_eq_some_iff.mp h
  refine ⟨before, after, rfl, ?_⟩
  intro hmem
  obtain ⟨field, hfield, heq⟩ := List.mem_map.mp hmem
  simpa [heq] using hbefore field hfield

/-! ## Objects in positions -/

/-- The word that an object names as its kind. -/
def kindWord? (fs : List (String × Document)) : Option String :=
  match Document.field? fs "kind" with
  | some (.str word) => some word
  | _ => none

/-- The fault of an object that names no kind of a sort. -/
def kindFault (sort : NodeSort) (fs : List (String × Document)) : Fault :=
  match (Document.field? fs "kind").getD .null with
  | .arr ds => .compoundKind (.arr ds)
  | .obj fs => .compoundKind (.obj fs)
  | kind => .unknownKind sort kind

theorem kindWord?_eq_some_iff {word : String} :
    kindWord? fs = some word ↔ Document.field? fs "kind" = some (.str word) := by
  unfold kindWord?
  split <;> simp_all

section Vocabularies

variable {κ α : Type} [Vocabulary κ] {sort : NodeSort} {build : κ → Except Fault α}

/-- A node whose kind is known is built as that kind, and its faults are seen inside of it. -/
theorem readNode_of_kindWord? {word : String} {kind : κ} (hword : kindWord? fs = some word)
    (hkind : Vocabulary.find? word = some kind) :
    readNode sort (.obj fs) (readFields file fs) build =
      (build kind).mapError (Fault.within sort word) := by
  have hvalue : (readFields file fs).value "kind" = .str word := by
    rw [value_readFields]
    exact congrArg (Option.getD · .null) (kindWord?_eq_some_iff.mp hword)
  simp only [readNode, hvalue, hkind]

/-- A node whose kind is missing or not known has a fault that tells which. -/
theorem readNode_of_no_kind
    (h : (kindWord? fs).bind (Vocabulary.find? : String → Option κ) = none) :
    readNode sort (.obj fs) (readFields file fs) build = .error (kindFault sort fs) := by
  unfold readNode kindFault
  rw [value_readFields]
  unfold kindWord? Document.field? at *
  cases hkind : fs.lookup "kind" with
  | none => rfl
  | some kind =>
    cases kind with
    | str word =>
      simp only [hkind, Option.bind_some] at h
      simp [h]
    | _ => rfl

end Vocabularies

namespace Slot

/-- The kind that an object is read as in a position. -/
def kind? (fs : List (String × Document)) : Slot → Option Kind
  | node .expression => ((kindWord? fs).bind Vocabulary.find?).map .expr
  | node .statement => ((kindWord? fs).bind Vocabulary.find?).map .stmt
  | node .item => ((kindWord? fs).bind Vocabulary.find?).map .item
  | block => some .block

/-- A fault inside an object as seen from outside. -/
def outside (fs : List (String × Document)) : Slot → Fault → Fault
  | node sort => Fault.within sort ((kindWord? fs).getD "")
  | block => id

variable {slot : Slot} {sort : NodeSort} {kind : Kind} {n : Node}

theorem outside_of_ne_absent {fault : Fault} (h : ∀ key, fault ≠ .absent key) :
    slot.outside fs fault = fault := by
  cases slot with
  | block => rfl
  | node sort =>
    cases fault with
    | absent key => exact absurd rfl (h key)
    | _ => rfl

/-- An object is read by its kind in the position. -/
theorem role_obj (h : slot.kind? fs = some kind) :
    slot.role (read file (.obj fs)) =
      (readKind (.obj fs) (readFields file fs) kind).mapError (slot.outside fs) := by
  rcases slot with (_ | _ | _) | _
  case block =>
    cases h
    rw [role, raw, read]
    cases hread : readKind (.obj fs) (readFields file fs) .block <;> exact hread
  all_goals
    obtain ⟨member, hmember, rfl⟩ := Option.map_eq_some_iff.mp h
    obtain ⟨word, hword, hfind⟩ := Option.bind_eq_some_iff.mp hmember
    rw [role, raw, read, outside, hword, Option.getD_some, readKind, ← map_mapError]
    exact congrArg _ (readNode_of_kindWord? hword hfind)

/-- An object that names no kind of the sort is refused. -/
theorem role_obj_of_no_kind (h : (node sort).kind? fs = none) :
    (node sort).role (read file (.obj fs)) = .error (kindFault sort fs) := by
  cases sort
  all_goals
    rw [role, raw, read]
    exact congrArg (Except.map _) (readNode_of_no_kind (Option.map_eq_none_iff.mp h))

/-- What is read as a node is an object of a kind. -/
theorem exists_of_role (h : slot.role (read file d) = .ok n) :
    ∃ fs kind, d = .obj fs ∧ slot.kind? fs = some kind ∧
      readKind (.obj fs) (readFields file fs) kind = .ok n := by
  obtain ⟨fs, rfl⟩ : ∃ fs, d = .obj fs := by
    cases d with
    | obj fs => exact ⟨fs, rfl⟩
    | _ =>
      rcases slot with (_ | _ | _) | _ <;> rw [role, raw, read] at h <;> cases h
  cases hkind : slot.kind? fs with
  | some kind =>
    rw [role_obj hkind] at h
    exact ⟨fs, kind, rfl, hkind, mapError_eq_ok_iff.mp h⟩
  | none =>
    cases slot with
    | block => cases hkind
    | node sort =>
      rw [role_obj_of_no_kind hkind] at h
      cases h

theorem raws_arr (ds : List Document) :
    raws sort (read file (.arr ds)) = ds.mapM fun d => (node sort).raw (read file d) := by
  cases sort with
  | expression => exact exprs_arr ds
  | statement => exact stmts_arr ds
  | item => exact items_arr ds

theorem exists_of_raws_ofParts {parts : List Part} {fields : Fields}
    {as : List (node sort).Carrier} (h : raws sort (.ofParts file d parts fields) = .ok as) :
    ∀ a ∈ as, ∃ part ∈ parts, (node sort).raw part.reading = .ok a := by
  cases sort with
  | expression => exact exists_of_readSequence (by rintro s a ⟨⟩) h
  | statement => exact exists_of_readSequence (by rintro s a ⟨⟩) h
  | item => exact exists_of_readSequence (by rintro s a ⟨⟩) h

/-- What is read in a sequence is read from an element of an array. -/
theorem exists_of_raws {as : List (node sort).Carrier} {a : (node sort).Carrier}
    (h : raws sort (read file d) = .ok as) (ha : a ∈ as) :
    ∃ ds, d = .arr ds ∧ ∃ x ∈ ds, (node sort).raw (read file x) = .ok a := by
  cases d with
  | arr ds =>
    rw [raws_arr] at h
    exact ⟨ds, rfl, exists_of_mem_mapM h a ha⟩
  | _ =>
    rw [read] at h
    obtain ⟨part, hpart, -⟩ := exists_of_raws_ofParts h a ha
    cases hpart

theorem kind?_congr {fs' : List (String × Document)} (h : kindWord? fs = kindWord? fs') :
    slot.kind? fs = slot.kind? fs' := by
  rcases slot with (_ | _ | _) | _ <;> simp only [kind?, h]

theorem outside_congr {fs' : List (String × Document)} (h : kindWord? fs = kindWord? fs') :
    slot.outside fs = slot.outside fs' := by
  cases slot <;> simp only [outside, h]

end Slot

namespace Holding

variable {holding : Holding}

/-- The field holds a sequence. -/
def isMany : Holding → Bool
  | many .. => true
  | _ => false

/-- A field for one node holds what is read from its document. -/
theorem nodes_of_lookup (hmany : holding.isMany = false)
    (hlookup : fs.lookup holding.key = some d) (hd : d.isNull = false) :
    holding.nodes (readFields file fs) =
      [d].mapM fun x => holding.slot.role (read file x) := by
  cases holding with
  | one key slot =>
    rw [Holding.key] at hlookup
    simp only [nodes, get_readFields, hlookup, List.mapM_cons, Holding.slot, Slot.role]
    cases slot.raw (read file d) <;> rfl
  | optional key slot =>
    rw [Holding.key] at hlookup
    simp only [nodes, optional_readFields, hlookup, Option.filter_some, hd, Bool.not_false, if_true,
      Option.mapM_some, List.mapM_cons, Holding.slot, Slot.role]
    cases slot.raw (read file d) <;> rfl
  | many key sort => cases hmany

theorem nodes_of_lookup_arr {ds : List Document} (hmany : holding.isMany = true)
    (hlookup : fs.lookup holding.key = some (.arr ds)) :
    holding.nodes (readFields file fs) =
      ds.mapM fun x => holding.slot.role (read file x) := by
  cases holding with
  | many key sort =>
    rw [Holding.key] at hlookup
    rw [nodes, sequence_readFields, hlookup]
    exact (congrArg _ (Slot.raws_arr ds)).trans (map_mapM _ _ ds)
  | _ => cases hmany

/-- A node that a field holds is read from its value or from an element of its value. -/
theorem exists_of_mem_held {m : Node} (hm : m ∈ holding.held (readFields file fs)) :
    ∃ d, fs.lookup holding.key = some d ∧
      ((holding.isMany = false ∧ holding.slot.role (read file d) = .ok m) ∨
        (holding.isMany = true ∧
          ∃ ds, d = .arr ds ∧ ∃ x ∈ ds, holding.slot.role (read file x) = .ok m)) := by
  rw [held] at hm
  split at hm
  case h_2 => cases hm
  next ns hns =>
  cases holding with
  | one key slot =>
    obtain ⟨a, ha, rfl⟩ := map_eq_ok_iff.mp hns
    rw [get_readFields] at ha
    split at ha
    · next d hd =>
      cases List.mem_singleton.mp hm
      exact ⟨d, hd, .inl ⟨rfl, map_eq_ok_iff.mpr ⟨a, ha, rfl⟩⟩⟩
    · cases ha
  | optional key slot =>
    obtain ⟨a, ha, rfl⟩ := map_eq_ok_iff.mp hns
    rw [optional_readFields] at ha
    obtain ⟨b, hb, rfl⟩ := List.mem_map.mp hm
    cases hgiven : (fs.lookup key).filter (!·.isNull) with
    | none =>
      rw [hgiven] at ha
      cases ha
      cases hb
    | some d =>
      rw [hgiven, Option.mapM_some] at ha
      obtain ⟨c, hc, rfl⟩ := map_eq_ok_iff.mp ha
      cases Option.mem_toList.mp hb
      exact ⟨d, (Option.filter_eq_some_iff.mp hgiven).1,
        .inl ⟨rfl, map_eq_ok_iff.mpr ⟨b, hc, rfl⟩⟩⟩
  | many key sort =>
    obtain ⟨as, has, rfl⟩ := map_eq_ok_iff.mp hns
    obtain ⟨a, ha, rfl⟩ := List.mem_map.mp hm
    rw [sequence_readFields] at has
    split at has
    · next d hd =>
      obtain ⟨ds, rfl, x, hx, hrole⟩ := Slot.exists_of_raws has ha
      exact ⟨.arr ds, hd, .inr ⟨rfl, ds, rfl, x, hx, map_eq_ok_iff.mpr ⟨a, hrole, rfl⟩⟩⟩
    · cases has
      cases ha

end Holding

/-! ## Objects with a hole -/

/-- An object with a hole in one of its fields. Where the field holds a sequence the hole is one of
its elements. -/
structure Frame where
  /-- The fields before the one with the hole. -/
  before : List (String × Document)
  key : String
  /-- The elements on both sides of the hole, if it is in a sequence. -/
  siblings : Option (List Document × List Document)
  /-- The fields after the one with the hole. -/
  after : List (String × Document)

namespace Frame

variable (f : Frame)

/-- The other fields of the object. -/
def rest : List (String × Document) :=
  f.before ++ f.after

/-- The elements before the hole. -/
def left : List Document :=
  match f.siblings with
  | none => []
  | some (left, _) => left

/-- The elements after the hole. -/
def right : List Document :=
  match f.siblings with
  | none => []
  | some (_, right) => right

/-- The documents in the field, when one is put into the hole. -/
def elements (d : Document) : List Document :=
  f.left ++ d :: f.right

/-- The value of the field, when a document is put into the hole. -/
def value (d : Document) : Document :=
  match f.siblings with
  | none => d
  | some _ => .arr (f.elements d)

/-- The fields of the object, when a document is put into the hole. -/
def fields (d : Document) : List (String × Document) :=
  f.before ++ (f.key, f.value d) :: f.after

/-- The object, when a document is put into the hole. -/
def plug (d : Document) : Document :=
  .obj (f.fields d)

variable {f}

theorem lookup_fields_self (h : f.key ∉ f.before.map Prod.fst) :
    (f.fields d).lookup f.key = some (f.value d) := by
  rw [fields, List.lookup_append, lookup_eq_none_of_not_mem h, Option.none_or,
    List.lookup_cons_self]

theorem lookup_fields_of_ne {key : String} (h : key ≠ f.key) :
    (f.fields d).lookup key = f.rest.lookup key := by
  have hne : (key == f.key) = false := beq_false_of_ne h
  rw [fields, rest, List.lookup_append, List.lookup_append, List.lookup_cons, hne]

theorem kindWord?_fields (h : f.key ≠ "kind") : kindWord? (f.fields d) = kindWord? f.rest := by
  rw [kindWord?, kindWord?, Document.field?, Document.field?, lookup_fields_of_ne h.symm]

section Loops

variable {α : Type} {load : Document → Except Fault α} {as : List α}

theorem mapM_elements_congr (h : load d = load d') :
    (f.elements d).mapM load = (f.elements d').mapM load := by
  rw [elements, elements, List.mapM_append, List.mapM_append, List.mapM_cons, List.mapM_cons, h]

theorem exists_of_mapM_elements (h : (f.elements d).mapM load = .ok as) :
    ∃ a ∈ as, load d = .ok a := by
  apply exists_of_forall₂ (mapM_eq_ok_iff.mp h)
  exact List.mem_append_right _ List.mem_cons_self

theorem left_of_mapM_elements (h : (f.elements d).mapM load = .ok as) :
    ∀ x ∈ f.left, ∃ a, load x = .ok a := by
  intro x hx
  obtain ⟨a, -, ha⟩ := exists_of_forall₂ (mapM_eq_ok_iff.mp h) (List.mem_append_left _ hx)
  exact ⟨a, ha⟩

/-- The fault of what is put into the hole is that of the elements, if all before it is read. -/
theorem mapM_elements_of_error (hleft : ∀ x ∈ f.left, ∃ a, load x = .ok a) {fault : Fault}
    (h : load d = .error fault) : (f.elements d).mapM load = .error fault :=
  mapM_of_first hleft h

end Loops

/-- The object stands in a position and is read as a kind there, and the hole is the first field
with its key and holds a node. -/
structure Fits (f : Frame) (outer : Slot) (kind : Kind) (holding : Holding) : Prop where
  kind_eq : outer.kind? f.rest = some kind
  mem : holding ∈ holdings kind
  key_eq : holding.key = f.key
  many_eq : holding.isMany = f.siblings.isSome
  first : f.key ∉ f.before.map Prod.fst

namespace Fits

variable {outer : Slot} {kind : Kind} {holding : Holding} {n : Node}

theorem key_ne (h : f.Fits outer kind holding) : f.key ≠ "kind" := by
  rw [← h.key_eq]
  exact (key_not_mem_keys h.mem).1

theorem kind?_fields (h : f.Fits outer kind holding) :
    outer.kind? (f.fields d) = some kind := by
  rw [← h.kind_eq]
  exact Slot.kind?_congr (kindWord?_fields h.key_ne)

/-- The object is read by its kind, whatever is put into the hole. -/
theorem role_plug (h : f.Fits outer kind holding) :
    outer.role (read file (f.plug d)) =
      (readKind (f.plug d) (readFields file (f.fields d)) kind).mapError
        (outer.outside f.rest) := by
  rw [plug, Slot.role_obj h.kind?_fields, Slot.outside_congr (kindWord?_fields h.key_ne)]

/-- If the object is read at all, it is read as a node of its kind. -/
theorem readKind_of_role_plug (h : f.Fits outer kind holding)
    (hok : outer.role (read file (f.plug d)) = .ok n) :
    readKind (f.plug d) (readFields file (f.fields d)) kind = .ok n := by
  rw [h.role_plug] at hok
  exact mapError_eq_ok_iff.mp hok

/-- The other consultations of the object do not depend on the field with the hole. -/
theorem agrees (h : f.Fits outer kind holding) {c : Consult} (hc : c ∈ consults kind)
    (hne : c ≠ .hold holding) {fs fs' : List (String × Document)}
    (hlookup : ∀ key, key ≠ f.key → fs.lookup key = fs'.lookup key) :
    c.Agrees (readFields file fs) (readFields file fs') := by
  apply Consult.agrees_of_lookup
  intro key hkey
  have hother : key ≠ f.key := by
    rintro rfl
    rw [← h.key_eq] at hkey
    exact (key_not_mem_keys h.mem).2 c hc hne hkey
  rw [lookup_readFields, lookup_readFields, hlookup key hother]

/-- What the field with the hole holds. -/
theorem nodes_fields (h : f.Fits outer kind holding) (hd : d.isNull = false) :
    holding.nodes (readFields file (f.fields d)) =
      (f.elements d).mapM fun x => holding.slot.role (read file x) := by
  have hself : (f.fields d).lookup holding.key = some (f.value d) := by
    rw [h.key_eq]
    exact lookup_fields_self h.first
  have hmany := h.many_eq
  cases hsiblings : f.siblings with
  | none =>
    rw [hsiblings] at hmany
    rw [value, hsiblings] at hself
    rw [elements, left, right, hsiblings]
    exact Holding.nodes_of_lookup hmany hself hd
  | some sides =>
    rw [hsiblings] at hmany
    rw [value, hsiblings] at hself
    exact Holding.nodes_of_lookup_arr hmany hself

/-- Documents that are read as the same node in the hole cannot be told apart outside. -/
theorem role_congr (h : f.Fits outer kind holding) (hd : d.isNull = false)
    (hd' : d'.isNull = false)
    (heq : holding.slot.role (read file d) = holding.slot.role (read file d')) :
    outer.role (read file (f.plug d)) = outer.role (read file (f.plug d')) := by
  have hnodes : holding.nodes (readFields file (f.fields d)) =
      holding.nodes (readFields file (f.fields d')) := by
    rw [h.nodes_fields hd, h.nodes_fields hd']
    exact mapM_elements_congr heq
  have hread : readKind (f.plug d) (readFields file (f.fields d)) kind =
      readKind (f.plug d') (readFields file (f.fields d')) kind := by
    apply readKind_congr
    intro c hc
    -- Only the consultation of the field with the hole can tell the two documents apart.
    by_cases hhold : c = .hold holding
    · subst hhold
      exact Holding.agrees_of_nodes_eq hnodes
    · apply h.agrees hc hhold
      intro key hkey
      rw [lookup_fields_of_ne hkey, lookup_fields_of_ne hkey]
  rw [h.role_plug, h.role_plug, hread]

/-- The field with the hole can be read if the object can. -/
theorem exists_nodes (h : f.Fits outer kind holding)
    (hread : readKind (f.plug d) (readFields file (f.fields d)) kind = .ok n) :
    ∃ ns, holding.nodes (readFields file (f.fields d)) = .ok ns := by
  rw [← faultOf?_eq_none_iff, Holding.faultOf?_nodes]
  exact fault?_eq_none_of_readKind hread (hold_mem_consults h.mem)

/-- If the object is read as a node, then so is what is in the hole, as a child of that node. -/
theorem exists_child (h : f.Fits outer kind holding) (hd : d.isNull = false)
    (hok : outer.role (read file (f.plug d)) = .ok n) :
    ∃ m ∈ n.children, holding.slot.role (read file d) = .ok m := by
  have hread := h.readKind_of_role_plug hok
  obtain ⟨ns, hns⟩ := h.exists_nodes hread
  have hloop := hns
  rw [h.nodes_fields hd] at hloop
  obtain ⟨m, hm, hrole⟩ := exists_of_mapM_elements hloop
  refine ⟨m, ?_, hrole⟩
  rw [children_of_readKind hread]
  refine List.mem_flatMap.mpr ⟨holding, h.mem, ?_⟩
  rw [Holding.held, hns]
  exact hm

end Fits

/-- All that is consulted before the hole can be read. -/
structure Reached (f : Frame) (file : String) (kind : Kind) (holding : Holding) : Prop where
  consults : ∀ c ∈ consultsBefore kind holding, c.fault? (readFields file f.rest) = none
  left : ∀ x ∈ f.left, ∃ m, holding.slot.role (read file x) = .ok m

namespace Fits

variable {outer : Slot} {kind : Kind} {holding : Holding} {n : Node}

/-- What is put into the hole does not change the faults of other consultations. -/
theorem fault?_fields (h : f.Fits outer kind holding) {c : Consult} (hc : c ∈ consults kind)
    (hne : c ≠ .hold holding) :
    c.fault? (readFields file (f.fields d)) = c.fault? (readFields file f.rest) :=
  Consult.fault?_eq_of_agrees (h.agrees hc hne fun _ => lookup_fields_of_ne)

/-- The hole is reached if the object can be read with some document in it. -/
theorem reached (h : f.Fits outer kind holding) (hd : d.isNull = false)
    (hok : outer.role (read file (f.plug d)) = .ok n) : f.Reached file kind holding where
  consults := by
    intro c hc
    obtain ⟨hmem, hne⟩ := mem_consults_of_mem_before hc
    rw [← h.fault?_fields hmem hne (d := d)]
    exact fault?_eq_none_of_readKind (h.readKind_of_role_plug hok) hmem
  left := by
    obtain ⟨ns, hns⟩ := h.exists_nodes (h.readKind_of_role_plug hok)
    rw [h.nodes_fields hd] at hns
    exact left_of_mapM_elements hns

/-- A fault in a hole that is reached is the fault of the object. -/
theorem role_error (h : f.Fits outer kind holding) (hreached : f.Reached file kind holding)
    (hd : d.isNull = false) {fault : Fault}
    (herror : holding.slot.role (read file d) = .error fault) :
    outer.role (read file (f.plug d)) = .error (outer.outside f.rest fault) := by
  have hhold : Consult.fault? (readFields file (f.fields d)) (.hold holding) = some fault := by
    rw [Consult.fault?, ← Holding.faultOf?_nodes, h.nodes_fields hd,
      mapM_elements_of_error hreached.left herror]
    rfl
  -- The fault of the object is the first among its consultations: those before the hole have none.
  have hbefore : firstFault ((consultsBefore kind holding).map
      (Consult.fault? (readFields file (f.fields d)))) = none := by
    rw [firstFault_eq_none_iff]
    intro earlier hearlier
    obtain ⟨c, hc, rfl⟩ := List.mem_map.mp hearlier
    obtain ⟨hmem, hne⟩ := mem_consults_of_mem_before hc
    rw [h.fault?_fields hmem hne]
    exact hreached.consults c hc
  have hfault : faultOf? (readKind (f.plug d) (readFields file (f.fields d)) kind) =
      some fault := by
    obtain ⟨later, hsplit⟩ := consults_eq h.mem
    rw [plug, faultOf?_readKind, hsplit, List.map_append, firstFault_append, hbefore,
      List.map_cons, hhold]
    rfl
  rw [h.role_plug, faultOf?_eq_some_iff.mp hfault]
  rfl

end Fits

/-- Every child of a node is read in the hole of an object that is read as the node. -/
theorem exists_fits {outer : Slot} {n m : Node} (h : outer.role (read file d) = .ok n)
    (hm : m ∈ n.children) :
    ∃ f d' kind holding, Fits f outer kind holding ∧ d = f.plug d' ∧
      holding.slot.role (read file d') = .ok m := by
  obtain ⟨fs, kind, rfl, hkind, hread⟩ := Slot.exists_of_role h
  rw [children_of_readKind hread] at hm
  obtain ⟨holding, hholding, hheld⟩ := List.mem_flatMap.mp hm
  obtain ⟨value, hlookup, hvalue⟩ := Holding.exists_of_mem_held hheld
  obtain ⟨before, after, rfl, hfirst⟩ := exists_split_of_lookup hlookup
  have hrest : outer.kind? (before ++ after) = some kind := by
    have hword := kindWord?_fields (f := ⟨before, holding.key, none, after⟩) (d := value)
      (key_not_mem_keys hholding).1
    rw [← hkind]
    exact Slot.kind?_congr hword.symm
  rcases hvalue with ⟨hmany, hrole⟩ | ⟨hmany, ds, rfl, x, hx, hrole⟩
  · exact ⟨⟨before, holding.key, none, after⟩, value, kind, holding,
      ⟨hrest, hholding, rfl, hmany, hfirst⟩, rfl, hrole⟩
  · obtain ⟨left, right, rfl⟩ := List.append_of_mem hx
    exact ⟨⟨before, holding.key, some (left, right), after⟩, x, kind, holding,
      ⟨hrest, hholding, rfl, hmany, hfirst⟩, rfl, hrole⟩

end Frame

/-! ## Chains of objects -/

/-- A document below a chain of objects, of which the first is the outermost. -/
def plugAll (frames : List Frame) (d : Document) : Document :=
  frames.foldr Frame.plug d

theorem isNull_plugAll (frames : List Frame) :
    (plugAll frames (.obj fs)).isNull = false := by
  cases frames <;> rfl

/-- A chain of objects leads from one position to another, each object standing in the hole of the
one before. -/
inductive Leads : Slot → List Frame → Slot → Prop
  | here {slot : Slot} : Leads slot [] slot
  | under {f : Frame} {frames : List Frame} {outer inner : Slot} {kind : Kind} {holding : Holding}
      (fits : f.Fits outer kind holding) (leads : Leads holding.slot frames inner) :
      Leads outer (f :: frames) inner

namespace Leads

variable {outer inner : Slot} {frames : List Frame} {fs' : List (String × Document)} {n : Node}

/-- Objects that are read as the same node in the hole cannot be told apart outside. -/
theorem role_congr (h : Leads outer frames inner)
    (heq : inner.role (read file (.obj fs)) = inner.role (read file (.obj fs'))) :
    outer.role (read file (plugAll frames (.obj fs))) =
      outer.role (read file (plugAll frames (.obj fs'))) := by
  induction h with
  | here => exact heq
  | under fits _ ih => exact fits.role_congr (isNull_plugAll _) (isNull_plugAll _) (ih heq)

/-- If the outermost object is read as a node, then so is the one in the hole, as a node below. -/
theorem exists_mem_preorder (h : Leads outer frames inner)
    (hok : outer.role (read file (plugAll frames (.obj fs))) = .ok n) :
    ∃ m ∈ n.preorder, inner.role (read file (.obj fs)) = .ok m := by
  induction h generalizing n with
  | here =>
    refine ⟨n, ?_, hok⟩
    rw [Node.preorder_eq]
    exact List.mem_cons_self
  | under fits _ ih =>
    obtain ⟨child, hchild, hrole⟩ := fits.exists_child (isNull_plugAll _) hok
    obtain ⟨m, hm, hinner⟩ := ih hrole
    refine ⟨m, ?_, hinner⟩
    rw [Node.preorder_eq]
    exact List.mem_cons_of_mem _ (List.mem_flatMap.mpr ⟨child, hchild, hm⟩)

end Leads

/-- Reading comes through a chain of objects to the hole: in each of them, all that is consulted
before the hole can be read. -/
inductive Reaches (file : String) : Slot → List Frame → Slot → Prop
  | here {slot : Slot} : Reaches file slot [] slot
  | under {f : Frame} {frames : List Frame} {outer inner : Slot} {kind : Kind} {holding : Holding}
      (fits : f.Fits outer kind holding) (reached : f.Reached file kind holding)
      (reaches : Reaches file holding.slot frames inner) : Reaches file outer (f :: frames) inner

/-- The hole is reached if the outermost object can be read with some object in it. -/
theorem Leads.reaches {outer inner : Slot} {frames : List Frame} {n : Node}
    (h : Leads outer frames inner)
    (hok : outer.role (read file (plugAll frames (.obj fs))) = .ok n) :
    Reaches file outer frames inner := by
  induction h generalizing n with
  | here => exact .here
  | under fits _ ih =>
    obtain ⟨child, -, hchild⟩ := fits.exists_child (isNull_plugAll _) hok
    have hreached := fits.reached (isNull_plugAll _) hok
    exact .under fits hreached (ih hchild)

/-- A fault in a hole that is reached is the fault of the outermost object. A missing field is
excepted, since it is attributed on the way. -/
theorem Reaches.role_error {outer inner : Slot} {frames : List Frame}
    (h : Reaches file outer frames inner) {fault : Fault}
    (herror : inner.role (read file (.obj fs)) = .error fault)
    (hne : ∀ key, fault ≠ .absent key) :
    outer.role (read file (plugAll frames (.obj fs))) = .error fault := by
  induction h with
  | here => exact herror
  | under fits reached _ ih =>
    have houter := fits.role_error reached (isNull_plugAll _) (ih herror)
    rw [Slot.outside_of_ne_absent hne] at houter
    exact houter

/-- Every node below another is read in the hole of a chain of objects. -/
theorem exists_leads_of_mem_preorder {d : Document} {slot : Slot} {n m : Node}
    (h : slot.role (read file d) = .ok n) (hm : m ∈ n.preorder) :
    ∃ frames inner fs, Leads slot frames inner ∧ d = plugAll frames (.obj fs) ∧
      inner.role (read file (.obj fs)) = .ok m := by
  rw [Node.preorder_eq] at hm
  -- The recursion is on the size of the subtree: the chain to a node below a child is extended.
  rcases List.mem_cons.mp hm with heq | hbelow
  · obtain ⟨fs, -, rfl, -, -⟩ := Slot.exists_of_role h
    exact ⟨[], slot, fs, .here, rfl, heq ▸ h⟩
  · obtain ⟨child, hchild, hm⟩ := List.mem_flatMap.mp hbelow
    obtain ⟨f, d', kind, holding, fits, hplug, hrole⟩ := Frame.exists_fits h hchild
    obtain ⟨frames, inner, fs, leads, hbelow, hinner⟩ := exists_leads_of_mem_preorder hrole hm
    refine ⟨f :: frames, inner, fs, .under fits leads, ?_, hinner⟩
    rw [hplug, hbelow]
    rfl
termination_by n.preorder.length
decreasing_by exact Node.length_preorder_lt hchild

end TreeLint.Dump
