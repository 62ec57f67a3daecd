import TreeLint.Proofs.Walk

/-!
# Well-formed units

A unit is well-formed if none of its nodes is foreign and each of its blocks has one span: as an
expression it has the span of its braces. The rest of what makes a unit well-formed is in its type,
as that it names the two traits for indexing and no other.

Some values are kept in a unit as documents, because nothing interprets them. Where the objects of
a document have distinct keys, as mappings have, those of the documents in a unit should have them
too.

## Main definitions

* `Document.DistinctKeys`: the objects in a document have distinct keys
* `Node.documents`: the documents that a node keeps
* `Node.Throughout`: all nodes of a subtree have a property
* `Node.Expressible`: a node that a dump can express
* `CompilationUnit.WellFormed`: no node of a unit is foreign, and every block has one span
* `CompilationUnit.DistinctKeys`: the documents and the definitions of a unit have distinct keys

## Main results

* `Node.Throughout.induct`: induction over a subtree
* `CompilationUnit.wellFormed_iff`, `CompilationUnit.distinctKeys_iff`: both by the items of a unit
-/

namespace TreeLint

/-! ## Documents -/

namespace Document

/-- Every object in the document has distinct keys, at whatever depth it stands. -/
inductive DistinctKeys : Document → Prop
  | null : DistinctKeys .null
  | bool (b : Bool) : DistinctKeys (.bool b)
  | int (n : Int) : DistinctKeys (.int n)
  | real (x : Binary64) : DistinctKeys (.real x)
  | str (s : String) : DistinctKeys (.str s)
  | arr {ds : List Document} (elements : ∀ d ∈ ds, DistinctKeys d) : DistinctKeys (.arr ds)
  | obj {fs : List (String × Document)} (keys : (fs.map Prod.fst).Nodup)
      (values : ∀ f ∈ fs, DistinctKeys f.2) : DistinctKeys (.obj fs)

attribute [simp] DistinctKeys.null DistinctKeys.bool DistinctKeys.int DistinctKeys.str

@[simp]
theorem distinctKeys_arr_iff {ds : List Document} :
    DistinctKeys (.arr ds) ↔ ∀ d ∈ ds, d.DistinctKeys := by
  constructor
  · intro h
    cases h with
    | arr elements => exact elements
  · exact .arr

@[simp]
theorem distinctKeys_obj_iff {fs : List (String × Document)} :
    DistinctKeys (.obj fs) ↔ (fs.map Prod.fst).Nodup ∧ ∀ f ∈ fs, f.2.DistinctKeys := by
  constructor
  · intro h
    cases h with
    | obj keys values => exact ⟨keys, values⟩
  · rintro ⟨keys, values⟩
    exact .obj keys values

/-- A property of documents that their parts inherit, and that null and all texts have. -/
structure Hereditary (Q : Document → Prop) : Prop where
  null : Q .null
  str : ∀ s, Q (.str s)
  element : ∀ {ds}, Q (.arr ds) → ∀ d ∈ ds, Q d
  field : ∀ {fs}, Q (.obj fs) → ∀ f ∈ fs, Q f.2

theorem hereditary_true : Hereditary fun _ => True :=
  ⟨trivial, fun _ => trivial, fun _ _ _ => trivial, fun _ _ _ => trivial⟩

theorem hereditary_distinctKeys : Hereditary DistinctKeys where
  null := .null
  str := .str
  element h := distinctKeys_arr_iff.mp h
  field h := (distinctKeys_obj_iff.mp h).2

end Document

mutual

/-- The names in a pattern and its subpatterns. -/
def Pattern.names : Pattern → List Document
  | .mk _ _ name subpatterns => name :: namesInAll subpatterns

/-- The names in patterns. -/
def namesInAll : List Pattern → List Document
  | [] => []
  | p :: ps => p.names ++ namesInAll ps

end

theorem namesInAll_eq_flatMap (ps : List Pattern) : namesInAll ps = ps.flatMap Pattern.names := by
  induction ps with
  | nil => rfl
  | cons p ps ih => rw [namesInAll, ih, List.flatMap_cons]

/-- The documents in the value of a field. -/
def FieldValue.documents : FieldValue → List Document
  | .document d => [d]
  | .pattern p => p.names
  | .params ps => ps.flatMap fun p => p.pattern.names
  | .trait? t => t.toList.map TraitRef.defId
  | _ => []

/-- The documents that a node keeps in its fields. -/
def Node.documents (n : Node) : List Document :=
  n.fields.flatMap FieldValue.documents

/-! ## Subtrees -/

namespace Node

variable {P Q : Node → Prop} {n : Node} {roots : List Node}

/-- All nodes of the subtree have a property. -/
def Throughout (P : Node → Prop) (n : Node) : Prop :=
  ∀ m ∈ n.preorder, P m

/-- A property holds throughout a subtree if it holds of the root and throughout the subtrees of its
children. -/
theorem throughout_iff : n.Throughout P ↔ P n ∧ ∀ m ∈ n.children, m.Throughout P := by
  unfold Throughout
  rw [preorder_eq]
  constructor
  · intro h
    refine ⟨h n List.mem_cons_self, fun m hm k hk => h k (List.mem_cons_of_mem _ ?_)⟩
    exact List.mem_flatMap.mpr ⟨m, hm, hk⟩
  · rintro ⟨hn, hchildren⟩ k hk
    rcases List.mem_cons.mp hk with rfl | hk
    · exact hn
    · obtain ⟨m, hm, hk⟩ := List.mem_flatMap.mp hk
      exact hchildren m hm k hk

theorem length_preorder_lt {m : Node} (h : m ∈ n.children) :
    m.preorder.length < n.preorder.length := by
  rw [preorder_eq n, List.length_cons, Nat.lt_succ_iff, List.flatMap_def]
  exact (List.sublist_flatten_of_mem (List.mem_map_of_mem h)).length_le

/-- Induction over a subtree: a property goes from the children of a node to the node, so it holds
of the root. -/
theorem Throughout.induct (hstep : ∀ n, P n → (∀ m ∈ n.children, Q m) → Q n)
    (h : n.Throughout P) : Q n := by
  -- A node and its children are of three types, so the induction is on the size of the subtree.
  induction hlength : n.preorder.length using Nat.strongRecOn generalizing n with
  | ind length ih =>
    obtain ⟨hn, hchildren⟩ := throughout_iff.mp h
    refine hstep n hn fun m hm => ih m.preorder.length ?_ (hchildren m hm) rfl
    rw [← hlength]
    exact length_preorder_lt hm

/-- All nodes of a forest have a property if those at its positions do. -/
theorem forall_nodeAt?_iff :
    (∀ position m, nodeAt? roots position = some m → P m) ↔ ∀ n ∈ roots, n.Throughout P := by
  have hwalk : ∀ m, (∃ position, nodeAt? roots position = some m) ↔
      ∃ n ∈ roots, m ∈ n.preorder := by
    intro m
    rw [← mem_walk, walk_eq_flatMap, List.mem_flatMap]
  constructor
  · intro h n hn m hm
    obtain ⟨position, hposition⟩ := (hwalk m).mpr ⟨n, hn, hm⟩
    exact h position m hposition
  · intro h position m hposition
    obtain ⟨n, hn, hm⟩ := (hwalk m).mp ⟨position, hposition⟩
    exact h n hn m hm

/-- The node is not foreign, and has one span if it is a block: as an expression that of its
braces. -/
structure Expressible (n : Node) : Prop where
  known : n.isForeign = false
  oneSpan : ∀ b, n = .expr (.block b) → b.braces = b.span

/-- The documents that a node keeps have distinct keys. -/
def KeepsDistinctKeys (n : Node) : Prop :=
  ∀ d ∈ n.documents, d.DistinctKeys

end Node

/-! ## Units -/

namespace CompilationUnit

variable {unit : CompilationUnit}

/-- No node of the unit, at whatever position it stands, is foreign, and every block has one
span. -/
structure WellFormed (unit : CompilationUnit) : Prop where
  known : ∀ position n, nodeAt? unit.roots position = some n → n.isForeign = false
  oneSpan : ∀ position b, nodeAt? unit.roots position = some (.expr (.block b)) →
    b.braces = b.span

/-- The documents that the nodes of the unit keep have distinct keys, and so has the table of
definitions. -/
structure DistinctKeys (unit : CompilationUnit) : Prop where
  documents : ∀ position n, nodeAt? unit.roots position = some n →
    ∀ d ∈ n.documents, d.DistinctKeys
  definitions : (unit.definitions.map Prod.fst).Nodup

/-- A unit is well-formed exactly if every node in the subtrees of its items can be expressed. -/
theorem wellFormed_iff :
    unit.WellFormed ↔ ∀ i ∈ unit.items, (Node.item i).Throughout Node.Expressible := by
  have hnodes : unit.WellFormed ↔
      ∀ position m, nodeAt? unit.roots position = some m → m.Expressible := by
    constructor
    · intro h position m hm
      exact ⟨h.known position m hm, fun b hb => h.oneSpan position b (hb ▸ hm)⟩
    · intro h
      exact ⟨fun position m hm => (h position m hm).known,
        fun position b hb => (h position _ hb).oneSpan b rfl⟩
  rw [hnodes, Node.forall_nodeAt?_iff, roots, List.forall_mem_map]

/-- A unit has distinct keys exactly if the nodes in the subtrees of its items keep distinct keys,
and no definition is given twice. -/
theorem distinctKeys_iff :
    unit.DistinctKeys ↔
      (∀ i ∈ unit.items, (Node.item i).Throughout Node.KeepsDistinctKeys) ∧
        (unit.definitions.map Prod.fst).Nodup := by
  have hitems : (∀ position n, nodeAt? unit.roots position = some n → n.KeepsDistinctKeys) ↔
      ∀ i ∈ unit.items, (Node.item i).Throughout Node.KeepsDistinctKeys := by
    rw [Node.forall_nodeAt?_iff, roots, List.forall_mem_map]
  rw [← hitems]
  exact ⟨fun h => ⟨h.documents, h.definitions⟩, fun h => ⟨h.1, h.2⟩⟩

end CompilationUnit

end TreeLint
