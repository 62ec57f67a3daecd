import TreeLint.Dump.Writer
import TreeLint.Proofs.WellFormed

/-!
# The keys of a written dump

A written dump is a proper document: the objects in it have distinct keys, as long as those in the
documents that the unit keeps have them. The fields of a node are written one by one, each under a
key of its own, so it is enough to look at the types that fields have and at the keys of each kind
of node.

## Main definitions

* `writeNode`: the document that writes a node
* `writeValue`: the document that writes the value of a field
* `WritesFields`: the fields of an object write the fields of a node, under distinct keys

## Main results

* `distinctKeys_writeValue`: the value of a field is written with distinct keys if its nodes are
* `exists_writesFields_expr` and its kin: a node is written field by field
* `distinctKeys_writeNode`: a node is written with distinct keys
-/

namespace TreeLint.Dump

/-! ## Spans, types, traits, patterns and parameters -/

theorem distinctKeys_writeSpan : ∀ s, (writeSpan s).DistinctKeys
  | .written r => by simp [writeSpan, regionFields]
  | .expanded r name site => by
    have hsite := distinctKeys_writeSpan site
    simp [writeSpan, regionFields, hsite]
  | .lowered r kind => by simp [writeSpan, regionFields]
  | .loweredAt r kind site => by
    have hsite := distinctKeys_writeSpan site
    simp [writeSpan, regionFields, hsite]

theorem distinctKeys_writeTypeRef (t : TypeRef) : (writeTypeRef t).DistinctKeys := by
  simp [writeTypeRef, distinctKeys_writeSpan]

theorem distinctKeys_writeTraitRef {t : TraitRef} (h : t.defId.DistinctKeys) :
    (writeTraitRef t).DistinctKeys := by
  simp [writeTraitRef, distinctKeys_writeSpan, h]

mutual

/-- A pattern is written with distinct keys if the names in it have distinct keys. -/
theorem distinctKeys_writePattern :
    ∀ p : Pattern, (∀ d ∈ p.names, d.DistinctKeys) → (writePattern p).DistinctKeys
  | .mk kind span name subpatterns, h => by
    rw [Pattern.names, List.forall_mem_cons] at h
    have hsub := distinctKeys_writePatterns subpatterns h.2
    simpa [writePattern, distinctKeys_writeSpan, h.1] using hsub

theorem distinctKeys_writePatterns :
    ∀ ps, (∀ d ∈ namesInAll ps, d.DistinctKeys) → ∀ d ∈ writePatterns ps, d.DistinctKeys
  | [], _ => by simp [writePatterns]
  | p :: ps, h => by
    rw [namesInAll, List.forall_mem_append] at h
    rw [writePatterns, List.forall_mem_cons]
    exact ⟨distinctKeys_writePattern p h.1, distinctKeys_writePatterns ps h.2⟩

end

theorem distinctKeys_writeParam {p : Param} (h : ∀ d ∈ p.pattern.names, d.DistinctKeys) :
    (writeParam p).DistinctKeys := by
  have hpattern := distinctKeys_writePattern p.pattern h
  rcases p with ⟨pattern, _ | span⟩
  · simpa [writeParam, optionalField] using hpattern
  · simpa [writeParam, optionalField, distinctKeys_writeSpan] using hpattern

/-! ## The values of fields -/

/-- The document that writes a node. -/
def writeNode : Node → Document
  | .expr e => writeExpr e
  | .stmt s => writeStmt s
  | .item i => writeItem i

/-- The document that writes the value of a field, unless it is absent. -/
def writeValue : FieldValue → Option Document
  | .document d => some d
  | .text s => some (.str s)
  | .texts ss => some (.arr (ss.map .str))
  | .flag b => some (.bool b)
  | .span s => some (writeSpan s)
  | .pattern p => some (writePattern p)
  | .params ps => some (.arr (ps.map writeParam))
  | .type? t => t.map writeTypeRef
  | .trait? t => t.map writeTraitRef
  | .closureKind kind => some (.str kind.name)
  | .blockMode mode => some (.str mode.name)
  | .safety safety => some (.bool (safety == .unchecked))
  | .expr e => some (writeExpr e)
  | .expr? e => writeExpr? e
  | .exprs es => some (.arr (writeExprs es))
  | .block b => some (writeBlock b)
  | .block? b => writeBlock? b
  | .stmts ss => some (.arr (writeStmts ss))
  | .item i => some (writeItem i)
  | .items is => some (.arr (writeItems is))
  | .sort _ => none

/-- The value of a field is written with distinct keys if its documents have them and its nodes are
written with them. -/
theorem distinctKeys_writeValue {v : FieldValue} (hdocuments : ∀ d ∈ v.documents, d.DistinctKeys)
    (hnodes : ∀ m ∈ v.nodes, (writeNode m).DistinctKeys) :
    ∀ d ∈ writeValue v, d.DistinctKeys := by
  cases v with
  | document d => simpa [writeValue] using hdocuments d (by simp [FieldValue.documents])
  | span s => simpa [writeValue] using distinctKeys_writeSpan s
  | pattern p => simpa [writeValue] using distinctKeys_writePattern p hdocuments
  | params ps =>
    have hps : ∀ p ∈ ps, (writeParam p).DistinctKeys := fun p hp =>
      distinctKeys_writeParam fun d hd => hdocuments d (List.mem_flatMap.mpr ⟨p, hp, hd⟩)
    simpa [writeValue] using hps
  | type? t => simpa [writeValue] using fun t _ => distinctKeys_writeTypeRef t
  | trait? t =>
    have ht : ∀ a, t = some a → (writeTraitRef a).DistinctKeys := by
      rintro a rfl
      exact distinctKeys_writeTraitRef (hdocuments _ (by simp [FieldValue.documents]))
    simpa [writeValue] using ht
  | expr e => simpa [writeValue, FieldValue.nodes, writeNode] using hnodes
  | expr? e => simpa [writeValue, FieldValue.nodes, writeNode, writeExpr?_eq_map] using hnodes
  | exprs es => simpa [writeValue, FieldValue.nodes, writeNode, writeExprs_eq_map] using hnodes
  | block b => simpa [writeValue, FieldValue.nodes, writeNode, writeExpr] using hnodes
  | block? b =>
    simpa [writeValue, FieldValue.nodes, writeNode, writeExpr, writeBlock?_eq_map] using hnodes
  | stmts ss => simpa [writeValue, FieldValue.nodes, writeNode, writeStmts_eq_map] using hnodes
  | item i => simpa [writeValue, FieldValue.nodes, writeNode] using hnodes
  | items is => simpa [writeValue, FieldValue.nodes, writeNode, writeItems_eq_map] using hnodes
  | _ => simp [writeValue]

/-! ## Nodes -/

/-- Fields that write a node: their keys are distinct, and each holds a word or the value of a field
of the node. -/
structure WritesFields (n : Node) (fs : List (String × Document)) : Prop where
  keys : (fs.map Prod.fst).Nodup
  values : ∀ f ∈ fs, (∃ word, f.2 = .str word) ∨ ∃ v ∈ n.fields, f.2 ∈ writeValue v

theorem mem_optionalField {key other : String} {d : Option Document} {x : Document} :
    (other, x) ∈ optionalField key d ↔ other = key ∧ x ∈ d := by
  cases d <;> simp [optionalField, eq_comm]

namespace WritesFields

variable {n : Node} {fs : List (String × Document)}

/-- A field that may be absent can be added under a new key. -/
theorem append_optionalField {key : String} {v : FieldValue} (h : WritesFields n fs)
    (hkey : ∀ f ∈ fs, f.1 ≠ key) (hv : v ∈ n.fields) :
    WritesFields n (fs ++ optionalField key (writeValue v)) := by
  cases hd : writeValue v with
  | none =>
    rw [optionalField, Option.map_none, Option.toList_none, List.append_nil]
    exact h
  | some d =>
    constructor
    · rw [List.map_append, optionalField, Option.map_some, Option.toList_some, List.map_singleton]
      refine List.nodup_append.mpr ⟨h.keys, by simp, fun a ha b hb => ?_⟩
      obtain ⟨f, hf, rfl⟩ := List.mem_map.mp ha
      rw [List.mem_singleton.mp hb]
      exact hkey f hf
    · intro f hf
      rcases List.mem_append.mp hf with hf | hf
      · exact h.values f hf
      · rw [List.mem_singleton.mp hf]
        exact .inr ⟨v, hv, hd⟩

/-- A document with such fields has distinct keys if the values of the fields of the node are
written with them. -/
theorem distinctKeys {d : Document} (h : ∃ fs, d = .obj fs ∧ WritesFields n fs)
    (hvalues : ∀ v ∈ n.fields, ∀ d ∈ writeValue v, d.DistinctKeys) : d.DistinctKeys := by
  obtain ⟨fs, rfl, hfs⟩ := h
  refine .obj hfs.keys fun f hf => ?_
  rcases hfs.values f hf with ⟨word, hword⟩ | ⟨v, hv, hd⟩
  · rw [hword]
    exact .str word
  · exact hvalues v hv f.2 hd

end WritesFields

/-- An expression is written as an object that holds its fields. -/
theorem exists_writesFields_expr (e : Expr) :
    ∃ fs, writeExpr e = .obj fs ∧ WritesFields (.expr e) fs := by
  cases e with
  | range span start stop inclusive =>
    refine ⟨_, rfl, WritesFields.append_optionalField (v := .expr? stop)
      (WritesFields.append_optionalField (v := .expr? start) ⟨?_, ?_⟩ ?_ ?_) ?_ ?_⟩ <;>
      simp +contextual [nodeFields, mem_optionalField, Node.fields, Expr.fields, writeValue]
  | block b =>
    obtain ⟨stmts, braces, tail, mode, span⟩ := b
    refine ⟨_, rfl, WritesFields.append_optionalField (v := .expr? tail) ⟨?_, ?_⟩ ?_ ?_⟩ <;>
      simp [nodeFields, Node.fields, Expr.fields, Block.fields, writeValue]
  | conditional condition consequence span alternative =>
    refine ⟨_, rfl, WritesFields.append_optionalField (v := .expr? alternative) ⟨?_, ?_⟩ ?_ ?_⟩ <;>
      simp [nodeFields, Node.fields, Expr.fields, writeValue]
  | ret span value =>
    refine ⟨_, rfl, WritesFields.append_optionalField (v := .expr? value) ⟨?_, ?_⟩ ?_ ?_⟩ <;>
      simp [nodeFields, Node.fields, Expr.fields, writeValue]
  | foreign kindName span =>
    refine ⟨_, rfl, ?_, ?_⟩ <;> simp [Node.fields, Expr.fields, writeValue]
  | _ =>
    refine ⟨_, rfl, ?_, ?_⟩ <;>
      simp [nodeFields, Node.fields, Expr.fields, writeValue]

theorem exists_writesFields_stmt (s : Stmt) :
    ∃ fs, writeStmt s = .obj fs ∧ WritesFields (.stmt s) fs := by
  cases s with
  | binding pattern span type init otherwise =>
    refine ⟨_, rfl, WritesFields.append_optionalField (v := .block? otherwise)
      (WritesFields.append_optionalField (v := .expr? init)
        (WritesFields.append_optionalField (v := .type? type) ⟨?_, ?_⟩ ?_ ?_) ?_ ?_) ?_ ?_⟩ <;>
      simp +contextual [nodeFields, mem_optionalField, or_imp, forall_and, Node.fields,
        Stmt.fields, writeValue]
  | foreign kindName span =>
    refine ⟨_, rfl, ?_, ?_⟩ <;> simp [Node.fields, Stmt.fields, writeValue]
  | _ =>
    refine ⟨_, rfl, ?_, ?_⟩ <;>
      simp [nodeFields, Node.fields, Stmt.fields, writeValue]

theorem exists_writesFields_item (i : Item) :
    ∃ fs, writeItem i = .obj fs ∧ WritesFields (.item i) fs := by
  cases i with
  | function name span safety params body =>
    refine ⟨_, rfl, WritesFields.append_optionalField (v := .block? body) ⟨?_, ?_⟩ ?_ ?_⟩ <;>
      simp [nodeFields, writeSafety, Node.fields, Item.fields, writeValue]
  | implementation selfType span ofTrait safety items =>
    refine ⟨_, rfl, WritesFields.append_optionalField (v := .trait? ofTrait) ⟨?_, ?_⟩ ?_ ?_⟩ <;>
      simp [nodeFields, writeSafety, Node.fields, Item.fields, writeValue]
  | constant name span type value =>
    refine ⟨_, rfl, WritesFields.append_optionalField (v := .expr? value)
      (WritesFields.append_optionalField (v := .type? type) ⟨?_, ?_⟩ ?_ ?_) ?_ ?_⟩ <;>
      simp +contextual [nodeFields, mem_optionalField, Node.fields, Item.fields, writeValue]
  | typeAlias name span type =>
    refine ⟨_, rfl, WritesFields.append_optionalField (v := .type? type) ⟨?_, ?_⟩ ?_ ?_⟩ <;>
      simp [nodeFields, Node.fields, Item.fields, writeValue]
  | foreign kindName span =>
    refine ⟨_, rfl, ?_, ?_⟩ <;> simp [Node.fields, Item.fields, writeValue]
  | _ =>
    refine ⟨_, rfl, ?_, ?_⟩ <;>
      simp [nodeFields, writeSafety, Node.fields, Item.fields, writeValue]

/-- A node is written with distinct keys if the documents in its subtree have them. -/
theorem distinctKeys_writeNode {n : Node} (h : n.Throughout Node.KeepsDistinctKeys) :
    (writeNode n).DistinctKeys := by
  refine Node.Throughout.induct (Q := fun n => (writeNode n).DistinctKeys) ?_ h
  intro n hdocuments hchildren
  have hvalues : ∀ v ∈ n.fields, ∀ d ∈ writeValue v, d.DistinctKeys := by
    intro v hv
    refine distinctKeys_writeValue (fun d hd => ?_) fun m hm => ?_
    · exact hdocuments d (List.mem_flatMap.mpr ⟨v, hv, hd⟩)
    · rw [← Node.held_eq_children] at hchildren
      exact hchildren m (List.mem_flatMap.mpr ⟨v, hv, hm⟩)
  cases n with
  | expr e => exact WritesFields.distinctKeys (exists_writesFields_expr e) hvalues
  | stmt s => exact WritesFields.distinctKeys (exists_writesFields_stmt s) hvalues
  | item i => exact WritesFields.distinctKeys (exists_writesFields_item i) hvalues

end TreeLint.Dump
