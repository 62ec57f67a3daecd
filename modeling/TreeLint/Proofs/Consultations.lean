import Mathlib.Data.List.Basic
import Mathlib.Data.List.TakeWhile
import TreeLint.Proofs.DumpFields
import TreeLint.Tree.Node

/-!
# What a node of a dump consults

The kind of a node decides which fields of its object are consulted and in which order. The list of
these consultations says three things about reading a node, whatever the readings of its fields are:
its fault is the first fault among them, its result depends on them only, and its children are the
nodes that the fields among them hold, in the same order.

## Main definitions

* `Slot`: a position that holds a node
* `Holding`: a field that holds nodes
* `Kind`: what a node is read as
* `Consult`, `consults`: the consultations of a kind in their order

## Main results

* `faultOf?_readKind`: the fault of a node is the first fault of its consultations
* `readKind_congr`: a node depends on its consultations only
* `children_of_readKind`: the children of a node are the nodes that its fields hold
-/

namespace TreeLint.Dump

variable {α β : Type} {fs fs' : List (String × Document)} {fields fields' : Fields}

/-! ## Faults -/

/-- The fault of a result. -/
def faultOf? : Except Fault α → Option Fault
  | .ok _ => none
  | .error fault => some fault

/-- The first fault among several. -/
def firstFault (faults : List (Option Fault)) : Option Fault :=
  faults.foldr Option.or none

@[simp]
theorem faultOf?_map (f : α → β) (x : Except Fault α) : faultOf? (x.map f) = faultOf? x := by
  cases x <;> rfl

theorem faultOf?_eq_none_iff {x : Except Fault α} : faultOf? x = none ↔ ∃ a, x = .ok a := by
  cases x <;> simp [faultOf?]

theorem faultOf?_eq_some_iff {x : Except Fault α} {fault : Fault} :
    faultOf? x = some fault ↔ x = .error fault := by
  cases x <;> simp [faultOf?]

/-- The fault of a computation in two steps, when that of the second does not depend on the
first. -/
theorem faultOf?_bind {x : Except Fault α} {f : α → Except Fault β} {later : Option Fault}
    (h : ∀ a, faultOf? (f a) = later) : faultOf? (x >>= f) = (faultOf? x).or later := by
  cases x with
  | error fault => rfl
  | ok a => exact h a

/-- The first fault of two lists in sequence is in the second only if the first has none. -/
theorem firstFault_append (earlier later : List (Option Fault)) :
    firstFault (earlier ++ later) = (firstFault earlier).or (firstFault later) := by
  induction earlier with
  | nil => rfl
  | cons fault earlier ih =>
    rw [List.cons_append, firstFault, List.foldr_cons, ← firstFault, ih, ← Option.or_assoc]
    rfl

theorem firstFault_eq_none_iff {faults : List (Option Fault)} :
    firstFault faults = none ↔ ∀ fault ∈ faults, fault = none := by
  induction faults with
  | nil => simp [firstFault]
  | cons fault faults ih =>
    rw [firstFault, List.foldr_cons, ← firstFault, Option.or_eq_none_iff, ih, List.forall_mem_cons]

theorem map_eq_ok_iff {f : α → β} {x : Except Fault α} {b : β} :
    x.map f = .ok b ↔ ∃ a, x = .ok a ∧ f a = b := by
  cases x <;> simp [Except.map]

theorem map_injective {f : α → β} (hf : Function.Injective f) :
    Function.Injective (Except.map f : Except Fault α → Except Fault β) := by
  intro x y h
  cases x <;> cases y <;> simp_all [Except.map, hf.eq_iff]

/-! ## Positions of nodes -/

/-- A position that holds a node. In most of them the node names a kind of a sort; in the others it
is read as a block, whatever it names. -/
inductive Slot where
  | node (sort : NodeSort)
  | block
  deriving DecidableEq

namespace Slot

/-- What is read in a position. -/
def Carrier : Slot → Type
  | node .expression => Expr
  | node .statement => Stmt
  | node .item => Item
  | block => Block

/-- The meaning of a document in a position. -/
def raw : (slot : Slot) → Reading → Except Fault slot.Carrier
  | node .expression => Reading.expr
  | node .statement => Reading.stmt
  | node .item => Reading.item
  | block => Reading.block

/-- What is read in a position, as a node. -/
def toNode : (slot : Slot) → slot.Carrier → Node
  | node .expression => .expr
  | node .statement => .stmt
  | node .item => .item
  | block => fun b => .expr (.block b)

/-- What is read in a position is known from the node. -/
theorem toNode_injective (slot : Slot) : Function.Injective slot.toNode := by
  rcases slot with (_ | _ | _) | _
  all_goals
    intro a b h
    cases h
    rfl

/-- The node that a document is read as in a position. -/
def role (slot : Slot) (r : Reading) : Except Fault Node :=
  (slot.raw r).map slot.toNode

/-- The meaning of a document as a sequence of nodes. -/
def raws : (sort : NodeSort) → Reading → Except Fault (List (node sort).Carrier)
  | .expression => Reading.exprs
  | .statement => Reading.stmts
  | .item => Reading.items

end Slot

/-- A field that holds one node, or a node unless it is missing or null, or a sequence of nodes. -/
inductive Holding where
  | one (key : String) (slot : Slot)
  | optional (key : String) (slot : Slot)
  | many (key : String) (sort : NodeSort)
  deriving DecidableEq

namespace Holding

/-- The key of the field. -/
def key : Holding → String
  | one key _ => key
  | optional key _ => key
  | many key _ => key

/-- The position of each node in the field. -/
def slot : Holding → Slot
  | one _ slot => slot
  | optional _ slot => slot
  | many _ sort => .node sort

/-- The nodes that the field holds. -/
def nodes (fields : Fields) : Holding → Except Fault (List Node)
  | one key slot => (fields.get key slot.raw).map fun a => [slot.toNode a]
  | optional key slot => (fields.optional key slot.raw).map fun a => a.toList.map slot.toNode
  | many key sort =>
    (fields.sequence key (Slot.raws sort)).map fun as => as.map (Slot.node sort).toNode

/-- The fault of the field. -/
def fault? (fields : Fields) : Holding → Option Fault
  | one key slot => faultOf? (fields.get key slot.raw)
  | optional key slot => faultOf? (fields.optional key slot.raw)
  | many key sort => faultOf? (fields.sequence key (Slot.raws sort))

/-- A field that holds nodes has the fault of its nodes. -/
theorem faultOf?_nodes (holding : Holding) :
    faultOf? (holding.nodes fields) = holding.fault? fields := by
  cases holding <;> exact faultOf?_map _ _

/-- The field has the same meaning in two objects. -/
def Agrees (fields fields' : Fields) : Holding → Prop
  | one key slot => fields.get key slot.raw = fields'.get key slot.raw
  | optional key slot => fields.optional key slot.raw = fields'.optional key slot.raw
  | many key sort => fields.sequence key (Slot.raws sort) = fields'.sequence key (Slot.raws sort)

/-- A field agrees in two objects if it holds the same nodes in both. -/
theorem agrees_of_nodes_eq {holding : Holding}
    (h : holding.nodes fields = holding.nodes fields') : holding.Agrees fields fields' := by
  cases holding with
  | one key slot =>
    refine map_injective (fun a b hab => ?_) h
    exact slot.toNode_injective (List.singleton_inj.mp hab)
  | optional key slot =>
    refine map_injective (fun a b hab => ?_) h
    rcases a with _ | a <;> rcases b with _ | b
    · rfl
    · cases hab
    · cases hab
    · rw [slot.toNode_injective (List.singleton_inj.mp hab)]
  | many key sort =>
    exact map_injective (List.map_injective_iff.mpr (Slot.toNode_injective _)) h

end Holding

/-! ## Consultations -/

/-- What a node is read as: a node of a kind, or a block whose kind is not asked for. -/
inductive Kind where
  | expr (kind : ExprKind)
  | stmt (kind : StmtKind)
  | item (kind : ItemKind)
  | block
  deriving DecidableEq

/-- An object read as a kind. -/
def readKind (d : Document) (fields : Fields) : Kind → Except Fault Node
  | .expr kind => (readExprOf d fields kind).map .expr
  | .stmt kind => (readStmtOf fields kind).map .stmt
  | .item kind => (readItemOf fields kind).map .item
  | .block => (readBlock d fields).map fun b => .expr (.block b)

/-- A consultation of the fields of an object. -/
inductive Consult where
  /-- A value that is kept as it is, or that has a default. -/
  | plain (key : String)
  | safety
  | text (key : String)
  | span
  | pattern
  | params
  | typeRef
  | traitRef
  | segments
  | closureKind
  | blockMode
  | hold (holding : Holding)
  deriving DecidableEq

namespace Consult

/-- The keys of the fields that are consulted. -/
def keys : Consult → List String
  | plain key => [key]
  | safety => ["unsafe"]
  | text key => [key]
  | span => ["span"]
  | pattern => ["pat"]
  | params => ["params"]
  | typeRef => ["ty"]
  | traitRef => ["trait"]
  | segments => ["segments", "path"]
  | closureKind => ["closure_kind"]
  | blockMode => ["rules"]
  | hold holding => [holding.key]

/-- The fault of a consultation. -/
def fault? (fields : Fields) : Consult → Option Fault
  | plain _ => none
  | safety => none
  | text key => faultOf? (fields.text key)
  | span => faultOf? (fields.get "span" Reading.span)
  | pattern => faultOf? (fields.get "pat" Reading.pattern)
  | params => faultOf? (fields.sequence "params" Reading.params)
  | typeRef => faultOf? (fields.optional "ty" Reading.typeRef)
  | traitRef => faultOf? (fields.optional "trait" Reading.traitRef)
  | segments => faultOf? (readSegments fields)
  | closureKind => faultOf? (readMember (α := ClosureKind)
      (fields.valueOr "closure_kind" (.str ClosureKind.closure.name)))
  | blockMode => faultOf? (readMember (α := BlockMode)
      (fields.valueOr "rules" (.str BlockMode.checked.name)))
  | hold holding => holding.fault? fields

/-- The consultation gives the same for two objects. -/
def Agrees (fields fields' : Fields) : Consult → Prop
  | plain key => ∀ default, fields.valueOr key default = fields'.valueOr key default
  | safety => fields.safety = fields'.safety
  | text key => fields.text key = fields'.text key
  | span => fields.get "span" Reading.span = fields'.get "span" Reading.span
  | pattern => fields.get "pat" Reading.pattern = fields'.get "pat" Reading.pattern
  | params => fields.sequence "params" Reading.params = fields'.sequence "params" Reading.params
  | typeRef => fields.optional "ty" Reading.typeRef = fields'.optional "ty" Reading.typeRef
  | traitRef => fields.optional "trait" Reading.traitRef = fields'.optional "trait" Reading.traitRef
  | segments => readSegments fields = readSegments fields'
  | closureKind => ∀ default,
      fields.valueOr "closure_kind" default = fields'.valueOr "closure_kind" default
  | blockMode => ∀ default, fields.valueOr "rules" default = fields'.valueOr "rules" default
  | hold holding => holding.Agrees fields fields'

/-- A consultation gives the same for objects that agree on its keys. -/
theorem agrees_of_lookup {c : Consult}
    (h : ∀ key ∈ c.keys, fields.lookup key = fields'.lookup key) : c.Agrees fields fields' := by
  cases c with
  | hold holding =>
    have hkey := h holding.key (by simp [keys])
    cases holding <;>
      simp_all [Agrees, Holding.Agrees, Holding.key, Fields.get, Fields.require, Fields.optional,
        Fields.given?, Fields.sequence]
  | safety =>
    have hkey := h "unsafe" (by simp [keys])
    rw [Agrees, Fields.safety, Fields.safety, Fields.value, Fields.value, Fields.valueOr,
      Fields.valueOr, hkey]
  | _ =>
    simp_all [keys, Agrees, readSegments, Fields.valueOr, Fields.text, Fields.get, Fields.require,
      Fields.optional, Fields.given?, Fields.sequence]

/-- Where a consultation gives the same, it has the same fault. -/
theorem fault?_eq_of_agrees {c : Consult} (h : c.Agrees fields fields') :
    c.fault? fields = c.fault? fields' := by
  cases c with
  | hold holding => cases holding <;> exact congrArg faultOf? h
  | _ => simp_all [Agrees, fault?]

end Consult

/-- The consultations of a kind in their order. -/
def consults : Kind → List Consult
  | .expr .literal => [.span, .plain "value"]
  | .expr .path => [.segments, .span, .plain "def_id"]
  | .expr .unary => [.hold (.one "operand" (.node .expression)), .span, .plain "op"]
  | .expr .binary =>
    [.hold (.one "lhs" (.node .expression)), .hold (.one "rhs" (.node .expression)), .span,
      .plain "op"]
  | .expr .addrOf => [.hold (.one "operand" (.node .expression)), .span, .plain "mutable"]
  | .expr .field => [.hold (.one "target" (.node .expression)), .text "name", .span]
  | .expr .call =>
    [.hold (.one "func" (.node .expression)), .hold (.many "args" .expression), .span]
  | .expr .methodCall =>
    [.hold (.one "receiver" (.node .expression)), .text "method",
      .hold (.many "args" .expression), .span]
  | .expr .index =>
    [.hold (.one "target" (.node .expression)), .hold (.one "index" (.node .expression)), .span]
  | .expr .range =>
    [.span, .hold (.optional "start" (.node .expression)),
      .hold (.optional "end" (.node .expression)), .plain "inclusive"]
  | .expr .closure => [.params, .hold (.one "body" (.node .expression)), .span, .closureKind]
  | .expr .block =>
    [.span, .hold (.many "stmts" .statement), .hold (.optional "expr" (.node .expression)),
      .blockMode]
  | .expr .conditional =>
    [.hold (.one "cond" (.node .expression)), .hold (.one "then" .block), .span,
      .hold (.optional "else" (.node .expression))]
  | .expr .array => [.hold (.many "elements" .expression), .span]
  | .expr .ret => [.span, .hold (.optional "value" (.node .expression))]
  | .stmt .binding =>
    [.pattern, .span, .typeRef, .hold (.optional "init" (.node .expression)),
      .hold (.optional "else" .block)]
  | .stmt .expr => [.hold (.one "expr" (.node .expression)), .span, .plain "semi"]
  | .stmt .item => [.hold (.one "item" (.node .item)), .span]
  | .item .function =>
    [.text "name", .span, .params, .hold (.optional "body" .block), .safety]
  | .item .trait => [.text "name", .span, .hold (.many "items" .item), .safety]
  | .item .implementation =>
    [.traitRef, .plain "self_ty", .span, .hold (.many "items" .item), .safety]
  | .item .struct => [.text "name", .span]
  | .item .submodule => [.text "name", .span, .hold (.many "items" .item)]
  | .item .constant =>
    [.text "name", .span, .typeRef, .hold (.optional "value" (.node .expression))]
  | .item .typeAlias => [.text "name", .span, .typeRef]
  | .block =>
    [.span, .hold (.many "stmts" .statement), .hold (.optional "expr" (.node .expression)),
      .blockMode]

/-! ## The first fault -/

theorem readExprOf_block (d : Document) (fields : Fields) :
    readExprOf d fields .block = (readBlock d fields).map .block := by
  rw [readExprOf]
  cases readBlock d fields <;> rfl

theorem faultOf?_readBlock :
    faultOf? (readBlock (.obj fs) fields) =
      firstFault ((consults .block).map (Consult.fault? fields)) := by
  exact faultOf?_bind fun span => faultOf?_bind fun stmts => faultOf?_bind fun tail =>
    faultOf?_bind fun mode => rfl

theorem faultOf?_readExprOf (kind : ExprKind) :
    faultOf? (readExprOf (.obj fs) fields kind) =
      firstFault ((consults (.expr kind)).map (Consult.fault? fields)) := by
  cases kind with
  | block =>
    rw [readExprOf_block, faultOf?_map]
    exact faultOf?_readBlock
  | literal => exact faultOf?_bind fun span => rfl
  | path => exact faultOf?_bind fun segments => faultOf?_bind fun span => rfl
  | unary | addrOf => exact faultOf?_bind fun operand => faultOf?_bind fun span => rfl
  | binary =>
    exact faultOf?_bind fun lhs => faultOf?_bind fun rhs => faultOf?_bind fun span => rfl
  | field =>
    exact faultOf?_bind fun target => faultOf?_bind fun name => faultOf?_bind fun span => rfl
  | call =>
    exact faultOf?_bind fun callee => faultOf?_bind fun args => faultOf?_bind fun span => rfl
  | methodCall =>
    exact faultOf?_bind fun receiver => faultOf?_bind fun method => faultOf?_bind fun args =>
      faultOf?_bind fun span => rfl
  | index =>
    exact faultOf?_bind fun target => faultOf?_bind fun operand => faultOf?_bind fun span => rfl
  | range =>
    exact faultOf?_bind fun span => faultOf?_bind fun start => faultOf?_bind fun stop => rfl
  | closure =>
    exact faultOf?_bind fun params => faultOf?_bind fun body => faultOf?_bind fun span =>
      faultOf?_bind fun kind => rfl
  | conditional =>
    exact faultOf?_bind fun condition => faultOf?_bind fun consequence =>
      faultOf?_bind fun span => faultOf?_bind fun alternative => rfl
  | array => exact faultOf?_bind fun elements => faultOf?_bind fun span => rfl
  | ret => exact faultOf?_bind fun span => faultOf?_bind fun value => rfl

theorem faultOf?_readStmtOf (kind : StmtKind) :
    faultOf? (readStmtOf fields kind) =
      firstFault ((consults (.stmt kind)).map (Consult.fault? fields)) := by
  cases kind with
  | binding =>
    exact faultOf?_bind fun pattern => faultOf?_bind fun span => faultOf?_bind fun type =>
      faultOf?_bind fun init => faultOf?_bind fun otherwise => rfl
  | expr => exact faultOf?_bind fun expr => faultOf?_bind fun span => rfl
  | item => exact faultOf?_bind fun item => faultOf?_bind fun span => rfl

theorem faultOf?_readItemOf (kind : ItemKind) :
    faultOf? (readItemOf fields kind) =
      firstFault ((consults (.item kind)).map (Consult.fault? fields)) := by
  cases kind with
  | function =>
    exact faultOf?_bind fun name => faultOf?_bind fun span => faultOf?_bind fun params =>
      faultOf?_bind fun body => rfl
  | trait =>
    exact faultOf?_bind fun name => faultOf?_bind fun span => faultOf?_bind fun items => rfl
  | implementation =>
    exact faultOf?_bind fun ofTrait => faultOf?_bind fun span => faultOf?_bind fun items => rfl
  | struct => exact faultOf?_bind fun name => faultOf?_bind fun span => rfl
  | submodule =>
    exact faultOf?_bind fun name => faultOf?_bind fun span => faultOf?_bind fun items => rfl
  | constant =>
    exact faultOf?_bind fun name => faultOf?_bind fun span => faultOf?_bind fun type =>
      faultOf?_bind fun value => rfl
  | typeAlias =>
    exact faultOf?_bind fun name => faultOf?_bind fun span => faultOf?_bind fun type => rfl

/-- The fault of a node is the first fault of its consultations. -/
theorem faultOf?_readKind (kind : Kind) :
    faultOf? (readKind (.obj fs) fields kind) =
      firstFault ((consults kind).map (Consult.fault? fields)) := by
  cases kind with
  | expr kind => exact (faultOf?_map _ _).trans (faultOf?_readExprOf kind)
  | stmt kind => exact (faultOf?_map _ _).trans (faultOf?_readStmtOf kind)
  | item kind => exact (faultOf?_map _ _).trans (faultOf?_readItemOf kind)
  | block => exact (faultOf?_map _ _).trans faultOf?_readBlock

/-- Where a node is read, none of its consultations has a fault. -/
theorem fault?_eq_none_of_readKind {kind : Kind} {n : Node}
    (h : readKind (.obj fs) fields kind = .ok n) {c : Consult} (hc : c ∈ consults kind) :
    c.fault? fields = none := by
  have hfault : faultOf? (readKind (.obj fs) fields kind) = none := by
    rw [h]
    rfl
  rw [faultOf?_readKind, firstFault_eq_none_iff] at hfault
  exact hfault _ (List.mem_map_of_mem hc)

/-! ## What a node depends on -/

theorem readBlock_congr (h : ∀ c ∈ consults .block, c.Agrees fields fields') :
    readBlock (.obj fs) fields = readBlock (.obj fs') fields' := by
  simp only [consults, List.forall_mem_cons, List.not_mem_nil, IsEmpty.forall_iff, implies_true,
    and_true, Consult.Agrees, Holding.Agrees, Slot.Carrier, Slot.raw, Slot.raws] at h
  obtain ⟨hspan, hstmts, htail, hmode⟩ := h
  rw [readBlock, readBlock, hspan, hstmts, htail, hmode]

theorem readExprOf_congr {kind : ExprKind}
    (h : ∀ c ∈ consults (.expr kind), c.Agrees fields fields') :
    readExprOf (.obj fs) fields kind = readExprOf (.obj fs') fields' kind := by
  cases kind with
  | block => rw [readExprOf_block, readExprOf_block, readBlock_congr h]
  | _ =>
    simp only [consults, List.forall_mem_cons, List.not_mem_nil, IsEmpty.forall_iff, implies_true,
      and_true, Consult.Agrees, Holding.Agrees, Slot.Carrier, Slot.raw, Slot.raws] at h
    simp only [readExprOf, Fields.value, h]

theorem readStmtOf_congr {kind : StmtKind}
    (h : ∀ c ∈ consults (.stmt kind), c.Agrees fields fields') :
    readStmtOf fields kind = readStmtOf fields' kind := by
  cases kind
  all_goals
    simp only [consults, List.forall_mem_cons, List.not_mem_nil, IsEmpty.forall_iff, implies_true,
      and_true, Consult.Agrees, Holding.Agrees, Slot.Carrier, Slot.raw] at h
    simp only [readStmtOf, h]

theorem readItemOf_congr {kind : ItemKind}
    (h : ∀ c ∈ consults (.item kind), c.Agrees fields fields') :
    readItemOf fields kind = readItemOf fields' kind := by
  cases kind
  all_goals
    simp only [consults, List.forall_mem_cons, List.not_mem_nil, IsEmpty.forall_iff, implies_true,
      and_true, Consult.Agrees, Holding.Agrees, Slot.Carrier, Slot.raw, Slot.raws] at h
    simp only [readItemOf, h]

/-- A node depends on its consultations only. -/
theorem readKind_congr {kind : Kind} (h : ∀ c ∈ consults kind, c.Agrees fields fields') :
    readKind (.obj fs) fields kind = readKind (.obj fs') fields' kind := by
  cases kind with
  | expr kind => rw [readKind, readKind, readExprOf_congr h]
  | stmt kind => rw [readKind, readKind, readStmtOf_congr h]
  | item kind => rw [readKind, readKind, readItemOf_congr h]
  | block => rw [readKind, readKind, readBlock_congr h]

/-! ## The children of a node -/

/-- The fields of a kind that hold nodes, in the order in which they are consulted. -/
def holdings (kind : Kind) : List Holding :=
  (consults kind).filterMap fun
    | .hold holding => some holding
    | _ => none

theorem hold_mem_consults {kind : Kind} {holding : Holding} (h : holding ∈ holdings kind) :
    .hold holding ∈ consults kind := by
  obtain ⟨c, hc, hsome⟩ := List.mem_filterMap.mp h
  cases c with
  | hold other =>
    cases hsome
    exact hc
  | _ => cases hsome

/-- The nodes that a field holds, if it can be read. -/
def Holding.held (fields : Fields) (holding : Holding) : List Node :=
  match holding.nodes fields with
  | .ok ns => ns
  | .error _ => []

theorem children_of_readBlock {b : Block} (h : readBlock (.obj fs) fields = .ok b) :
    (Expr.block b).children = (holdings .block).flatMap (Holding.held fields) := by
  simp only [readBlock, bind_eq_ok_iff, pure_eq_ok, Except.ok.injEq] at h
  obtain ⟨span, -, stmts, hstmts, tail, htail, mode, -, rfl⟩ := h
  simp [holdings, consults, Holding.held, Holding.nodes, Slot.Carrier, Slot.raw, Slot.raws,
    Slot.toNode, hstmts, htail, Except.map, Expr.children]

theorem children_of_readExprOf {kind : ExprKind} {e : Expr}
    (h : readExprOf (.obj fs) fields kind = .ok e) :
    e.children = (holdings (.expr kind)).flatMap (Holding.held fields) := by
  revert h
  cases kind with
  | block =>
    rw [readExprOf_block]
    intro h
    obtain ⟨b, hb, rfl⟩ := map_eq_ok_iff.mp h
    exact children_of_readBlock hb
  | _ =>
    simp only [readExprOf, bind_eq_ok_iff, pure_eq_ok, Except.ok.injEq, forall_exists_index,
      and_imp]
    intros
    subst_vars
    simp_all [holdings, consults, Holding.held, Holding.nodes, Slot.Carrier, Slot.raw, Slot.raws,
      Slot.toNode, Except.map, Expr.children]

theorem children_of_readStmtOf {kind : StmtKind} {stmt : Stmt}
    (h : readStmtOf fields kind = .ok stmt) :
    stmt.children = (holdings (.stmt kind)).flatMap (Holding.held fields) := by
  revert h
  cases kind
  all_goals
    simp only [readStmtOf, bind_eq_ok_iff, pure_eq_ok, Except.ok.injEq, forall_exists_index,
      and_imp]
    intros
    subst_vars
    simp_all [holdings, consults, Holding.held, Holding.nodes, Slot.Carrier, Slot.raw,
      Slot.toNode, Except.map, Stmt.children]

theorem children_of_readItemOf {kind : ItemKind} {item : Item}
    (h : readItemOf fields kind = .ok item) :
    item.children = (holdings (.item kind)).flatMap (Holding.held fields) := by
  revert h
  cases kind
  all_goals
    simp only [readItemOf, bind_eq_ok_iff, pure_eq_ok, Except.ok.injEq, forall_exists_index,
      and_imp]
    intros
    subst_vars
    simp_all [holdings, consults, Holding.held, Holding.nodes, Slot.Carrier, Slot.raw, Slot.raws,
      Slot.toNode, Except.map, Item.children]

/-- The children of a node are the nodes that its fields hold. -/
theorem children_of_readKind {kind : Kind} {n : Node}
    (h : readKind (.obj fs) fields kind = .ok n) :
    n.children = (holdings kind).flatMap (Holding.held fields) := by
  cases kind with
  | expr kind =>
    obtain ⟨e, he, rfl⟩ := map_eq_ok_iff.mp h
    exact children_of_readExprOf he
  | stmt kind =>
    obtain ⟨stmt, hstmt, rfl⟩ := map_eq_ok_iff.mp h
    exact children_of_readStmtOf hstmt
  | item kind =>
    obtain ⟨item, hitem, rfl⟩ := map_eq_ok_iff.mp h
    exact children_of_readItemOf hitem
  | block =>
    obtain ⟨b, hb, rfl⟩ := map_eq_ok_iff.mp h
    exact children_of_readBlock hb

/-! ## The order of consultations -/

/-- The consultations of a kind before a field that holds nodes. -/
def consultsBefore (kind : Kind) (holding : Holding) : List Consult :=
  (consults kind).takeWhile (· ≠ .hold holding)

/-- A field that holds nodes divides the consultations into those before and those after it. -/
theorem consults_eq {kind : Kind} {holding : Holding} (h : holding ∈ holdings kind) :
    ∃ later, consults kind = consultsBefore kind holding ++ .hold holding :: later := by
  obtain ⟨earlier, later, hsplit, hnot⟩ := List.eq_append_cons_of_mem (hold_mem_consults h)
  have hearlier : ∀ c ∈ earlier, decide (c ≠ .hold holding) = true := by
    intro c hc
    exact decide_eq_true fun heq => hnot (heq ▸ hc)
  refine ⟨later, ?_⟩
  rw [consultsBefore, hsplit, List.takeWhile_append_of_pos hearlier,
    List.takeWhile_cons_of_neg (by simp), List.append_nil]

theorem mem_consults_of_mem_before {kind : Kind} {holding : Holding} {c : Consult}
    (h : c ∈ consultsBefore kind holding) : c ∈ consults kind ∧ c ≠ .hold holding := by
  refine ⟨(List.takeWhile_sublist _).mem h, ?_⟩
  simpa using List.mem_takeWhile_imp h

/-- The field that holds nodes is consulted for nothing else. -/
theorem key_not_mem_keys {kind : Kind} {holding : Holding} (h : holding ∈ holdings kind) :
    holding.key ≠ "kind" ∧
      ∀ c ∈ consults kind, c ≠ .hold holding → holding.key ∉ c.keys := by
  revert holding
  rcases kind with (_ | _ | _ | _ | _ | _ | _ | _ | _ | _ | _ | _ | _ | _ | _) | (_ | _ | _) |
    (_ | _ | _ | _ | _ | _ | _) | _
  all_goals decide

end TreeLint.Dump
