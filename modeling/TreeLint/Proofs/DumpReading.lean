import TreeLint.Proofs.DumpFields
import TreeLint.Proofs.WellFormed

/-!
# What is read from a dump is well-formed

Whatever the document, the nodes that are read from it are not foreign and have one span for each
block, and the documents that they keep are parts of the document, or null, or texts. So a property
that documents hand down to their parts goes over to the documents that the nodes keep.

## Main definitions

* `Node.Proper`: a node that a dump can express, whose documents have a property
* `Reading.Keeps`: whatever a reading gives in any position is as it should be

## Main results

* `throughout_of_readExprOf` and its kin: a node is proper throughout if the fields of its object
  keep the property
* `Reading.keeps_ofParts`: one layer of a document keeps a property if its parts do
* `keeps_read`: the reading of a document keeps the properties that its parts inherit
-/

namespace TreeLint

variable {Q : Document → Prop}

/-! ## Nodes -/

/-- A dump can express the node, and the documents that it keeps have a property. -/
def Node.Proper (Q : Document → Prop) (n : Node) : Prop :=
  n.Expressible ∧ ∀ d ∈ n.documents, Q d

/-- A node that a dump can express is proper throughout if the documents in its fields have the
property and its children are proper throughout. -/
theorem Node.throughout_proper {n : Node} (hnode : n.Expressible)
    (hdocuments : ∀ v ∈ n.fields, ∀ d ∈ v.documents, Q d)
    (hchildren : ∀ m ∈ n.children, m.Throughout (Node.Proper Q)) :
    n.Throughout (Node.Proper Q) := by
  refine Node.throughout_iff.mpr ⟨⟨hnode, fun d hd => ?_⟩, hchildren⟩
  obtain ⟨v, hv, hd⟩ := List.mem_flatMap.mp hd
  exact hdocuments v hv d hd

/-- A node that keeps no documents is proper throughout if its children are. -/
theorem Node.throughout_of_children {n : Node} (hnode : n.Expressible)
    (hdocuments : n.documents = [])
    (hchildren : ∀ m ∈ n.children, m.Throughout (Node.Proper Q)) :
    n.Throughout (Node.Proper Q) := by
  refine Node.throughout_iff.mpr ⟨⟨hnode, fun d hd => ?_⟩, hchildren⟩
  rw [hdocuments] at hd
  cases hd

namespace Dump

variable {α β : Type} {file : String} {d : Document} {parts : List Part} {fields : Fields}
  {key : String}

/-! ## Readings -/

/-- Whatever the reading gives, its documents have a property and its nodes are proper throughout.
Spans, origins and types hold neither. -/
structure Reading.Keeps (Q : Document → Prop) (r : Reading) : Prop where
  traitRef : ∀ t, r.traitRef = .ok t → Q t.defId
  pattern : ∀ p, r.pattern = .ok p → ∀ d ∈ p.names, Q d
  patterns : ∀ ps, r.patterns = .ok ps → ∀ p ∈ ps, ∀ d ∈ p.names, Q d
  param : ∀ p, r.param = .ok p → ∀ d ∈ p.pattern.names, Q d
  params : ∀ ps, r.params = .ok ps → ∀ p ∈ ps, ∀ d ∈ p.pattern.names, Q d
  block : ∀ b, r.block = .ok b → (Node.expr (.block b)).Throughout (Node.Proper Q)
  expr : ∀ e, r.expr = .ok e → (Node.expr e).Throughout (Node.Proper Q)
  exprs : ∀ es, r.exprs = .ok es → ∀ e ∈ es, (Node.expr e).Throughout (Node.Proper Q)
  stmt : ∀ s, r.stmt = .ok s → (Node.stmt s).Throughout (Node.Proper Q)
  stmts : ∀ ss, r.stmts = .ok ss → ∀ s ∈ ss, (Node.stmt s).Throughout (Node.Proper Q)
  item : ∀ i, r.item = .ok i → (Node.item i).Throughout (Node.Proper Q)
  items : ∀ is, r.items = .ok is → ∀ i ∈ is, (Node.item i).Throughout (Node.Proper Q)

/-- The fields of an object have a property as documents, and their readings keep it. -/
def Fields.Keep (Q : Document → Prop) (fields : Fields) : Prop :=
  ∀ f ∈ fields, Q f.2.document ∧ f.2.reading.Keeps Q

namespace Fields.Keep

theorem of_lookup (h : fields.Keep Q) {part : Part} (hpart : fields.lookup key = some part) :
    Q part.document ∧ part.reading.Keeps Q :=
  h (key, part) (mem_of_lookup hpart)

theorem valueOr (h : fields.Keep Q) (key : String) {default : Document} (hdefault : Q default) :
    Q (fields.valueOr key default) := by
  rw [Fields.valueOr]
  split
  · next part hpart => exact (h.of_lookup hpart).1
  · exact hdefault

theorem value (h : fields.Keep Q) (key : String) (hnull : Q .null) : Q (fields.value key) :=
  h.valueOr key hnull

section Roles

variable {P : α → Prop}

/-- What is read from a field in a role has the properties that the role has in every reading that
keeps `Q`. -/
theorem get (h : fields.Keep Q) {role : Reading → Except Fault α} {a : α}
    (ha : fields.get key role = .ok a)
    (hrole : ∀ {r : Reading}, r.Keeps Q → ∀ a, role r = .ok a → P a) : P a := by
  obtain ⟨part, hpart, ha⟩ := bind_eq_ok_iff.mp ha
  rw [Fields.require] at hpart
  split at hpart
  · next hlookup =>
    cases hpart
    exact hrole (h.of_lookup hlookup).2 a ha
  · cases hpart

/-- What is read from a field that may be missing is as its role has it. -/
theorem optional (h : fields.Keep Q) {role : Reading → Except Fault α} {a : Option α}
    (ha : fields.optional key role = .ok a)
    (hrole : ∀ {r : Reading}, r.Keeps Q → ∀ a, role r = .ok a → P a) : ∀ x ∈ a, P x := by
  rw [Fields.optional, Fields.given?] at ha
  split at ha
  · next part hpart =>
    obtain ⟨hlookup, -⟩ := Option.filter_eq_some_iff.mp hpart
    cases hx : role part.reading with
    | error fault => simp [hx, Except.map] at ha
    | ok x =>
      rw [hx] at ha
      cases ha
      rintro _ ⟨⟩
      exact hrole (h.of_lookup hlookup).2 x hx
  · cases ha
    rintro _ ⟨⟩

/-- What is read from a sequence is as its role has it. -/
theorem sequence (h : fields.Keep Q) {role : Reading → Except Fault (List α)} {as : List α}
    (has : fields.sequence key role = .ok as)
    (hrole : ∀ {r : Reading}, r.Keeps Q → ∀ as, role r = .ok as → ∀ a ∈ as, P a) :
    ∀ a ∈ as, P a := by
  rw [Fields.sequence] at has
  split at has
  · next hlookup => exact hrole (h.of_lookup hlookup).2 as has
  · cases has
    simp

end Roles

end Fields.Keep

/-! ## One layer -/

section Layer

variable (h : fields.Keep Q)
include h

/-- The names in a parameter have the property that its fields keep. -/
theorem of_readParam {p : Param} (hp : readParam d fields = .ok p) :
    ∀ d ∈ p.pattern.names, Q d := by
  cases d with
  | obj fs =>
    simp only [readParam, bind_eq_ok_iff] at hp
    obtain ⟨typeSpan, -, pattern, hpattern, hp⟩ := hp
    have hpattern := h.get hpattern Reading.Keeps.pattern
    cases typeSpan with
    | none =>
      cases hp
      exact hpattern
    | some span =>
      obtain ⟨span, -, hp⟩ := bind_eq_ok_iff.mp hp
      cases hp
      exact hpattern
  | _ => simp [readParam] at hp

/-- A block is proper throughout if the statements and the expression in it are. -/
theorem throughout_of_readBlock {b : Block} (hb : readBlock d fields = .ok b) :
    (Node.expr (.block b)).Throughout (Node.Proper Q) := by
  cases d with
  | obj fs =>
    simp only [readBlock, bind_eq_ok_iff, pure_eq_ok, Except.ok.injEq] at hb
    obtain ⟨span, -, stmts, hstmts, tail, htail, mode, -, rfl⟩ := hb
    have hstmts := h.sequence hstmts Reading.Keeps.stmts
    have htail := h.optional htail Reading.Keeps.expr
    refine Node.throughout_of_children ⟨rfl, ?_⟩ rfl ?_
    · -- The one span that is read stands for the braces and for the expression.
      rintro _ ⟨⟩
      rfl
    · simpa [Node.children, Expr.children, or_imp, forall_and] using ⟨hstmts, htail⟩
  | _ => simp [readBlock] at hb

theorem throughout_of_readStmtOf {k : StmtKind} {s : Stmt} (hs : readStmtOf fields k = .ok s) :
    (Node.stmt s).Throughout (Node.Proper Q) := by
  -- Here and below, spans, names and types hold neither documents nor nodes and are dropped.
  cases k <;> simp only [readStmtOf, bind_eq_ok_iff, pure_eq_ok, Except.ok.injEq] at hs
  case binding =>
    obtain ⟨pattern, hpattern, span, -, type, -, init, hinit, otherwise, hotherwise, rfl⟩ := hs
    have hpattern := h.get hpattern Reading.Keeps.pattern
    have hinit := h.optional hinit Reading.Keeps.expr
    have hotherwise := h.optional hotherwise Reading.Keeps.block
    refine Node.throughout_proper ⟨rfl, by rintro _ ⟨⟩⟩ ?_ ?_
    · simpa [Node.fields, Stmt.fields, FieldValue.documents] using hpattern
    · simpa [Node.children, Stmt.children, or_imp, forall_and] using ⟨hinit, hotherwise⟩
  case expr =>
    obtain ⟨e, he, span, -, rfl⟩ := hs
    have he := h.get he Reading.Keeps.expr
    refine Node.throughout_of_children ⟨rfl, by rintro _ ⟨⟩⟩ rfl ?_
    simpa [Node.children, Stmt.children] using he
  case item =>
    obtain ⟨i, hi, span, -, rfl⟩ := hs
    have hi := h.get hi Reading.Keeps.item
    refine Node.throughout_of_children ⟨rfl, by rintro _ ⟨⟩⟩ rfl ?_
    simpa [Node.children, Stmt.children] using hi

theorem throughout_of_readItemOf {k : ItemKind} {i : Item} (hi : readItemOf fields k = .ok i) :
    (Node.item i).Throughout (Node.Proper Q) := by
  cases k <;> simp only [readItemOf, bind_eq_ok_iff, pure_eq_ok, Except.ok.injEq] at hi
  case function =>
    obtain ⟨name, -, span, -, params, hparams, body, hbody, rfl⟩ := hi
    have hparams := h.sequence hparams Reading.Keeps.params
    have hbody := h.optional hbody Reading.Keeps.block
    refine Node.throughout_proper ⟨rfl, by rintro _ ⟨⟩⟩ ?_ ?_
    · simpa [Node.fields, Item.fields, FieldValue.documents] using
        fun d p hp hd => hparams p hp d hd
    · simpa [Node.children, Item.children] using hbody
  case trait =>
    obtain ⟨name, -, span, -, items, hitems, rfl⟩ := hi
    have hitems := h.sequence hitems Reading.Keeps.items
    refine Node.throughout_of_children ⟨rfl, by rintro _ ⟨⟩⟩ rfl ?_
    simpa [Node.children, Item.children] using hitems
  case implementation =>
    obtain ⟨ofTrait, htrait, span, -, items, hitems, rfl⟩ := hi
    have htrait := h.optional htrait Reading.Keeps.traitRef
    have hitems := h.sequence hitems Reading.Keeps.items
    refine Node.throughout_proper ⟨rfl, by rintro _ ⟨⟩⟩ ?_ ?_
    · simpa [Node.fields, Item.fields, FieldValue.documents] using htrait
    · simpa [Node.children, Item.children] using hitems
  case struct =>
    obtain ⟨name, -, span, -, rfl⟩ := hi
    exact Node.throughout_of_children ⟨rfl, by rintro _ ⟨⟩⟩ rfl (List.forall_mem_nil _)
  case submodule =>
    obtain ⟨name, -, span, -, items, hitems, rfl⟩ := hi
    have hitems := h.sequence hitems Reading.Keeps.items
    refine Node.throughout_of_children ⟨rfl, by rintro _ ⟨⟩⟩ rfl ?_
    simpa [Node.children, Item.children] using hitems
  case constant =>
    obtain ⟨name, -, span, -, type, -, value, hvalue, rfl⟩ := hi
    have hvalue := h.optional hvalue Reading.Keeps.expr
    refine Node.throughout_of_children ⟨rfl, by rintro _ ⟨⟩⟩ rfl ?_
    simpa [Node.children, Item.children] using hvalue
  case typeAlias =>
    obtain ⟨name, -, span, -, type, -, rfl⟩ := hi
    exact Node.throughout_of_children ⟨rfl, by rintro _ ⟨⟩⟩ rfl (List.forall_mem_nil _)

variable (hQ : Document.Hereditary Q)
include hQ

theorem of_readTraitRef {t : TraitRef} (ht : readTraitRef d fields = .ok t) : Q t.defId := by
  cases d with
  | obj fs =>
    simp only [readTraitRef, bind_eq_ok_iff, pure_eq_ok, Except.ok.injEq] at ht
    obtain ⟨path, -, span, -, rfl⟩ := ht
    exact h.value "def_id" hQ.null
  | _ => simp [readTraitRef] at ht

theorem of_readPattern {p : Pattern} (hp : readPattern d fields = .ok p) :
    ∀ d ∈ p.names, Q d := by
  cases d with
  | obj fs =>
    simp only [readPattern, bind_eq_ok_iff, pure_eq_ok, Except.ok.injEq] at hp
    obtain ⟨kind, -, span, -, subpatterns, hsub, rfl⟩ := hp
    rw [Pattern.names, namesInAll_eq_flatMap, List.forall_mem_cons, List.forall_mem_flatMap]
    exact ⟨h.value "name" hQ.null, h.sequence hsub Reading.Keeps.patterns⟩
  | _ => simp [readPattern] at hp

theorem throughout_of_readExprOf {k : ExprKind} {e : Expr} (he : readExprOf d fields k = .ok e) :
    (Node.expr e).Throughout (Node.Proper Q) := by
  cases k <;> simp only [readExprOf, bind_eq_ok_iff, pure_eq_ok, Except.ok.injEq] at he
  case literal =>
    obtain ⟨span, -, rfl⟩ := he
    have hvalue := h.value "value" hQ.null
    refine Node.throughout_proper ⟨rfl, by rintro _ ⟨⟩⟩ ?_ ?_
    · simpa [Node.fields, Expr.fields, FieldValue.documents] using hvalue
    · simp [Node.children, Expr.children]
  case path =>
    obtain ⟨segments, -, span, -, rfl⟩ := he
    have hdefId := h.value "def_id" hQ.null
    refine Node.throughout_proper ⟨rfl, by rintro _ ⟨⟩⟩ ?_ ?_
    · simpa [Node.fields, Expr.fields, FieldValue.documents] using hdefId
    · simp [Node.children, Expr.children]
  case unary =>
    obtain ⟨operand, hoperand, span, -, rfl⟩ := he
    have hop := h.valueOr "op" (hQ.str "!")
    have hoperand := h.get hoperand Reading.Keeps.expr
    refine Node.throughout_proper ⟨rfl, by rintro _ ⟨⟩⟩ ?_ ?_
    · simpa [Node.fields, Expr.fields, FieldValue.documents] using hop
    · simpa [Node.children, Expr.children] using hoperand
  case binary =>
    obtain ⟨lhs, hlhs, rhs, hrhs, span, -, rfl⟩ := he
    have hop := h.valueOr "op" (hQ.str "+")
    have hlhs := h.get hlhs Reading.Keeps.expr
    have hrhs := h.get hrhs Reading.Keeps.expr
    refine Node.throughout_proper ⟨rfl, by rintro _ ⟨⟩⟩ ?_ ?_
    · simpa [Node.fields, Expr.fields, FieldValue.documents] using hop
    · simpa [Node.children, Expr.children] using ⟨hlhs, hrhs⟩
  case addrOf =>
    obtain ⟨operand, hoperand, span, -, rfl⟩ := he
    have hoperand := h.get hoperand Reading.Keeps.expr
    refine Node.throughout_of_children ⟨rfl, by rintro _ ⟨⟩⟩ rfl ?_
    simpa [Node.children, Expr.children] using hoperand
  case field =>
    obtain ⟨target, htarget, name, -, span, -, rfl⟩ := he
    have htarget := h.get htarget Reading.Keeps.expr
    refine Node.throughout_of_children ⟨rfl, by rintro _ ⟨⟩⟩ rfl ?_
    simpa [Node.children, Expr.children] using htarget
  case call =>
    obtain ⟨callee, hcallee, args, hargs, span, -, rfl⟩ := he
    have hcallee := h.get hcallee Reading.Keeps.expr
    have hargs := h.sequence hargs Reading.Keeps.exprs
    refine Node.throughout_of_children ⟨rfl, by rintro _ ⟨⟩⟩ rfl ?_
    simpa [Node.children, Expr.children] using ⟨hcallee, hargs⟩
  case methodCall =>
    obtain ⟨receiver, hreceiver, method, -, args, hargs, span, -, rfl⟩ := he
    have hreceiver := h.get hreceiver Reading.Keeps.expr
    have hargs := h.sequence hargs Reading.Keeps.exprs
    refine Node.throughout_of_children ⟨rfl, by rintro _ ⟨⟩⟩ rfl ?_
    simpa [Node.children, Expr.children] using ⟨hreceiver, hargs⟩
  case index =>
    obtain ⟨target, htarget, operand, hoperand, span, -, rfl⟩ := he
    have htarget := h.get htarget Reading.Keeps.expr
    have hoperand := h.get hoperand Reading.Keeps.expr
    refine Node.throughout_of_children ⟨rfl, by rintro _ ⟨⟩⟩ rfl ?_
    simpa [Node.children, Expr.children] using ⟨htarget, hoperand⟩
  case range =>
    obtain ⟨span, -, start, hstart, stop, hstop, rfl⟩ := he
    have hstart := h.optional hstart Reading.Keeps.expr
    have hstop := h.optional hstop Reading.Keeps.expr
    refine Node.throughout_of_children ⟨rfl, by rintro _ ⟨⟩⟩ rfl ?_
    simpa [Node.children, Expr.children, or_imp, forall_and] using ⟨hstart, hstop⟩
  case closure =>
    obtain ⟨params, hparams, body, hbody, span, -, kind, -, rfl⟩ := he
    have hparams := h.sequence hparams Reading.Keeps.params
    have hbody := h.get hbody Reading.Keeps.expr
    refine Node.throughout_proper ⟨rfl, by rintro _ ⟨⟩⟩ ?_ ?_
    · simpa [Node.fields, Expr.fields, FieldValue.documents] using
        fun d p hp hd => hparams p hp d hd
    · simpa [Node.children, Expr.children] using hbody
  case block =>
    obtain ⟨b, hb, rfl⟩ := he
    exact throughout_of_readBlock h hb
  case conditional =>
    obtain ⟨condition, hcondition, consequence, hconsequence, span, -, alternative, halternative,
      rfl⟩ := he
    have hcondition := h.get hcondition Reading.Keeps.expr
    have hconsequence := h.get hconsequence Reading.Keeps.block
    have halternative := h.optional halternative Reading.Keeps.expr
    refine Node.throughout_of_children ⟨rfl, by rintro _ ⟨⟩⟩ rfl ?_
    simpa [Node.children, Expr.children] using ⟨hcondition, hconsequence, halternative⟩
  case array =>
    obtain ⟨elements, helements, span, -, rfl⟩ := he
    have helements := h.sequence helements Reading.Keeps.exprs
    refine Node.throughout_of_children ⟨rfl, by rintro _ ⟨⟩⟩ rfl ?_
    simpa [Node.children, Expr.children] using helements
  case ret =>
    obtain ⟨span, -, value, hvalue, rfl⟩ := he
    have hvalue := h.optional hvalue Reading.Keeps.expr
    refine Node.throughout_of_children ⟨rfl, by rintro _ ⟨⟩⟩ rfl ?_
    simpa [Node.children, Expr.children] using hvalue

end Layer

/-! ## Sequences and whole documents -/

theorem exists_of_mem_mapM {f : α → Except Fault β} {xs : List α} {ys : List β}
    (h : xs.mapM f = .ok ys) : ∀ y ∈ ys, ∃ x ∈ xs, f x = .ok y := by
  induction xs generalizing ys with
  | nil =>
    cases h
    simp
  | cons x xs ih =>
    simp only [List.mapM_cons, bind_eq_ok_iff, pure_eq_ok, Except.ok.injEq] at h
    obtain ⟨y, hy, ys, hys, rfl⟩ := h
    rw [List.forall_mem_cons]
    refine ⟨⟨x, List.mem_cons_self, hy⟩, fun z hz => ?_⟩
    obtain ⟨x', hx', hz⟩ := ih hys z hz
    exact ⟨x', List.mem_cons_of_mem x hx', hz⟩

/-- What is read from a sequence is read from its parts, since nothing is read from a text. -/
theorem exists_of_readSequence {role : Reading → Except Fault α}
    {ofText : Document → Fields → Except Fault α} {as : List α}
    (htext : ∀ s a, ofText (.str s) [] ≠ .ok a) (h : readSequence d parts role ofText = .ok as) :
    ∀ a ∈ as, ∃ part ∈ parts, role part.reading = .ok a := by
  intro a ha
  cases d with
  | arr ds => exact exists_of_mem_mapM h a ha
  | str s =>
    obtain ⟨c, -, hc⟩ := exists_of_mem_mapM h a ha
    exact absurd hc (htext _ a)
  | obj fs =>
    obtain ⟨f, -, hf⟩ := exists_of_mem_mapM h a ha
    exact absurd hf (htext _ a)
  | _ =>
    simp only [readSequence] at h
    split at h <;> cases h
    cases ha

/-- One layer of a document keeps a property if its elements and its fields do. -/
theorem Reading.keeps_ofParts (hQ : Document.Hereditary Q)
    (hparts : ∀ part ∈ parts, part.reading.Keeps Q) (h : fields.Keep Q) :
    (Reading.ofParts file d parts fields).Keeps Q where
  traitRef t := of_readTraitRef h hQ
  pattern p := of_readPattern h hQ
  patterns ps hps p hp := by
    obtain ⟨part, hpart, hp⟩ := exists_of_readSequence (by simp [readPattern]) hps p hp
    exact (hparts part hpart).pattern p hp
  param p := of_readParam h
  params ps hps p hp := by
    obtain ⟨part, hpart, hp⟩ := exists_of_readSequence (by simp [readParam]) hps p hp
    exact (hparts part hpart).param p hp
  block b := throughout_of_readBlock h
  expr e he := by
    obtain ⟨-, -, k, -, -, -, he⟩ := readNode_eq_ok_iff.mp he
    exact throughout_of_readExprOf h hQ he
  exprs es hes e he := by
    obtain ⟨part, hpart, he⟩ :=
      exists_of_readSequence (by simp [readExpr, readNode]) hes e he
    exact (hparts part hpart).expr e he
  stmt s hs := by
    obtain ⟨-, -, k, -, -, -, hs⟩ := readNode_eq_ok_iff.mp hs
    exact throughout_of_readStmtOf h hs
  stmts ss hss s hs := by
    obtain ⟨part, hpart, hs⟩ :=
      exists_of_readSequence (by simp [readStmt, readNode]) hss s hs
    exact (hparts part hpart).stmt s hs
  item i hi := by
    obtain ⟨-, -, k, -, -, -, hi⟩ := readNode_eq_ok_iff.mp hi
    exact throughout_of_readItemOf h hi
  items is his i hi := by
    obtain ⟨part, hpart, hi⟩ :=
      exists_of_readSequence (by simp [readItem, readNode]) his i hi
    exact (hparts part hpart).item i hi

mutual

/-- The reading of a document keeps the properties that its parts inherit. -/
theorem keeps_read (hQ : Document.Hereditary Q) (file : String) :
    ∀ d, Q d → (read file d).Keeps Q
  | .arr ds, h => by
    rw [read]
    exact Reading.keeps_ofParts hQ (keeps_readAll hQ file ds (hQ.element h)) (List.forall_mem_nil _)
  | .obj fs, h => by
    rw [read]
    exact Reading.keeps_ofParts hQ (List.forall_mem_nil _) (keep_readFields hQ file fs (hQ.field h))
  | .null, _ => by
    rw [read]
    exact Reading.keeps_ofParts hQ (List.forall_mem_nil _) (List.forall_mem_nil _)
  | .bool _, _ => by
    rw [read]
    exact Reading.keeps_ofParts hQ (List.forall_mem_nil _) (List.forall_mem_nil _)
  | .int _, _ => by
    rw [read]
    exact Reading.keeps_ofParts hQ (List.forall_mem_nil _) (List.forall_mem_nil _)
  | .real _, _ => by
    rw [read]
    exact Reading.keeps_ofParts hQ (List.forall_mem_nil _) (List.forall_mem_nil _)
  | .str _, _ => by
    rw [read]
    exact Reading.keeps_ofParts hQ (List.forall_mem_nil _) (List.forall_mem_nil _)

theorem keeps_readAll (hQ : Document.Hereditary Q) (file : String) :
    ∀ ds : List Document, (∀ d ∈ ds, Q d) → ∀ part ∈ readAll file ds, part.reading.Keeps Q
  | [], _ => List.forall_mem_nil _
  | d :: ds, h => by
    rw [List.forall_mem_cons] at h
    rw [readAll, List.forall_mem_cons]
    exact ⟨keeps_read hQ file d h.1, keeps_readAll hQ file ds h.2⟩

theorem keep_readFields (hQ : Document.Hereditary Q) (file : String) :
    ∀ fs : List (String × Document), (∀ f ∈ fs, Q f.2) → (readFields file fs).Keep Q
  | [], _ => List.forall_mem_nil _
  | (key, d) :: fs, h => by
    rw [List.forall_mem_cons] at h
    rw [readFields, Fields.Keep, List.forall_mem_cons]
    exact ⟨⟨h.1, keeps_read hQ file d h.1⟩, keep_readFields hQ file fs h.2⟩

end

end Dump

end TreeLint
