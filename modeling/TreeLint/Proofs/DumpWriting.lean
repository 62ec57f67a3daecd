import TreeLint.Dump.Writer
import TreeLint.Proofs.DumpFields
import TreeLint.Proofs.WellFormed

/-!
# Reading what was written

The nodes of a unit that is written as a dump are read back as they were, field by field. A block is
written with one span, so it is read back only if it has one.

## Main definitions

* `LawfulVocabulary`: a vocabulary in which every member is found by its word
* `ReadsBack`: a written node is read as that node

## Main results

* `span_writeSpan`: a written span is read back with its chain of call sites
* `readsBack_expr`, `readsBack_stmt`, `readsBack_item`: a node is read back if its children are
* `readsBack_of_throughout`: a node is read back if all nodes of its subtree are expressible
-/

namespace TreeLint.Dump

variable {α : Type} {file key : String} {fs : List (String × Document)}

/-! ## Parts that may be absent, and sequences -/

theorem lookup_optionalField (other : String) (d : Option Document) :
    (optionalField other d).lookup key = if key = other then d else none := by
  cases d with
  | none => simp [optionalField]
  | some d =>
    by_cases h : key = other
    · simp [optionalField, h]
    · simp [optionalField, List.lookup_cons, beq_false_of_ne h, h]

/-- A part that may be absent is read back if it is read back when it is there. No written part is
null. -/
theorem mapM_filter_map {write : α → Document} {parse : Document → Except Fault α} {x : Option α}
    (hnull : ∀ a, (write a).isNull = false) (h : ∀ a, x = some a → parse (write a) = .ok a) :
    ((x.map write).filter (!·.isNull)).mapM parse = .ok x := by
  cases x with
  | none => rfl
  | some a =>
    have hfilter : ((some a).map write).filter (!·.isNull) = some (write a) := by
      simp [Option.filter, hnull]
    rw [hfilter]
    show (some <$> parse (write a) : Except Fault (Option α)) = .ok (some a)
    rw [h a rfl]
    rfl

/-- A sequence reads back if its elements do. -/
theorem mapM_map_of_forall {write : α → Document} {parse : Document → Except Fault α}
    {xs : List α} (h : ∀ x ∈ xs, parse (write x) = .ok x) : (xs.map write).mapM parse = .ok xs := by
  induction xs with
  | nil => rfl
  | cons x xs ih =>
    rw [List.forall_mem_cons] at h
    rw [List.map_cons, List.mapM_cons, h.1, ih h.2]
    rfl

/-! ## Words -/

/-- A vocabulary in which every member is found by its word. -/
class LawfulVocabulary (κ : Type) [Vocabulary κ] : Prop where
  find?_spelling : ∀ k : κ, Vocabulary.find? (Vocabulary.spelling k) = some k

instance : LawfulVocabulary Desugaring := ⟨fun k => by cases k <;> rfl⟩

instance : LawfulVocabulary BlockMode := ⟨fun k => by cases k <;> rfl⟩

instance : LawfulVocabulary ClosureKind := ⟨fun k => by cases k <;> rfl⟩

instance : LawfulVocabulary PatternKind := ⟨fun k => by cases k <;> rfl⟩

instance : LawfulVocabulary ExprKind := ⟨fun k => by cases k <;> rfl⟩

instance : LawfulVocabulary StmtKind := ⟨fun k => by cases k <;> rfl⟩

instance : LawfulVocabulary ItemKind := ⟨fun k => by cases k <;> rfl⟩

section Words

variable {κ : Type} [Vocabulary κ] [LawfulVocabulary κ]

theorem readMember_spelling (k : κ) : readMember (.str (Vocabulary.spelling k)) = .ok k := by
  simp only [readMember, LawfulVocabulary.find?_spelling]

/-- A node that names its kind is read as one of that kind. -/
theorem readNode_of_kind {sort : NodeSort} {build : κ → Except Fault α} {k : κ} {a : α}
    (hkind : fs.lookup "kind" = some (.str (Vocabulary.spelling k))) :
    readNode sort (.obj fs) (readFields file fs) build = .ok a ↔ build k = .ok a := by
  simp [readNode_eq_ok_iff, hkind, LawfulVocabulary.find?_spelling]

end Words

/-! ## Spans, types, traits, patterns and parameters -/

/-- A written span is read back if its origin is. -/
theorem span_of_origin {origin : Document} {o : Origin Span}
    (h : (read file origin).origin = .ok o) (r : Region) :
    (read file (.obj (regionFields r ++ [("origin", origin)]))).span = .ok (.ofOrigin r o) := by
  simp [read, Reading.ofParts, readSpan, readSpanFields, regionFields, lookup_readFields,
    List.lookup_cons, readInt, h]

/-- A span reads back, with the call sites in its origin. -/
theorem span_writeSpan (file : String) : ∀ s, (read file (writeSpan s)).span = .ok s
  | .written r => by
    rw [writeSpan, read]
    rfl
  | .expanded r name site => by
    have hsite := span_writeSpan file site
    refine span_of_origin (o := .expansion site name) ?_ r
    simp [read, Reading.ofParts, readOrigin, List.lookup_cons, hsite]
  | .lowered r kind => by
    have hkind : readMember (.str kind.name) = .ok kind := readMember_spelling kind
    refine span_of_origin (o := .desugared kind none) ?_ r
    simp [read, Reading.ofParts, readOrigin, List.lookup_cons, hkind]
  | .loweredAt r kind site => by
    have hsite := span_writeSpan file site
    have hnull : (writeSpan site).isNull = false := by cases site <;> rfl
    have hkind : readMember (.str kind.name) = .ok kind := readMember_spelling kind
    refine span_of_origin (o := .desugared kind (some site)) ?_ r
    simp [read, Reading.ofParts, readOrigin, List.lookup_cons, Option.filter, hnull, hkind, hsite]

theorem typeRef_writeTypeRef (file : String) (t : TypeRef) :
    (read file (writeTypeRef t)).typeRef = .ok t := by
  simp [writeTypeRef, read, Reading.ofParts, readTypeRef, List.lookup_cons, span_writeSpan]

theorem traitRef_writeTraitRef (file : String) (t : TraitRef) :
    (read file (writeTraitRef t)).traitRef = .ok t := by
  simp [writeTraitRef, read, Reading.ofParts, readTraitRef, List.lookup_cons, span_writeSpan]

mutual

/-- A pattern reads back, with its subpatterns. -/
theorem pattern_writePattern (file : String) :
    ∀ p, (read file (writePattern p)).pattern = .ok p
  | .mk kind span name subpatterns => by
    have hsub := patterns_writePatterns file subpatterns
    have hkind : readMember (.str kind.name) = .ok kind := readMember_spelling kind
    -- A word that did not count as given would be replaced by the default for the name.
    have hholds : (Document.str kind.name).holds = true := by cases kind <;> rfl
    rw [writePattern, read]
    simp [Reading.ofParts, readPattern, List.lookup_cons, hholds, hkind, span_writeSpan, hsub]

theorem patterns_writePatterns (file : String) :
    ∀ ps, (writePatterns ps).mapM (fun d => (read file d).pattern) = .ok ps
  | [] => rfl
  | p :: ps => by
    rw [writePatterns, List.mapM_cons, pattern_writePattern file p, patterns_writePatterns file ps]
    rfl

end

/-- A parameter reads back. The span of its type is written next to it, so no type is needed. -/
theorem param_writeParam (file : String) (p : Param) :
    (read file (writeParam p)).param = .ok p := by
  have hpattern := pattern_writePattern file p.pattern
  rcases p with ⟨pattern, _ | span⟩
  · simp [writeParam, optionalField, read, Reading.ofParts, readParam, readTypeSpan,
      List.lookup_cons, hpattern]
  · have hnull : (writeSpan span).isNull = false := by cases span <;> rfl
    simp [writeParam, optionalField, read, Reading.ofParts, readParam, readTypeSpan,
      List.lookup_cons, Option.filter, hnull, hpattern, span_writeSpan]

/-! ## Nodes -/

/-- A written node is read as that node. -/
def ReadsBack (file : String) : Node → Prop
  | .expr e => (read file (writeExpr e)).expr = .ok e
  | .stmt s => (read file (writeStmt s)).stmt = .ok s
  | .item i => (read file (writeItem i)).item = .ok i

/-- An object is read as an expression of the kind that it names. -/
theorem expr_obj {k : ExprKind} {e : Expr} (hkind : fs.lookup "kind" = some (.str k.name)) :
    (read file (.obj fs)).expr = .ok e ↔ readExprOf (.obj fs) (readFields file fs) k = .ok e := by
  rw [read]
  exact readNode_of_kind hkind

theorem stmt_obj {k : StmtKind} {s : Stmt} (hkind : fs.lookup "kind" = some (.str k.name)) :
    (read file (.obj fs)).stmt = .ok s ↔ readStmtOf (readFields file fs) k = .ok s := by
  rw [read]
  exact readNode_of_kind hkind

theorem item_obj {k : ItemKind} {i : Item} (hkind : fs.lookup "kind" = some (.str k.name)) :
    (read file (.obj fs)).item = .ok i ↔ readItemOf (readFields file fs) k = .ok i := by
  rw [read]
  exact readNode_of_kind hkind

/-- A block that is read back as an expression is read back as a block. -/
theorem block_of_readsBack {b : Block} (h : ReadsBack file (.expr (.block b))) :
    (read file (writeBlock b)).block = .ok b := by
  obtain ⟨stmts, braces, tail, mode, span⟩ := b
  rw [ReadsBack, writeExpr, writeBlock, expr_obj (k := .block) rfl] at h
  obtain ⟨b, hread, hb⟩ := bind_eq_ok_iff.mp h
  cases hb
  rw [writeBlock, read]
  exact hread

theorem isNull_writeBlock (b : Block) : (writeBlock b).isNull = false := by
  cases b
  rfl

theorem isNull_writeExpr (e : Expr) : (writeExpr e).isNull = false := by
  cases e with
  | block b => exact isNull_writeBlock b
  | _ => rfl

theorem mapM_writeExprs (es : List Expr) (h : ∀ e ∈ es, ReadsBack file (.expr e)) :
    (writeExprs es).mapM (fun d => (read file d).expr) = .ok es := by
  rw [writeExprs_eq_map]
  exact mapM_map_of_forall h

theorem mapM_writeStmts (ss : List Stmt) (h : ∀ s ∈ ss, ReadsBack file (.stmt s)) :
    (writeStmts ss).mapM (fun d => (read file d).stmt) = .ok ss := by
  rw [writeStmts_eq_map]
  exact mapM_map_of_forall h

theorem mapM_writeItems (is : List Item) (h : ∀ i ∈ is, ReadsBack file (.item i)) :
    (writeItems is).mapM (fun d => (read file d).item) = .ok is := by
  rw [writeItems_eq_map]
  exact mapM_map_of_forall h

theorem mapM_writeParams (file : String) (ps : List Param) :
    (ps.map writeParam).mapM (fun d => (read file d).param) = .ok ps :=
  mapM_map_of_forall fun p _ => param_writeParam file p

theorem mapM_writeTypeRef? (file : String) (t : Option TypeRef) :
    ((t.map writeTypeRef).filter (!·.isNull)).mapM (fun d => (read file d).typeRef) = .ok t :=
  mapM_filter_map (fun _ => rfl) fun t _ => typeRef_writeTypeRef file t

theorem mapM_writeTraitRef? (file : String) (t : Option TraitRef) :
    ((t.map writeTraitRef).filter (!·.isNull)).mapM (fun d => (read file d).traitRef) = .ok t :=
  mapM_filter_map (fun _ => rfl) fun t _ => traitRef_writeTraitRef file t

theorem mapM_writeExpr? (e : Option Expr) (h : ∀ a, e = some a → ReadsBack file (.expr a)) :
    ((writeExpr? e).filter (!·.isNull)).mapM (fun d => (read file d).expr) = .ok e := by
  rw [writeExpr?_eq_map]
  exact mapM_filter_map isNull_writeExpr h

theorem mapM_writeBlock? (b : Option Block)
    (h : ∀ a, b = some a → ReadsBack file (.expr (.block a))) :
    ((writeBlock? b).filter (!·.isNull)).mapM (fun d => (read file d).block) = .ok b := by
  rw [writeBlock?_eq_map]
  exact mapM_filter_map isNull_writeBlock fun a ha => block_of_readsBack (h a ha)

/-- An expression is read back if its children are, and if it is not foreign and has one span as a
block. -/
theorem readsBack_expr {e : Expr} (hnode : (Node.expr e).Expressible)
    (h : ∀ m ∈ e.children, ReadsBack file m) : ReadsBack file (.expr e) := by
  have hs := span_writeSpan file
  have hexpr : ∀ a, .expr a ∈ e.children → (read file (writeExpr a)).expr = .ok a := fun _ => h _
  cases e with
  | literal value span =>
    refine (expr_obj (k := .literal) rfl).mpr ?_
    simp [readExprOf, nodeFields, List.lookup_cons, hs]
  | path segments span defId =>
    refine (expr_obj (k := .path) rfl).mpr ?_
    simp [readExprOf, readSegments, nodeFields, List.lookup_cons, Option.filter, readTexts,
      Document.isNull, Function.comp_def, hs]
  | unary op operand span =>
    have hoperand := hexpr operand (by simp [Expr.children])
    refine (expr_obj (k := .unary) rfl).mpr ?_
    simp [readExprOf, nodeFields, List.lookup_cons, hs, hoperand]
  | binary op lhs rhs span =>
    have hlhs := hexpr lhs (by simp [Expr.children])
    have hrhs := hexpr rhs (by simp [Expr.children])
    refine (expr_obj (k := .binary) rfl).mpr ?_
    simp [readExprOf, nodeFields, List.lookup_cons, hs, hlhs, hrhs]
  | addrOf operand span mutable =>
    have hoperand := hexpr operand (by simp [Expr.children])
    refine (expr_obj (k := .addrOf) rfl).mpr ?_
    simp [readExprOf, nodeFields, List.lookup_cons, hs, hoperand]
  | field target name span =>
    have htarget := hexpr target (by simp [Expr.children])
    refine (expr_obj (k := .field) rfl).mpr ?_
    simp [readExprOf, nodeFields, List.lookup_cons, hs, htarget]
  | call callee args span =>
    have hcallee := hexpr callee (by simp [Expr.children])
    have hargs := mapM_writeExprs args fun e he => h _ (by simp [Expr.children, he])
    refine (expr_obj (k := .call) rfl).mpr ?_
    simp [readExprOf, nodeFields, List.lookup_cons, hs, hcallee, hargs]
  | methodCall receiver method args span =>
    have hreceiver := hexpr receiver (by simp [Expr.children])
    have hargs := mapM_writeExprs args fun e he => h _ (by simp [Expr.children, he])
    refine (expr_obj (k := .methodCall) rfl).mpr ?_
    simp [readExprOf, nodeFields, List.lookup_cons, hs, hreceiver, hargs]
  | index target operand span =>
    have htarget := hexpr target (by simp [Expr.children])
    have hoperand := hexpr operand (by simp [Expr.children])
    refine (expr_obj (k := .index) rfl).mpr ?_
    simp [readExprOf, nodeFields, List.lookup_cons, hs, htarget, hoperand]
  | range span start stop inclusive =>
    have hstart := mapM_writeExpr? start fun e he => h _ (by simp [Expr.children, he])
    have hstop := mapM_writeExpr? stop fun e he => h _ (by simp [Expr.children, he])
    refine (expr_obj (k := .range) rfl).mpr ?_
    simp [readExprOf, nodeFields, List.lookup_cons, List.lookup_append, lookup_optionalField, hs,
      hstart, hstop]
  | closure params body span kind =>
    have hparams := mapM_writeParams file params
    have hbody := hexpr body (by simp [Expr.children])
    have hkind : readMember (.str kind.name) = .ok kind := readMember_spelling kind
    refine (expr_obj (k := .closure) rfl).mpr ?_
    simp [readExprOf, nodeFields, List.lookup_cons, hs, hparams, hbody, hkind]
  | block b =>
    obtain ⟨stmts, braces, tail, mode, span⟩ := b
    obtain rfl : braces = span := hnode.oneSpan _ rfl
    have hstmts := mapM_writeStmts stmts fun s hs => h _ (by simp [Expr.children, hs])
    have htail := mapM_writeExpr? tail fun e he => h _ (by simp [Expr.children, he])
    have hmode : readMember (.str mode.name) = .ok mode := readMember_spelling mode
    refine (expr_obj (k := .block) rfl).mpr ?_
    simp [readExprOf, readBlock, nodeFields, List.lookup_cons, lookup_optionalField, hs, hstmts,
      htail, hmode]
  | conditional condition consequence span alternative =>
    have hcondition := hexpr condition (by simp [Expr.children])
    have hconsequence := block_of_readsBack (h (.expr (.block consequence))
      (by simp [Expr.children]))
    have halternative := mapM_writeExpr? alternative fun e he => h _ (by simp [Expr.children, he])
    refine (expr_obj (k := .conditional) rfl).mpr ?_
    simp [readExprOf, nodeFields, List.lookup_cons, lookup_optionalField, hs, hcondition,
      hconsequence, halternative]
  | array elements span =>
    have helements := mapM_writeExprs elements fun e he => h _ (by simp [Expr.children, he])
    refine (expr_obj (k := .array) rfl).mpr ?_
    simp [readExprOf, nodeFields, List.lookup_cons, hs, helements]
  | ret span value =>
    have hvalue := mapM_writeExpr? value fun e he => h _ (by simp [Expr.children, he])
    refine (expr_obj (k := .ret) rfl).mpr ?_
    simp [readExprOf, nodeFields, List.lookup_cons, lookup_optionalField, hs, hvalue]
  | foreign kindName span => cases hnode.known

/-- A statement is read back if its children are, and if it is not foreign. -/
theorem readsBack_stmt {s : Stmt} (hnode : (Node.stmt s).Expressible)
    (h : ∀ m ∈ s.children, ReadsBack file m) : ReadsBack file (.stmt s) := by
  have hs := span_writeSpan file
  cases s with
  | binding pattern span type init otherwise =>
    have hpattern := pattern_writePattern file pattern
    have htype := mapM_writeTypeRef? file type
    have hinit := mapM_writeExpr? init fun e he => h _ (by simp [Stmt.children, he])
    have hotherwise := mapM_writeBlock? otherwise fun b hb => h _ (by simp [Stmt.children, hb])
    refine (stmt_obj (k := .binding) rfl).mpr ?_
    simp [readStmtOf, nodeFields, List.lookup_cons, List.lookup_append, lookup_optionalField, hs,
      hpattern, htype, hinit, hotherwise]
  | expr e span semicolon =>
    have he : (read file (writeExpr e)).expr = .ok e := h (.expr e) (by simp [Stmt.children])
    refine (stmt_obj (k := .expr) rfl).mpr ?_
    simp [readStmtOf, nodeFields, List.lookup_cons, hs, he]
  | item i span =>
    have hi : (read file (writeItem i)).item = .ok i := h (.item i) (by simp [Stmt.children])
    refine (stmt_obj (k := .item) rfl).mpr ?_
    simp [readStmtOf, nodeFields, List.lookup_cons, hs, hi]
  | foreign kindName span => cases hnode.known

/-- The marker that states a safety is read as that safety. -/
theorem marked_safety (safety : Safety) :
    (if safety = .unchecked then .unchecked else .safe) = safety := by
  cases safety <;> rfl

/-- An item is read back if its children are, and if it is not foreign. -/
theorem readsBack_item {i : Item} (hnode : (Node.item i).Expressible)
    (h : ∀ m ∈ i.children, ReadsBack file m) : ReadsBack file (.item i) := by
  have hs := span_writeSpan file
  cases i with
  | function name span safety params body =>
    have hparams := mapM_writeParams file params
    have hbody := mapM_writeBlock? body fun b hb => h _ (by simp [Item.children, hb])
    refine (item_obj (k := .function) rfl).mpr ?_
    simp [readItemOf, nodeFields, writeSafety, List.lookup_cons, lookup_optionalField, hs,
      marked_safety, hparams, hbody]
  | trait name span safety items =>
    have hitems := mapM_writeItems items fun i hi => h _ (by simp [Item.children, hi])
    refine (item_obj (k := .trait) rfl).mpr ?_
    simp [readItemOf, nodeFields, writeSafety, List.lookup_cons, hs, marked_safety, hitems]
  | implementation selfType span ofTrait safety items =>
    have htrait := mapM_writeTraitRef? file ofTrait
    have hitems := mapM_writeItems items fun i hi => h _ (by simp [Item.children, hi])
    refine (item_obj (k := .implementation) rfl).mpr ?_
    simp [readItemOf, nodeFields, writeSafety, List.lookup_cons, lookup_optionalField, hs,
      marked_safety, htrait, hitems]
  | struct name span =>
    refine (item_obj (k := .struct) rfl).mpr ?_
    simp [readItemOf, nodeFields, List.lookup_cons, hs]
  | submodule name span items =>
    have hitems := mapM_writeItems items fun i hi => h _ (by simp [Item.children, hi])
    refine (item_obj (k := .submodule) rfl).mpr ?_
    simp [readItemOf, nodeFields, List.lookup_cons, hs, hitems]
  | constant name span type value =>
    have htype := mapM_writeTypeRef? file type
    have hvalue := mapM_writeExpr? value fun e he => h _ (by simp [Item.children, he])
    refine (item_obj (k := .constant) rfl).mpr ?_
    simp [readItemOf, nodeFields, List.lookup_cons, List.lookup_append, lookup_optionalField, hs,
      htype, hvalue]
  | typeAlias name span type =>
    have htype := mapM_writeTypeRef? file type
    refine (item_obj (k := .typeAlias) rfl).mpr ?_
    simp [readItemOf, nodeFields, List.lookup_cons, lookup_optionalField, hs, htype]
  | foreign kindName span => cases hnode.known

/-- A node is read back if no node in its subtree is foreign and every block has one span. -/
theorem readsBack_of_throughout {n : Node} (h : n.Throughout Node.Expressible) :
    ReadsBack file n := by
  refine Node.Throughout.induct (fun n hnode hchildren => ?_) h
  cases n with
  | expr e => exact readsBack_expr hnode hchildren
  | stmt s => exact readsBack_stmt hnode hchildren
  | item i => exact readsBack_item hnode hchildren

end TreeLint.Dump
