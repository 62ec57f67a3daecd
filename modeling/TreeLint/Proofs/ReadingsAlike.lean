import Mathlib.Data.List.Forall2
import TreeLint.Proofs.DumpFields
import TreeLint.Proofs.Fields

/-!
# Documents that are read twice

Two readings of one document, say in two files, are compared by a relation between the spans that
they give. Nodes, and the parts of nodes, are alike if they are equal up to that relation, and
results are related if they are one fault or values that are alike. One layer of a document is read
alike if its parts are, whatever the relation, provided that it is so as a span.

## Main definitions

* `Pattern.Alike`, `FieldValue.Alike`, `Node.Alike`: equal up to a relation between spans
* `Dump.Related`: two results are one fault or related values
* `Dump.Reading.Alike`: two readings of a document are related in every position

## Main results

* `Dump.related_readExprOf` and its kin: nodes of a kind are alike if their fields are
* `Dump.Reading.alike_ofParts`: one layer of a document is read alike if its parts are
-/

namespace TreeLint

/-! ## Nodes that are alike up to their spans -/

section Alike

variable (R : Span → Span → Prop)

/-- Patterns that are equal up to a relation between spans. -/
inductive Pattern.Alike : Pattern → Pattern → Prop
  | mk {kind : PatternKind} {span span' : Span} {name name' : Document} {ps ps' : List Pattern}
      (hspan : R span span') (hname : name = name')
      (hsubpatterns : List.Forall₂ Pattern.Alike ps ps') :
      Pattern.Alike (.mk kind span name ps) (.mk kind span' name' ps')

/-- Parameters that are equal up to a relation between spans. -/
structure Param.Alike (p p' : Param) : Prop where
  pattern : p.pattern.Alike R p'.pattern
  typeSpan : Option.Rel R p.typeSpan p'.typeSpan

/-- Types that are equal up to a relation between spans. -/
structure TypeRef.Alike (t t' : TypeRef) : Prop where
  text : t.text = t'.text
  span : R t.span t'.span

/-- References to traits that are equal up to a relation between spans. -/
structure TraitRef.Alike (t t' : TraitRef) : Prop where
  path : t.path = t'.path
  span : R t.span t'.span
  defId : t.defId = t'.defId

/-- Values of one field that are equal up to a relation between spans and one between nodes. -/
inductive FieldValue.Alike (N : Node → Node → Prop) : FieldValue → FieldValue → Prop
  | document {d d' : Document} (h : d = d') : Alike N (.document d) (.document d')
  | text {s s' : String} (h : s = s') : Alike N (.text s) (.text s')
  | texts {ss ss' : List String} (h : ss = ss') : Alike N (.texts ss) (.texts ss')
  | flag {b b' : Bool} (h : b = b') : Alike N (.flag b) (.flag b')
  | closureKind {k k' : ClosureKind} (h : k = k') : Alike N (.closureKind k) (.closureKind k')
  | blockMode {m m' : BlockMode} (h : m = m') : Alike N (.blockMode m) (.blockMode m')
  | safety {s s' : Safety} (h : s = s') : Alike N (.safety s) (.safety s')
  | span {s s' : Span} (h : R s s') : Alike N (.span s) (.span s')
  | pattern {p p' : Pattern} (h : p.Alike R p') : Alike N (.pattern p) (.pattern p')
  | params {ps ps' : List Param} (h : List.Forall₂ (Param.Alike R) ps ps') :
      Alike N (.params ps) (.params ps')
  | type? {t t' : Option TypeRef} (h : Option.Rel (TypeRef.Alike R) t t') :
      Alike N (.type? t) (.type? t')
  | trait? {t t' : Option TraitRef} (h : Option.Rel (TraitRef.Alike R) t t') :
      Alike N (.trait? t) (.trait? t')
  | expr {e e' : Expr} (h : N (.expr e) (.expr e')) : Alike N (.expr e) (.expr e')
  | expr? {e e' : Option Expr} (h : Option.Rel (fun e e' => N (.expr e) (.expr e')) e e') :
      Alike N (.expr? e) (.expr? e')
  | exprs {es es' : List Expr} (h : List.Forall₂ (fun e e' => N (.expr e) (.expr e')) es es') :
      Alike N (.exprs es) (.exprs es')
  | block {b b' : Block} (h : N (.expr (.block b)) (.expr (.block b'))) :
      Alike N (.block b) (.block b')
  | block? {b b' : Option Block}
      (h : Option.Rel (fun b b' => N (.expr (.block b)) (.expr (.block b'))) b b') :
      Alike N (.block? b) (.block? b')
  | stmts {ss ss' : List Stmt} (h : List.Forall₂ (fun s s' => N (.stmt s) (.stmt s')) ss ss') :
      Alike N (.stmts ss) (.stmts ss')
  | item {i i' : Item} (h : N (.item i) (.item i')) : Alike N (.item i) (.item i')
  | items {is is' : List Item} (h : List.Forall₂ (fun i i' => N (.item i) (.item i')) is is') :
      Alike N (.items is) (.items is')

/-- Nodes that are equal up to a relation between spans: they are of one kind, and all of their
fields are alike. -/
inductive Node.Alike : Node → Node → Prop
  | mk {n n' : Node} (hkind : n.kindName = n'.kindName)
      (hfields : List.Forall₂ (FieldValue.Alike R Node.Alike) n.fields n'.fields) :
      Node.Alike n n'

/-- Origins that are equal up to a relation between call sites. -/
inductive Origin.Alike : Origin Span → Origin Span → Prop
  | direct : Alike .direct .direct
  | expansion {site site' : Span} {name name' : String} (hsite : R site site')
      (hname : name = name') : Alike (.expansion site name) (.expansion site' name')
  | desugared {kind : Desugaring} {site site' : Option Span} (hsite : Option.Rel R site site') :
      Alike (.desugared kind site) (.desugared kind site')

end Alike

namespace Dump

/-! ## Results of two readings -/

/-- Two results are the same fault, or values that are related. -/
def Related {α β : Type} (R : α → β → Prop) : Except Fault α → Except Fault β → Prop
  | .ok a, .ok b => R a b
  | .error fault, .error fault' => fault = fault'
  | _, _ => False

namespace Related

variable {α β γ δ : Type} {R : α → β → Prop} {S : γ → δ → Prop}

theorem of_eq {x y : Except Fault α} (h : x = y) : Related Eq x y := by
  subst h
  cases x <;> rfl

theorem bind {x : Except Fault α} {y : Except Fault β} {f : α → Except Fault γ}
    {g : β → Except Fault δ} (h : Related R x y) (hfg : ∀ a b, R a b → Related S (f a) (g b)) :
    Related S (x >>= f) (y >>= g) := by
  cases x <;> cases y
  · exact h
  · exact h.elim
  · exact h.elim
  · exact hfg _ _ h

/-- A relation between values may use that they are the results. -/
theorem imp {R' : α → β → Prop} {x : Except Fault α} {y : Except Fault β} (h : Related R x y)
    (himp : ∀ a b, x = .ok a → y = .ok b → R a b → R' a b) : Related R' x y := by
  cases x <;> cases y
  · exact h
  · exact h.elim
  · exact h.elim
  · exact himp _ _ rfl rfl h

theorem cases {x : Except Fault α} {y : Except Fault β} (h : Related R x y) :
    (∃ fault, x = .error fault ∧ y = .error fault) ∨ ∃ a b, x = .ok a ∧ y = .ok b ∧ R a b := by
  cases x <;> cases y
  · exact .inl ⟨_, rfl, congrArg _ (Eq.symm h)⟩
  · exact h.elim
  · exact h.elim
  · exact .inr ⟨_, _, rfl, rfl, h⟩

theorem mapError {x : Except Fault α} {y : Except Fault β} (h : Related R x y)
    (f : Fault → Fault) : Related R (x.mapError f) (y.mapError f) := by
  cases x <;> cases y
  · exact congrArg f h
  · exact h.elim
  · exact h.elim
  · exact h

theorem mapM {as : List α} {bs : List β} {f : α → Except Fault γ} {g : β → Except Fault δ}
    (h : List.Forall₂ R as bs) (hfg : ∀ a b, R a b → Related S (f a) (g b)) :
    Related (List.Forall₂ S) (as.mapM f) (bs.mapM g) := by
  induction h with
  | nil => exact .nil
  | cons hab _ ih =>
    rw [List.mapM_cons, List.mapM_cons]
    exact (hfg _ _ hab).bind fun _ _ hc => ih.bind fun _ _ hcs => .cons hc hcs

end Related

/-! ## One layer that is read twice -/

/-- Two readings of a document are related in every position. -/
structure Reading.Alike (R : Span → Span → Prop) (r r' : Reading) : Prop where
  span : Related R r.span r'.span
  origin : Related (Origin.Alike R) r.origin r'.origin
  writtenSpan : Related (Option.Rel (Related R)) r.writtenSpan r'.writtenSpan
  typeRef : Related (TypeRef.Alike R) r.typeRef r'.typeRef
  traitRef : Related (TraitRef.Alike R) r.traitRef r'.traitRef
  pattern : Related (Pattern.Alike R) r.pattern r'.pattern
  patterns : Related (List.Forall₂ (Pattern.Alike R)) r.patterns r'.patterns
  param : Related (Param.Alike R) r.param r'.param
  params : Related (List.Forall₂ (Param.Alike R)) r.params r'.params
  block : Related (fun b b' => Node.Alike R (.expr (.block b)) (.expr (.block b')))
    r.block r'.block
  expr : Related (fun e e' => Node.Alike R (.expr e) (.expr e')) r.expr r'.expr
  exprs : Related (List.Forall₂ fun e e' => Node.Alike R (.expr e) (.expr e')) r.exprs r'.exprs
  stmt : Related (fun s s' => Node.Alike R (.stmt s) (.stmt s')) r.stmt r'.stmt
  stmts : Related (List.Forall₂ fun s s' => Node.Alike R (.stmt s) (.stmt s')) r.stmts r'.stmts
  item : Related (fun i i' => Node.Alike R (.item i) (.item i')) r.item r'.item
  items : Related (List.Forall₂ fun i i' => Node.Alike R (.item i) (.item i')) r.items r'.items

/-- Two readings of one document. -/
structure Part.Alike (R : Span → Span → Prop) (p p' : Part) : Prop where
  document : p.document = p'.document
  reading : p.reading.Alike R p'.reading

/-- Two readings of the fields of one object. -/
def Fields.Alike (R : Span → Span → Prop) (fields fields' : Fields) : Prop :=
  List.Forall₂ (fun f f' => f.1 = f'.1 ∧ f.2.Alike R f'.2) fields fields'

variable {R : Span → Span → Prop} {α β : Type} {fields fields' : Fields}

namespace Fields.Alike

variable {S : α → β → Prop} {role : Reading → Except Fault α} {role' : Reading → Except Fault β}
  (h : Fields.Alike R fields fields')
include h

/-- Fields that are alike have the same keys. -/
theorem lookup (key : String) :
    Option.Rel (Part.Alike R) (fields.lookup key) (fields'.lookup key) := by
  induction h with
  | nil => exact .none
  | @cons f f' fs fs' hf _ ih =>
    rw [List.lookup_cons, List.lookup_cons, hf.1]
    cases key == f'.1 with
    | true => exact .some hf.2
    | false => exact ih

/-- A value that is kept as it is does not depend on the readings. -/
theorem valueOr (key : String) (default : Document) :
    fields.valueOr key default = fields'.valueOr key default := by
  have hlookup := h.lookup key
  unfold Fields.valueOr
  generalize fields.lookup key = part, fields'.lookup key = part' at hlookup ⊢
  cases hlookup with
  | some hpart => exact hpart.document
  | none => rfl

theorem value (key : String) : fields.value key = fields'.value key :=
  h.valueOr key .null

theorem safety : fields.safety = fields'.safety := by
  rw [Fields.safety, Fields.safety, h.value]

theorem require (key : String) :
    Related (Part.Alike R) (fields.require key) (fields'.require key) := by
  have hlookup := h.lookup key
  unfold Fields.require
  generalize fields.lookup key = part, fields'.lookup key = part' at hlookup ⊢
  cases hlookup with
  | some hpart => exact hpart
  | none => rfl

theorem text (key : String) : Related Eq (fields.text key) (fields'.text key) :=
  (h.require key).bind fun _ _ hpart => congrArg Document.text hpart.document

theorem get (key : String) (hrole : ∀ r r', r.Alike R r' → Related S (role r) (role' r')) :
    Related S (fields.get key role) (fields'.get key role') :=
  (h.require key).bind fun _ _ hpart => hrole _ _ hpart.reading

/-- Whether a field is given does not depend on the readings. -/
theorem given? (key : String) :
    Option.Rel (Part.Alike R) (fields.given? key) (fields'.given? key) := by
  have hlookup := h.lookup key
  unfold Fields.given?
  generalize fields.lookup key = part, fields'.lookup key = part' at hlookup ⊢
  cases hlookup with
  | none => exact .none
  | @some part part' hpart =>
    rw [Option.filter_some, Option.filter_some, hpart.document]
    cases part'.document.isNull with
    | true => exact .none
    | false => exact .some hpart

theorem optional (key : String) (hrole : ∀ r r', r.Alike R r' → Related S (role r) (role' r')) :
    Related (Option.Rel S) (fields.optional key role) (fields'.optional key role') := by
  have hgiven := h.given? key
  unfold Fields.optional
  generalize fields.given? key = part, fields'.given? key = part' at hgiven ⊢
  cases hgiven with
  | some hpart => exact (hrole _ _ hpart.reading).bind fun _ _ hs => .some hs
  | none => exact .none

theorem sequence {role : Reading → Except Fault (List α)} {role' : Reading → Except Fault (List β)}
    (key : String)
    (hrole : ∀ r r', r.Alike R r' → Related (List.Forall₂ S) (role r) (role' r')) :
    Related (List.Forall₂ S) (fields.sequence key role) (fields'.sequence key role') := by
  have hlookup := h.lookup key
  unfold Fields.sequence
  generalize fields.lookup key = part, fields'.lookup key = part' at hlookup ⊢
  cases hlookup with
  | some hpart => exact hrole _ _ hpart.reading
  | none => exact .nil

end Fields.Alike

section Layer

variable {d : Document} {fs : List (String × Document)} (h : Fields.Alike R fields fields')
include h

/-- Origins are alike if the call sites in them are. -/
theorem related_readOrigin :
    Related (Origin.Alike R) (readOrigin d fields) (readOrigin d fields') := by
  unfold readOrigin
  rw [h.value]
  split
  · exact .direct
  · exact .direct
  · split
    · exact (h.get _ fun _ _ => Reading.Alike.span).bind fun _ _ hsite =>
        .expansion hsite (congrArg Document.text (h.valueOr _ _))
    · refine (h.require _).bind fun part part' hpart => ?_
      rw [hpart.document]
      refine (Related.of_eq rfl).bind fun kind _ hkind => ?_
      subst hkind
      exact (h.optional _ fun _ _ => Reading.Alike.span).bind fun _ _ hsite => .desugared hsite
    · rfl
  · rfl

theorem related_readWrittenSpan :
    Related (Option.Rel (Related R)) (readWrittenSpan d fields) (readWrittenSpan d fields') := by
  cases d with
  | obj fs =>
    refine (h.require "span").bind fun part part' hpart => ?_
    rw [hpart.document]
    cases part'.document.isNull with
    | true => exact .none
    | false => exact .some hpart.reading.span
  | _ => rfl

theorem related_readTypeRef :
    Related (TypeRef.Alike R) (readTypeRef d fields) (readTypeRef d fields') := by
  cases d with
  | obj fs =>
    exact (h.text "text").bind fun _ _ htext =>
      (h.get "span" fun _ _ => Reading.Alike.span).bind fun _ _ hspan => ⟨htext, hspan⟩
  | _ => rfl

theorem related_readTraitRef :
    Related (TraitRef.Alike R) (readTraitRef d fields) (readTraitRef d fields') := by
  cases d with
  | obj fs =>
    exact (h.text "path").bind fun _ _ hpath =>
      (h.get "span" fun _ _ => Reading.Alike.span).bind fun _ _ hspan =>
        ⟨hpath, hspan, h.value "def_id"⟩
  | _ => rfl

theorem related_readPattern :
    Related (Pattern.Alike R) (readPattern d fields) (readPattern d fields') := by
  cases d with
  | obj fs =>
    simp only [readPattern, h.value]
    refine (Related.of_eq rfl).bind fun kind _ hkind => ?_
    subst hkind
    exact (h.get "span" fun _ _ => Reading.Alike.span).bind fun _ _ hspan =>
      (h.sequence "subpatterns" fun _ _ => Reading.Alike.patterns).bind fun _ _ hsubpatterns =>
        .mk hspan rfl hsubpatterns
  | _ => rfl

theorem related_readTypeSpan :
    Related (Option.Rel (Related R)) (readTypeSpan fields) (readTypeSpan fields') := by
  have hown := h.given? "ty_span"
  have htype := h.given? "ty"
  unfold readTypeSpan
  generalize fields.given? "ty_span" = own, fields'.given? "ty_span" = own' at hown ⊢
  generalize fields.given? "ty" = type, fields'.given? "ty" = type' at htype ⊢
  cases hown with
  | some hpart => exact .some hpart.reading.span
  | none =>
    cases htype with
    | some hpart => exact hpart.reading.writtenSpan
    | none => exact .none

/-- Parameters are alike, also where the span of the type is found inside the type. -/
theorem related_readParam : Related (Param.Alike R) (readParam d fields) (readParam d fields') := by
  cases d with
  | obj fs =>
    refine (related_readTypeSpan h).bind fun typeSpan typeSpan' htype => ?_
    refine (h.get "pat" fun _ _ => Reading.Alike.pattern).bind fun _ _ hpattern => ?_
    cases htype with
    | none => exact ⟨hpattern, .none⟩
    | some hspan => exact hspan.bind fun _ _ hspan => ⟨hpattern, .some hspan⟩
  | _ => rfl

/-- Blocks are alike. The one span that is read stands for the braces and for the expression. -/
theorem related_readBlock :
    Related (fun b b' => Node.Alike R (.expr (.block b)) (.expr (.block b'))) (readBlock d fields)
      (readBlock d fields') := by
  cases d with
  | obj fs =>
    refine (h.get "span" fun _ _ => Reading.Alike.span).bind fun _ _ hspan => ?_
    refine (h.sequence "stmts" fun _ _ => Reading.Alike.stmts).bind fun _ _ hstmts => ?_
    refine (h.optional "expr" fun _ _ => Reading.Alike.expr).bind fun _ _ htail => ?_
    rw [h.valueOr]
    refine (Related.of_eq rfl).bind fun _ _ hmode => ?_
    exact .mk rfl (.cons (.stmts hstmts) (.cons (.span hspan) (.cons (.expr? htail)
      (.cons (.blockMode hmode) (.cons (.span hspan) .nil)))))
  | _ => rfl

/-- The segments of a path do not depend on the readings. -/
theorem related_readSegments : Related Eq (readSegments fields) (readSegments fields') := by
  have hgiven := h.given? "segments"
  unfold readSegments
  generalize fields.given? "segments" = part, fields'.given? "segments" = part' at hgiven ⊢
  cases hgiven with
  | some hpart => exact .of_eq (congrArg readTexts hpart.document)
  | none =>
    refine (h.text "path").bind fun path _ hpath => ?_
    subst hpath
    rfl

/-- Expressions of a kind are alike if the fields of their objects are. -/
theorem related_readExprOf (kind : ExprKind) :
    Related (fun e e' => Node.Alike R (.expr e) (.expr e')) (readExprOf d fields kind)
      (readExprOf d fields' kind) := by
  have hspan := h.get "span" fun _ _ => Reading.Alike.span
  have hexpr := fun key => h.get key fun _ _ => Reading.Alike.expr
  have hexpr? := fun key => h.optional key fun _ _ => Reading.Alike.expr
  have hexprs := fun key => h.sequence key fun _ _ => Reading.Alike.exprs
  cases kind with
  | literal =>
    refine hspan.bind fun _ _ hspan => ?_
    exact .mk rfl (.cons (.document (h.value _)) (.cons (.span hspan) .nil))
  | path =>
    refine (related_readSegments h).bind fun _ _ hsegments => hspan.bind fun _ _ hspan => ?_
    exact .mk rfl (.cons (.texts hsegments) (.cons (.span hspan)
      (.cons (.document (h.value _)) .nil)))
  | unary =>
    refine (hexpr _).bind fun _ _ hoperand => hspan.bind fun _ _ hspan => ?_
    exact .mk rfl (.cons (.document (h.valueOr _ _)) (.cons (.expr hoperand)
      (.cons (.span hspan) .nil)))
  | binary =>
    refine (hexpr _).bind fun _ _ hlhs => (hexpr _).bind fun _ _ hrhs =>
      hspan.bind fun _ _ hspan => ?_
    exact .mk rfl (.cons (.document (h.valueOr _ _)) (.cons (.expr hlhs) (.cons (.expr hrhs)
      (.cons (.span hspan) .nil))))
  | addrOf =>
    refine (hexpr _).bind fun _ _ hoperand => hspan.bind fun _ _ hspan => ?_
    exact .mk rfl (.cons (.expr hoperand) (.cons (.span hspan)
      (.cons (.flag (congrArg Document.holds (h.value _))) .nil)))
  | field =>
    refine (hexpr _).bind fun _ _ htarget => (h.text _).bind fun _ _ hname =>
      hspan.bind fun _ _ hspan => ?_
    exact .mk rfl (.cons (.expr htarget) (.cons (.text hname) (.cons (.span hspan) .nil)))
  | call =>
    refine (hexpr _).bind fun _ _ hcallee => (hexprs _).bind fun _ _ hargs =>
      hspan.bind fun _ _ hspan => ?_
    exact .mk rfl (.cons (.expr hcallee) (.cons (.exprs hargs) (.cons (.span hspan) .nil)))
  | methodCall =>
    refine (hexpr _).bind fun _ _ hreceiver => (h.text _).bind fun _ _ hmethod =>
      (hexprs _).bind fun _ _ hargs => hspan.bind fun _ _ hspan => ?_
    exact .mk rfl (.cons (.expr hreceiver) (.cons (.text hmethod) (.cons (.exprs hargs)
      (.cons (.span hspan) .nil))))
  | index =>
    refine (hexpr _).bind fun _ _ htarget => (hexpr _).bind fun _ _ hoperand =>
      hspan.bind fun _ _ hspan => ?_
    exact .mk rfl (.cons (.expr htarget) (.cons (.expr hoperand) (.cons (.span hspan) .nil)))
  | range =>
    refine hspan.bind fun _ _ hspan => (hexpr? _).bind fun _ _ hstart =>
      (hexpr? _).bind fun _ _ hstop => ?_
    exact .mk rfl (.cons (.span hspan) (.cons (.expr? hstart) (.cons (.expr? hstop)
      (.cons (.flag (congrArg Document.holds (h.value _))) .nil))))
  | closure =>
    refine (h.sequence _ fun _ _ => Reading.Alike.params).bind fun _ _ hparams =>
      (hexpr _).bind fun _ _ hbody => hspan.bind fun _ _ hspan => ?_
    rw [h.valueOr]
    refine (Related.of_eq rfl).bind fun _ _ hkind => ?_
    exact .mk rfl (.cons (.params hparams) (.cons (.expr hbody) (.cons (.span hspan)
      (.cons (.closureKind hkind) .nil))))
  | block => exact (related_readBlock h).bind fun _ _ hblock => hblock
  | conditional =>
    refine (hexpr _).bind fun _ _ hcondition =>
      (h.get _ fun _ _ => Reading.Alike.block).bind fun _ _ hconsequence =>
        hspan.bind fun _ _ hspan => (hexpr? _).bind fun _ _ halternative => ?_
    exact .mk rfl (.cons (.expr hcondition) (.cons (.block hconsequence) (.cons (.span hspan)
      (.cons (.expr? halternative) .nil))))
  | array =>
    refine (hexprs _).bind fun _ _ helements => hspan.bind fun _ _ hspan => ?_
    exact .mk rfl (.cons (.exprs helements) (.cons (.span hspan) .nil))
  | ret =>
    refine hspan.bind fun _ _ hspan => (hexpr? _).bind fun _ _ hvalue => ?_
    exact .mk rfl (.cons (.span hspan) (.cons (.expr? hvalue) .nil))

/-- Statements of a kind are alike if the fields of their objects are. -/
theorem related_readStmtOf (kind : StmtKind) :
    Related (fun s s' => Node.Alike R (.stmt s) (.stmt s')) (readStmtOf fields kind)
      (readStmtOf fields' kind) := by
  have hspan := h.get "span" fun _ _ => Reading.Alike.span
  cases kind with
  | binding =>
    refine (h.get _ fun _ _ => Reading.Alike.pattern).bind fun _ _ hpattern =>
      hspan.bind fun _ _ hspan =>
        (h.optional _ fun _ _ => Reading.Alike.typeRef).bind fun _ _ htype =>
          (h.optional _ fun _ _ => Reading.Alike.expr).bind fun _ _ hinit =>
            (h.optional _ fun _ _ => Reading.Alike.block).bind fun _ _ hotherwise => ?_
    exact .mk rfl (.cons (.pattern hpattern) (.cons (.span hspan) (.cons (.type? htype)
      (.cons (.expr? hinit) (.cons (.block? hotherwise) .nil)))))
  | expr =>
    refine (h.get _ fun _ _ => Reading.Alike.expr).bind fun _ _ hexpr =>
      hspan.bind fun _ _ hspan => ?_
    exact .mk rfl (.cons (.expr hexpr) (.cons (.span hspan)
      (.cons (.flag (congrArg Document.holds (h.valueOr _ _))) .nil)))
  | item =>
    refine (h.get _ fun _ _ => Reading.Alike.item).bind fun _ _ hitem =>
      hspan.bind fun _ _ hspan => ?_
    exact .mk rfl (.cons (.item hitem) (.cons (.span hspan) .nil))

/-- Items of a kind are alike if the fields of their objects are. -/
theorem related_readItemOf (kind : ItemKind) :
    Related (fun i i' => Node.Alike R (.item i) (.item i')) (readItemOf fields kind)
      (readItemOf fields' kind) := by
  have hname := h.text "name"
  have hspan := h.get "span" fun _ _ => Reading.Alike.span
  have hitems := h.sequence "items" fun _ _ => Reading.Alike.items
  have htype := h.optional "ty" fun _ _ => Reading.Alike.typeRef
  cases kind with
  | function =>
    refine hname.bind fun _ _ hname => hspan.bind fun _ _ hspan =>
      (h.sequence _ fun _ _ => Reading.Alike.params).bind fun _ _ hparams =>
        (h.optional _ fun _ _ => Reading.Alike.block).bind fun _ _ hbody => ?_
    exact .mk rfl (.cons (.text hname) (.cons (.span hspan) (.cons (.safety h.safety)
      (.cons (.params hparams) (.cons (.block? hbody) .nil)))))
  | trait =>
    refine hname.bind fun _ _ hname => hspan.bind fun _ _ hspan => hitems.bind fun _ _ hitems => ?_
    exact .mk rfl (.cons (.text hname) (.cons (.span hspan) (.cons (.safety h.safety)
      (.cons (.items hitems) .nil))))
  | implementation =>
    refine (h.optional _ fun _ _ => Reading.Alike.traitRef).bind fun _ _ htrait =>
      hspan.bind fun _ _ hspan => hitems.bind fun _ _ hitems => ?_
    exact .mk rfl (.cons (.text (congrArg Document.text (h.valueOr _ _))) (.cons (.span hspan)
      (.cons (.trait? htrait) (.cons (.safety h.safety) (.cons (.items hitems) .nil)))))
  | struct =>
    refine hname.bind fun _ _ hname => hspan.bind fun _ _ hspan => ?_
    exact .mk rfl (.cons (.text hname) (.cons (.span hspan) .nil))
  | submodule =>
    refine hname.bind fun _ _ hname => hspan.bind fun _ _ hspan => hitems.bind fun _ _ hitems => ?_
    exact .mk rfl (.cons (.text hname) (.cons (.span hspan) (.cons (.items hitems) .nil)))
  | constant =>
    refine hname.bind fun _ _ hname => hspan.bind fun _ _ hspan => htype.bind fun _ _ htype =>
      (h.optional _ fun _ _ => Reading.Alike.expr).bind fun _ _ hvalue => ?_
    exact .mk rfl (.cons (.text hname) (.cons (.span hspan) (.cons (.type? htype)
      (.cons (.expr? hvalue) .nil))))
  | typeAlias =>
    refine hname.bind fun _ _ hname => hspan.bind fun _ _ hspan => htype.bind fun _ _ htype => ?_
    exact .mk rfl (.cons (.text hname) (.cons (.span hspan) (.cons (.type? htype) .nil)))

/-- Nodes are alike if those of each kind are, and a kind that is not known is the same fault. -/
theorem related_readNode {κ : Type} [Vocabulary κ] {S : α → β → Prop} (sort : NodeSort)
    {build : κ → Except Fault α} {build' : κ → Except Fault β}
    (hbuild : ∀ kind, Related S (build kind) (build' kind)) :
    Related S (readNode sort d fields build) (readNode sort d fields' build') := by
  cases d with
  | obj fs =>
    simp only [readNode, h.value]
    split
    · split
      · exact (hbuild _).mapError _
      · rfl
    · rfl
    · rfl
    · rfl
  | _ => rfl

end Layer

/-- A sequence is read alike if its elements are. What texts are taken for does not depend on the
file, since nothing is read from them. -/
theorem related_readSequence {d : Document} {S : α → β → Prop} {parts parts' : List Part}
    {role : Reading → Except Fault α} {role' : Reading → Except Fault β}
    {ofText : Document → Fields → Except Fault α} {ofText' : Document → Fields → Except Fault β}
    (hparts : List.Forall₂ (Part.Alike R) parts parts')
    (hrole : ∀ r r', r.Alike R r' → Related S (role r) (role' r'))
    (htext : ∀ s, Related S (ofText (.str s) []) (ofText' (.str s) [])) :
    Related (List.Forall₂ S) (readSequence d parts role ofText)
      (readSequence d parts' role' ofText') := by
  cases d with
  | arr ds => exact .mapM hparts fun _ _ hpart => hrole _ _ hpart.reading
  | str s =>
    refine .mapM (R := Eq) ?_ fun c _ hc => hc ▸ htext (String.singleton c)
    exact List.forall₂_same.mpr fun _ _ => rfl
  | obj fs =>
    refine .mapM (R := Eq) ?_ fun field _ hfield => hfield ▸ htext field.1
    exact List.forall₂_same.mpr fun _ _ => rfl
  | _ =>
    simp only [readSequence]
    split
    · rfl
    · exact List.Forall₂.nil

/-- **One layer.** A document is read alike in two files if its parts are, provided that it is so as
a span. -/
theorem Reading.alike_ofParts {f g : String} {d : Document} {parts parts' : List Part}
    (hspan : Related R (readSpan f d fields) (readSpan g d fields'))
    (hparts : List.Forall₂ (Part.Alike R) parts parts') (h : Fields.Alike R fields fields') :
    (Reading.ofParts f d parts fields).Alike R (Reading.ofParts g d parts' fields') where
  span := hspan
  origin := related_readOrigin h
  writtenSpan := related_readWrittenSpan h
  typeRef := related_readTypeRef h
  traitRef := related_readTraitRef h
  pattern := related_readPattern h
  patterns := related_readSequence hparts (fun _ _ => Reading.Alike.pattern) fun _ => rfl
  param := related_readParam h
  params := related_readSequence hparts (fun _ _ => Reading.Alike.param) fun _ => rfl
  block := related_readBlock h
  expr := related_readNode h .expression (related_readExprOf h)
  exprs := related_readSequence hparts (fun _ _ => Reading.Alike.expr) fun _ => rfl
  stmt := related_readNode h .statement (related_readStmtOf h)
  stmts := related_readSequence hparts (fun _ _ => Reading.Alike.stmt) fun _ => rfl
  item := related_readNode h .item (related_readItemOf h)
  items := related_readSequence hparts (fun _ _ => Reading.Alike.item) fun _ => rfl

end Dump

end TreeLint
