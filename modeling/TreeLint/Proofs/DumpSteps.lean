import TreeLint.Proofs.KindChecks

/-!
# The order in which a dump is read

A document that is read in a position is read in steps: it is checked for something, or one of its
parts is read in a position of its own. Which steps there are, and in which order, can be said of
one layer of the document, without reading any part of it. The fault of a document is the first
fault of its steps. Where the document is a node that names its kind, a missing field becomes a
fault of that node.

## Main definitions

* `Position`, `Position.fault?`: the positions of a dump, and the fault of a document in one
* `Step`, `Step.fault?`: what is done in one step
* `Position.steps`: the steps of a document in a position, in their order
* `Position.owner?`: the node that answers for missing fields
* `Position.fileWithin`: the file in which the parts of a document are read

## Main results

* `Position.fault?_eq`: the fault of a document is the first fault of its steps
-/

namespace TreeLint.Dump

open Loops (ok_bind)

variable {α β : Type} {file : String} {d : Document} {fs : List (String × Document)}

/-! ## Positions and steps -/

/-- The positions in which documents are read, one by one. -/
inductive Position where
  | dump
  | span
  | origin
  | typeRef
  | traitRef
  | pattern
  | param
  | slot (s : Slot)
  deriving DecidableEq

/-- The fault of a document in a position. -/
def Position.fault? (file : String) (d : Document) : Position → Option Fault
  | dump => faultOf? (readUnit file d)
  | span => faultOf? (read file d).span
  | origin => faultOf? (read file d).origin
  | typeRef => faultOf? (read file d).typeRef
  | traitRef => faultOf? (read file d).traitRef
  | pattern => faultOf? (read file d).pattern
  | param => faultOf? (read file d).param
  | slot s => faultOf? (s.role (read file d))

/-- A step of reading a document. -/
inductive Step where
  /-- A check that fails. -/
  | fault (own : Fault)
  /-- A part is read in a position. -/
  | visit (position : Position) (part : Document)

namespace Step

/-- The fault of a step. -/
def fault? (file : String) : Step → Option Fault
  | fault own => some own
  | visit position part => position.fault? file part

/-- The first fault of several steps. -/
def first (file : String) (steps : List Step) : Option Fault :=
  firstFault (steps.map (fault? file))

/-- A check, which is a step only if it fails. -/
def check (result : Except Fault α) : List Step :=
  (faultOf? result).toList.map fault

/-- A field that must be there, and what is done with it. -/
def required (fs : List (String × Document)) (key : String) (steps : Document → List Step) :
    List Step :=
  match fs.lookup key with
  | some d => steps d
  | none => [.fault (.absent key)]

/-- A field that is read unless it is missing or null. -/
def given (fs : List (String × Document)) (key : String) (position : Position) : List Step :=
  (Document.given? fs key).toList.map (visit position)

/-- The elements of a sequence. Those of a text are its characters, those of an object its keys. -/
def elements (position : Position) : Document → List Step
  | .arr ds => ds.map (visit position)
  | .str s => s.toList.map fun c => visit position (.str (String.singleton c))
  | .obj fs => fs.map fun field => visit position (.str field.1)
  | d => if d.holds then [.fault (.notASequence d)] else []

/-- A field that is read as a sequence unless it is missing. -/
def sequence (fs : List (String × Document)) (key : String) (position : Position) : List Step :=
  (fs.lookup key).toList.flatMap (elements position)

end Step

open Step (check required given elements sequence)

/-- The steps of a consultation. -/
def Consult.steps (fs : List (String × Document)) : Consult → List Step
  | plain _ => []
  | safety => []
  | text key => required fs key fun _ => []
  | span => required fs "span" fun d => [.visit .span d]
  | pattern => required fs "pat" fun d => [.visit .pattern d]
  | params => sequence fs "params" .param
  | typeRef => given fs "ty" .typeRef
  | traitRef => given fs "trait" .traitRef
  | segments => match Document.given? fs "segments" with
    | some d => check (readTexts d)
    | none => required fs "path" fun _ => []
  | closureKind => check (readMember (α := ClosureKind)
      ((fs.lookup "closure_kind").getD (.str ClosureKind.closure.name)))
  | blockMode => check (readMember (α := BlockMode)
      ((fs.lookup "rules").getD (.str BlockMode.checked.name)))
  | hold (.one key slot) => required fs key fun d => [.visit (.slot slot) d]
  | hold (.optional key slot) => given fs key (.slot slot)
  | hold (.many key sort) => sequence fs key (.slot (.node sort))

/-- The steps of a span. The end of the region defaults to its start, and the origin comes last. -/
def spanSteps : Document → List Step
  | .arr [line, column, endLine, endColumn] =>
    check (readInt line) ++ check (readInt column) ++ check (readInt endLine) ++
      check (readInt endColumn)
  | .obj fs =>
    let line := required fs "line" fun line => check (readInt line)
    let column := required fs "column" fun column => check (readInt column)
    let endOf := fun (key start : String) =>
      check (readInt ((fs.lookup key).getD ((fs.lookup start).getD .null)))
    line ++ column ++ endOf "end_line" "line" ++ endOf "end_column" "column" ++
      (fs.lookup "origin").toList.map (.visit .origin)
  | d => [.fault (.malformedSpan d)]

/-- The steps of an origin. -/
def originSteps : Document → List Step
  | .null => []
  | .str "direct" => []
  | .obj fs => match (fs.lookup "kind").getD .null with
    | .str "macro" => required fs "call_site" fun d => [.visit .span d]
    | .str "desugared" =>
      required fs "desugaring" (fun kind => check (readMember (α := Desugaring) kind)) ++
        given fs "call_site" .span
    | kind => [.fault (.unknownOrigin kind)]
  | d => [.fault (.malformedOrigin d)]

/-- The steps of a parameter. Of its type only the span is read, and that only after the pattern,
although it is looked up before. -/
def paramSteps (fs : List (String × Document)) : List Step :=
  let pattern := required fs "pat" fun d => [.visit .pattern d]
  match Document.given? fs "ty_span" with
  | some d => pattern ++ [.visit .span d]
  | none => match Document.given? fs "ty" with
    | some (.obj type) =>
      required type "span" (fun _ => []) ++ pattern ++ given type "span" .span
    | some type => .fault (.notAMapping .writtenType type) :: pattern
    | none => pattern

/-- The steps of the table of lang items: its entries have to name lang items. -/
def langItemSteps (d : Document) : List Step :=
  match readTable .langItems d with
  | .ok entries => entries.flatMap fun entry => check (readMember (α := LangItem) (.str entry.1))
  | .error fault => [.fault fault]

/-- The steps of a whole dump: its lang items, its items and its definitions. -/
def dumpSteps (fs : List (String × Document)) : List Step :=
  langItemSteps ((fs.lookup "lang_items").getD .null) ++
    elements (.slot (.node .item)) ((fs.lookup "items").getD .null) ++
    check (readTable .definitions ((fs.lookup "definitions").getD .null))

namespace Position

/-- The steps of a document in a position, in their order. -/
def steps : Position → Document → List Step
  | dump, .obj fs => dumpSteps fs
  | dump, _ => [.fault .notADump]
  | span, d => spanSteps d
  | origin, d => originSteps d
  | typeRef, .obj fs => required fs "text" (fun _ => []) ++
      required fs "span" fun d => [.visit .span d]
  | typeRef, d => [.fault (.notAMapping .typeRef d)]
  | traitRef, .obj fs => required fs "path" (fun _ => []) ++
      required fs "span" fun d => [.visit .span d]
  | traitRef, d => [.fault (.notAMapping .traitRef d)]
  | pattern, .obj fs =>
    let name := (fs.lookup "name").getD .null
    let stated := (fs.lookup "kind").getD .null
    check (readMember (α := PatternKind) (if stated.holds then stated else defaultPatternKind name))
      ++ required fs "span" (fun d => [.visit .span d]) ++ sequence fs "subpatterns" .pattern
  | pattern, d => [.fault (.notAMapping .pattern d)]
  | param, .obj fs => paramSteps fs
  | param, d => [.fault (.notAMapping .param d)]
  | slot (.node sort), .obj fs => match (Slot.node sort).kind? fs with
    | some kind => (consults kind).flatMap (Consult.steps fs)
    | none => [.fault (kindFault sort fs)]
  | slot (.node sort), d => [.fault (.notANode sort d)]
  | slot .block, .obj fs => (consults .block).flatMap (Consult.steps fs)
  | slot .block, d => [.fault (.notAMapping .block d)]

/-- The node that answers for the fields that are missing in a document: the document itself, if it
is a node that names its kind. -/
def owner? : Position → Document → Option (NodeSort × String)
  | slot (.node sort), .obj fs => (kindWord? fs).map (Prod.mk sort)
  | _, _ => none

/-- The file in which the parts of a document are read. A dump may name one of its own. -/
def fileWithin (file : String) : Position → Document → String
  | dump, .obj fs => unitFile file fs
  | _, _ => file

end Position

/-- The fault as seen from outside of the node that answers for missing fields, if there is one. -/
def Fault.attributed : Option (NodeSort × String) → Fault → Fault
  | some (sort, word), fault => fault.within sort word
  | none, fault => fault

/-! ## Checks and elements -/

namespace Step

theorem mem_check {result : Except Fault α} {step : Step} :
    step ∈ check result ↔ ∃ own, result = .error own ∧ step = .fault own := by
  cases result <;> simp [check, faultOf?]

/-- An element is one of an array, or a text that is a character or a key. -/
theorem mem_elements {position : Position} {step : Step} (h : step ∈ elements position d) :
    step = .fault (.notASequence d) ∨ ∃ x, step = .visit position x ∧
      ((∃ s, x = .str s) ∨ ∃ ds, d = .arr ds ∧ x ∈ ds) := by
  unfold elements at h
  split at h
  case h_1 ds =>
    obtain ⟨x, hx, rfl⟩ := List.mem_map.mp h
    exact .inr ⟨x, rfl, .inr ⟨ds, rfl, hx⟩⟩
  case h_2 =>
    obtain ⟨c, -, rfl⟩ := List.mem_map.mp h
    exact .inr ⟨_, rfl, .inl ⟨_, rfl⟩⟩
  case h_3 =>
    obtain ⟨field, -, rfl⟩ := List.mem_map.mp h
    exact .inr ⟨_, rfl, .inl ⟨_, rfl⟩⟩
  case h_4 =>
    split at h
    · exact .inl (List.mem_singleton.mp h)
    · cases h

end Step

/-! ## The faults of single steps -/

namespace Step

@[simp]
theorem first_visit (position : Position) (part : Document) :
    first file [.visit position part] = position.fault? file part :=
  Option.or_none

@[simp]
theorem first_append (earlier later : List Step) :
    first file (earlier ++ later) = (first file earlier).or (first file later) := by
  rw [first, List.map_append, firstFault_append]
  rfl

@[simp]
theorem first_check (result : Except Fault α) : first file (check result) = faultOf? result := by
  cases result <;> rfl

/-- The steps that are taken for each element of a list fail where the first of them does. -/
theorem first_flatMap (as : List α) (steps : α → List Step) :
    first file (as.flatMap steps) = firstFault (as.map fun a => first file (steps a)) := by
  induction as with
  | nil => rfl
  | cons a as ih =>
    rw [List.flatMap_cons, first_append, ih]
    rfl

/-- The steps of a field that has to be there have the fault of requiring and then reading it. -/
theorem first_required {steps : Document → List Step} {key : String} {next : Part → Except Fault α}
    (h : ∀ d, first file (steps d) = faultOf? (next ⟨d, read file d⟩)) :
    first file (required fs key steps) = faultOf? ((readFields file fs).require key >>= next) := by
  rw [required, require_readFields]
  cases fs.lookup key with
  | none => rfl
  | some d => exact h d

theorem first_text (key : String) :
    first file (required fs key fun _ => []) = faultOf? ((readFields file fs).text key) :=
  first_required fun _ => rfl

section Role

variable {position : Position} {role : Reading → Except Fault α}
  (h : ∀ d, position.fault? file d = faultOf? (role (read file d)))
include h

theorem first_get (key : String) :
    first file (required fs key fun d => [.visit position d]) =
      faultOf? ((readFields file fs).get key role) := by
  refine first_required fun d => ?_
  rw [first_visit]
  exact h d

theorem first_given (key : String) :
    first file (given fs key position) = faultOf? ((readFields file fs).optional key role) := by
  rw [given, optional_readFields, Document.given?, Document.field?]
  cases (fs.lookup key).filter (!·.isNull) with
  | none => rfl
  | some d =>
    rw [Option.toList_some, List.map_singleton, first_visit, h, Option.mapM_some]
    cases role (read file d) <;> rfl

end Role

/-- The fault of a sequence is the first among those of its elements. -/
theorem faultOf?_mapM (f : β → Except Fault α) (bs : List β) :
    faultOf? (bs.mapM f) = firstFault (bs.map fun b => faultOf? (f b)) := by
  induction bs with
  | nil => rfl
  | cons b bs ih =>
    rw [List.mapM_cons, List.map_cons]
    refine faultOf?_bind fun a => ?_
    rw [← firstFault, ← ih]
    cases bs.mapM f <;> rfl

/-- A sequence is read element by element, whatever it is a sequence of. -/
theorem first_elements {position : Position} {role : Reading → Except Fault α}
    {ofText : Document → Fields → Except Fault α}
    (hpart : ∀ d, position.fault? file d = faultOf? (role (read file d)))
    (htext : ∀ s, role (read file (.str s)) = ofText (.str s) [])
    (d : Document) {parts : List Part} (hparts : ∀ ds, d = .arr ds → parts = readAll file ds) :
    first file (elements position d) = faultOf? (readSequence d parts role ofText) := by
  cases d with
  | arr ds =>
    rw [hparts ds rfl, readSequence_arr, faultOf?_mapM, elements, first, List.map_map]
    exact congrArg firstFault (List.map_congr_left fun d _ => hpart d)
  | str s =>
    rw [readSequence, faultOf?_mapM, elements, first, List.map_map]
    refine congrArg firstFault (List.map_congr_left fun c _ => ?_)
    rw [← htext]
    exact hpart _
  | obj fs =>
    rw [readSequence, faultOf?_mapM, elements, first, List.map_map]
    refine congrArg firstFault (List.map_congr_left fun field _ => ?_)
    rw [← htext]
    exact hpart _
  | _ =>
    rw [elements, readSequence]
    · split <;> rfl
    all_goals
      intros
      contradiction

/-- The steps of a sequence have the fault of reading it, if those of its elements have. -/
theorem first_sequence {position : Position} {role : Reading → Except Fault (List α)}
    (h : ∀ d, first file (elements position d) = faultOf? (role (read file d))) (key : String) :
    first file (sequence fs key position) = faultOf? ((readFields file fs).sequence key role) := by
  rw [sequence, sequence_readFields]
  cases fs.lookup key with
  | none => rfl
  | some d =>
    rw [Option.toList_some, List.flatMap_singleton]
    exact h d

end Step

open Step (first first_append first_check first_visit first_required first_text first_get
  first_given first_elements first_sequence)

/-! ## The faults of parts that are no nodes -/

/-- A document is read from its elements and fields. -/
theorem exists_read_eq (file : String) (d : Document) :
    ∃ parts fields, read file d = .ofParts file d parts fields ∧
      ∀ ds, d = .arr ds → parts = readAll file ds := by
  cases d with
  | arr ds =>
    refine ⟨readAll file ds, [], by rw [read], ?_⟩
    rintro _ ⟨⟩
    rfl
  | obj fs => exact ⟨[], readFields file fs, by rw [read], fun _ h => absurd h (by simp)⟩
  | _ => exact ⟨[], [], by rw [read], fun _ h => absurd h (by simp)⟩

theorem first_elements_params (d : Document) :
    first file (elements .param d) = faultOf? (read file d).params := by
  obtain ⟨parts, fields, hread, hparts⟩ := exists_read_eq file d
  rw [hread]
  exact first_elements (fun _ => rfl) (fun s => by rw [read]; rfl) d hparts

theorem first_elements_patterns (d : Document) :
    first file (elements .pattern d) = faultOf? (read file d).patterns := by
  obtain ⟨parts, fields, hread, hparts⟩ := exists_read_eq file d
  rw [hread]
  exact first_elements (fun _ => rfl) (fun s => by rw [read]; rfl) d hparts

theorem Position.fault?_slot (s : Slot) (d : Document) :
    (slot s).fault? file d = faultOf? (s.raw (read file d)) :=
  faultOf?_map _ _

/-- A sequence of nodes has the first fault of its elements. -/
theorem first_elements_nodes (sort : NodeSort) (d : Document) :
    first file (elements (.slot (.node sort)) d) = faultOf? (Slot.raws sort (read file d)) := by
  obtain ⟨parts, fields, hread, hparts⟩ := exists_read_eq file d
  rw [hread]
  cases sort
  all_goals
    exact first_elements (Position.fault?_slot (.node _)) (fun s => by rw [read]; rfl) d hparts

/-- The fault of a computation whose last step cannot fail. -/
theorem faultOf?_bind_of_none {x : Except Fault α} {f : α → Except Fault β}
    (h : ∀ a, faultOf? (f a) = none) : faultOf? (x >>= f) = faultOf? x :=
  (faultOf?_bind h).trans Option.or_none

theorem fault?_span (d : Document) : Position.span.fault? file d = faultOf? (read file d).span :=
  rfl

theorem first_spanSteps (d : Document) :
    first file (spanSteps d) = faultOf? (read file d).span := by
  unfold spanSteps
  split
  case h_1 line column endLine endColumn =>
    rw [read]
    simp only [first_append, first_check, Option.or_assoc]
    symm
    exact faultOf?_bind fun line => faultOf?_bind fun column => faultOf?_bind fun endLine =>
      faultOf?_bind_of_none fun endColumn => rfl
  case h_2 fs =>
    rw [read]
    show _ = faultOf? (readSpanFields file (readFields file fs))
    unfold readSpanFields required
    simp only [require_readFields, valueOr_readFields, lookup_readFields]
    -- Where a start is missing nothing after it is read, also not the end that defaults to it.
    cases fs.lookup "line" with
    | none => rfl
    | some line =>
      simp only [first_append, first_check, Option.or_assoc, ok_bind, Option.getD_some]
      cases fs.lookup "column" with
      | none =>
        symm
        refine faultOf?_bind fun _ => ?_
        rfl
      | some column =>
        simp only [first_check, ok_bind, Option.getD_some]
        symm
        refine faultOf?_bind fun line => faultOf?_bind fun column => faultOf?_bind fun endLine =>
          faultOf?_bind fun endColumn => ?_
        cases fs.lookup "origin" with
        | none => rfl
        | some origin =>
          rw [Option.map_some, Option.toList_some, List.map_singleton, first_visit]
          exact faultOf?_bind_of_none fun origin => rfl
  case h_3 harr hobj =>
    obtain ⟨parts, fields, hread, -⟩ := exists_read_eq file d
    rw [hread]
    show _ = faultOf? (readSpan file d fields)
    rw [readSpan]
    · rfl
    · exact harr
    · exact hobj

theorem first_originSteps (d : Document) :
    first file (originSteps d) = faultOf? (read file d).origin := by
  unfold originSteps
  split
  case h_1 => rw [read]; rfl
  case h_2 => rw [read]; rfl
  case h_3 fs =>
    rw [read]
    show _ = faultOf? (readOrigin (.obj fs) (readFields file fs))
    simp only [readOrigin, value_readFields]
    by_cases hexpansion : (fs.lookup "kind").getD .null = .str "macro"
    · rw [hexpansion]
      refine (first_get fault?_span "call_site").trans ?_
      exact (faultOf?_bind_of_none fun site => rfl).symm
    by_cases hdesugared : (fs.lookup "kind").getD .null = .str "desugared"
    · rw [hdesugared]
      refine (first_append _ _).trans ?_
      rw [first_given fault?_span, required, require_readFields]
      cases fs.lookup "desugaring" with
      | none => rfl
      | some kind =>
        rw [first_check]
        exact (faultOf?_bind fun kind => faultOf?_bind_of_none fun site => rfl).symm
    repeat' split
    all_goals first
      | rfl
      | exact absurd ‹_› hexpansion
      | exact absurd ‹_› hdesugared
  case h_4 hnull hdirect hobj =>
    obtain ⟨parts, fields, hread, -⟩ := exists_read_eq file d
    rw [hread]
    show _ = faultOf? (readOrigin d fields)
    rw [readOrigin]
    · rfl
    · exact hnull
    · exact hdirect
    · exact hobj

/-- The fault of a parameter is the first fault of its steps. Its type is looked up before the
pattern is read, but the span of the type is read after. -/
theorem first_paramSteps (fs : List (String × Document)) :
    first file (paramSteps fs) = faultOf? (readParam (.obj fs) (readFields file fs)) := by
  have hpattern : first file (required fs "pat" fun d => [.visit .pattern d]) =
      faultOf? ((readFields file fs).get "pat" Reading.pattern) := first_get (fun _ => rfl) "pat"
  simp only [paramSteps, readParam, readTypeSpan, given?_readFields, Document.given?,
    Document.field?]
  cases (fs.lookup "ty_span").filter (!·.isNull) with
  | some d =>
    simp only [Option.map_some, ok_bind, first_append, first_visit, hpattern]
    exact (faultOf?_bind fun pattern => faultOf?_bind_of_none fun span => rfl).symm
  | none =>
    cases (fs.lookup "ty").filter (!·.isNull) with
    | none =>
      simp only [Option.map_none, ok_bind, hpattern]
      exact (faultOf?_bind_of_none fun pattern => rfl).symm
    | some type =>
      cases type with
      | obj type =>
        rw [Option.map_some, read]
        show _ = faultOf? (readWrittenSpan (.obj type) (readFields file type) >>= _)
        rw [readWrittenSpan, require_readFields, first_append, first_append, first_text, hpattern,
          text_readFields]
        cases hspan : type.lookup "span" with
        | none => rfl
        | some d =>
          simp only [given, Document.given?, Document.field?, hspan, Option.filter_some, ok_bind,
            pure_eq_ok]
          cases hnull : d.isNull with
          | true =>
            refine Option.or_none.trans ?_
            exact (faultOf?_bind_of_none fun pattern => rfl).symm
          | false =>
            show (faultOf? _).or (first file [.visit .span d]) = _
            rw [first_visit]
            exact (faultOf?_bind fun pattern => faultOf?_bind_of_none fun span => rfl).symm
      | _ =>
        rw [Option.map_some, read]
        rfl

/-! ## The faults of nodes and of whole dumps -/

/-- The steps of a consultation have its fault. -/
theorem Consult.first_steps (c : Consult) :
    first file (c.steps fs) = c.fault? (readFields file fs) := by
  cases c with
  | plain key => rfl
  | safety => rfl
  | text key => exact first_text key
  | span => exact first_get (fun _ => rfl) "span"
  | pattern => exact first_get (fun _ => rfl) "pat"
  | params => exact first_sequence first_elements_params "params"
  | typeRef => exact first_given (fun _ => rfl) "ty"
  | traitRef => exact first_given (fun _ => rfl) "trait"
  | segments =>
    rw [steps, fault?, readSegments, given?_readFields, Document.given?, Document.field?]
    cases (fs.lookup "segments").filter (!·.isNull) with
    | some d => exact first_check _
    | none =>
      rw [first_text]
      exact (faultOf?_bind_of_none fun path => rfl).symm
  | closureKind => rw [steps, fault?, first_check, valueOr_readFields]
  | blockMode => rw [steps, fault?, first_check, valueOr_readFields]
  | hold holding =>
    cases holding with
    | one key slot => exact first_get (Position.fault?_slot slot) key
    | optional key slot => exact first_given (Position.fault?_slot slot) key
    | many key sort => exact first_sequence (first_elements_nodes sort) key

/-- The steps of a kind are those of its consultations. -/
theorem first_consults (kind : Kind) :
    first file ((consults kind).flatMap (Consult.steps fs)) =
      faultOf? (readKind (.obj fs) (readFields file fs) kind) := by
  rw [Step.first_flatMap, faultOf?_readKind]
  exact congrArg firstFault (List.map_congr_left fun c _ => c.first_steps)

theorem faultOf?_mapError (f : Fault → Fault) (x : Except Fault α) :
    faultOf? (x.mapError f) = (faultOf? x).map f := by
  cases x <;> rfl

/-- The lang items are checked in their order, each for its name. -/
theorem faultOf?_readLangItems (entries : List (String × Document)) :
    faultOf? (readLangItems entries) = first file
      (entries.flatMap fun entry => check (readMember (α := LangItem) (.str entry.1))) := by
  unfold readLangItems
  -- The table grows from entry to entry, but no fault depends on it.
  generalize ({} : LangItems) = table
  induction entries generalizing table with
  | nil => rfl
  | cons entry entries ih =>
    rw [List.foldlM_cons, List.flatMap_cons, first_append, first_check]
    refine (faultOf?_bind ih).trans ?_
    rw [faultOf?_bind_of_none fun item => rfl]

theorem first_langItemSteps (d : Document) :
    first file (langItemSteps d) = faultOf? (readTable .langItems d >>= readLangItems) := by
  unfold langItemSteps
  cases readTable .langItems d with
  | error fault => rfl
  | ok entries => exact (faultOf?_readLangItems entries).symm

/-- The fault of a whole dump is the first fault of its steps. -/
theorem first_dumpSteps (fs : List (String × Document)) :
    first (unitFile file fs) (dumpSteps fs) = faultOf? (readUnit file (.obj fs)) := by
  rw [dumpSteps, first_append, first_append, first_langItemSteps, first_elements_nodes, first_check,
    Option.or_assoc]
  simp only [readUnit, Document.field?]
  cases readTable .langItems ((fs.lookup "lang_items").getD .null) with
  | error fault => rfl
  | ok entries =>
    rw [ok_bind, ok_bind]
    symm
    exact faultOf?_bind fun table => faultOf?_bind fun items =>
      faultOf?_bind_of_none fun definitions => rfl

/-- Only the absence of a field is attributed to the node that lacks it. -/
theorem Fault.attributed_of_ne_absent {fault : Fault} (h : ∀ key, fault ≠ .absent key)
    (owner : Option (NodeSort × String)) : fault.attributed owner = fault := by
  rcases owner with _ | ⟨sort, word⟩
  · rfl
  · cases fault with
    | absent key => exact absurd rfl (h key)
    | _ => rfl

namespace Position

theorem map_attributed_none (fault : Option Fault) : fault.map (Fault.attributed none) = fault :=
  Option.map_id'

/-- What is seen of a fault outside of a node of a known kind is attributed to that node. -/
theorem outside_eq_attributed {sort : NodeSort} {kind : Kind}
    (h : (Slot.node sort).kind? fs = some kind) :
    (Slot.node sort).outside fs = Fault.attributed ((slot (.node sort)).owner? (.obj fs)) := by
  have hword : ∃ word, kindWord? fs = some word := by
    cases sort
    all_goals
      obtain ⟨member, hmember, -⟩ := Option.map_eq_some_iff.mp h
      obtain ⟨word, hword, -⟩ := Option.bind_eq_some_iff.mp hmember
      exact ⟨word, hword⟩
  obtain ⟨word, hword⟩ := hword
  rw [owner?, Slot.outside, hword]
  rfl

/-- A node that is an object has the first fault of its steps, with missing fields attributed. -/
theorem fault?_slot_obj (s : Slot) (fs : List (String × Document)) :
    (slot s).fault? file (.obj fs) = (first file ((slot s).steps (.obj fs))).map
      (Fault.attributed ((slot s).owner? (.obj fs))) := by
  cases s with
  | block =>
    rw [steps, first_consults, fault?, Slot.role_obj rfl, faultOf?_mapError]
    rfl
  | node sort =>
    cases hkind : (Slot.node sort).kind? fs with
    | none =>
      rw [fault?, Slot.role_obj_of_no_kind hkind, steps, hkind]
      -- The node may name a kind that there is not, but then no field of it is asked for.
      have hfault : (kindFault sort fs).attributed ((slot (.node sort)).owner? (.obj fs)) =
          kindFault sort fs := Fault.attributed_of_ne_absent (kindFault_ne_absent sort) _
      exact congrArg some hfault.symm
    | some kind =>
      rw [fault?, Slot.role_obj hkind, faultOf?_mapError, steps, hkind, outside_eq_attributed hkind]
      exact congrArg _ (first_consults kind).symm

/-- A part that is no node has the first fault of its steps. -/
theorem fault?_of_ne_slot {position : Position} (h : ∀ s, position ≠ slot s) (d : Document) :
    position.fault? file d = first (position.fileWithin file d) (position.steps d) := by
  cases position with
  | slot s => exact absurd rfl (h s)
  | span => exact (first_spanSteps d).symm
  | origin => exact (first_originSteps d).symm
  | dump =>
    cases d with
    | obj fs => exact (first_dumpSteps fs).symm
    | _ => rfl
  | typeRef =>
    cases d with
    | obj fs =>
      rw [fault?, read, steps, first_append, first_text, first_get fun _ => rfl]
      exact faultOf?_bind fun text => faultOf?_bind_of_none fun span => rfl
    | _ => rw [fault?, read]; rfl
  | traitRef =>
    cases d with
    | obj fs =>
      rw [fault?, read, steps, first_append, first_text, first_get fun _ => rfl]
      exact faultOf?_bind fun path => faultOf?_bind_of_none fun span => rfl
    | _ => rw [fault?, read]; rfl
  | pattern =>
    cases d with
    | obj fs =>
      rw [fault?, read, steps, first_append, first_append, first_check, first_get fun _ => rfl,
        first_sequence first_elements_patterns, Option.or_assoc, ← value_readFields,
        ← value_readFields]
      exact faultOf?_bind fun kind => faultOf?_bind fun span =>
        faultOf?_bind_of_none fun subpatterns => rfl
    | _ => rw [fault?, read]; rfl
  | param =>
    cases d with
    | obj fs =>
      rw [fault?, read]
      exact (first_paramSteps fs).symm
    | _ => rw [fault?, read]; rfl

/-- **One layer.** The fault of a document is the first fault of its steps, with missing fields
attributed to the document if it is a node. -/
theorem fault?_eq (position : Position) (file : String) (d : Document) :
    position.fault? file d =
      (first (position.fileWithin file d) (position.steps d)).map
        (Fault.attributed (position.owner? d)) := by
  cases position with
  | slot s =>
    cases d with
    | obj fs => exact fault?_slot_obj s fs
    | _ => rcases s with (_ | _ | _) | _ <;> rw [fault?, Slot.role, Slot.raw, read] <;> rfl
  | _ => exact (fault?_of_ne_slot (by rintro s ⟨⟩) d).trans (map_attributed_none _).symm

end Position

end TreeLint.Dump
