import TreeLint.Dump.Unit
import TreeLint.Proofs.Loops

/-!
# Fields, sequences and nodes of a dump

What the readers of a dump do at one layer of a document, said once for all of them: a field is read
where it stands in its object, a sequence is read element by element, and a node is read by its
kind.

## Main results

* `lookup_readFields` and its kin: the fields of an object are read where they stand
* `readSequence_arr`: an array is read element by element
* `readNode_eq_ok_iff`: a node is read if it names a kind and is read as one of that kind
-/

namespace TreeLint.Dump

variable {α β : Type} {file key : String} {fs : List (String × Document)}

/-! ## Faults and results -/

@[simp]
theorem pure_eq_ok (a : α) : (pure a : Except Fault α) = .ok a := rfl

/-- A computation in two steps succeeds exactly if both of its steps do. -/
theorem bind_eq_ok_iff {x : Except Fault α} {f : α → Except Fault β} {b : β} :
    x >>= f = .ok b ↔ ∃ a, x = .ok a ∧ f a = .ok b := by
  cases x with
  | error fault => simp
  | ok a => simp

theorem mapError_eq_ok_iff {f : Fault → Fault} {x : Except Fault α} {a : α} :
    x.mapError f = .ok a ↔ x = .ok a := by
  cases x with
  | error fault => constructor <;> rintro ⟨⟩
  | ok b => exact Iff.rfl

/-! ## The fields of an object -/

@[simp]
theorem text_str (s : String) : (Document.str s).text = s := rfl

@[simp]
theorem holds_bool (b : Bool) : (Document.bool b).holds = b := rfl

theorem mem_of_lookup {fields : List (String × α)} {a : α} (h : fields.lookup key = some a) :
    (key, a) ∈ fields := by
  obtain ⟨before, after, rfl, -⟩ := List.lookup_eq_some_iff.mp h
  simp

theorem lookup_eq_none_of_not_mem {fields : List (String × α)} (h : key ∉ fields.map Prod.fst) :
    fields.lookup key = none := by
  rw [List.lookup_eq_none_iff]
  intro field hfield
  have hne : key ≠ field.1 := by
    rintro rfl
    exact h (List.mem_map_of_mem hfield)
  simpa using hne

theorem lookup_map_value (f : α → β) (fields : List (String × α)) (key : String) :
    (fields.map fun field => (field.1, f field.2)).lookup key = (fields.lookup key).map f := by
  induction fields with
  | nil => rfl
  | cons field fields ih =>
    rw [List.map_cons, List.lookup_cons, List.lookup_cons, ih]
    cases key == field.1 <;> rfl

/-- Reading the fields of an object keeps their keys and documents. -/
theorem lookup_readFields (file : String) (fs : List (String × Document)) (key : String) :
    (readFields file fs).lookup key = (fs.lookup key).map fun d => ⟨d, read file d⟩ := by
  rw [readFields_eq_map]
  exact lookup_map_value (fun d => Part.mk d (read file d)) fs key

@[simp]
theorem require_readFields :
    (readFields file fs).require key = match fs.lookup key with
      | some d => .ok ⟨d, read file d⟩
      | none => .error (.absent key) := by
  rw [Fields.require, lookup_readFields]
  cases fs.lookup key <;> rfl

@[simp]
theorem valueOr_readFields (default : Document) :
    (readFields file fs).valueOr key default = (fs.lookup key).getD default := by
  rw [Fields.valueOr, lookup_readFields]
  cases fs.lookup key <;> rfl

@[simp]
theorem value_readFields : (readFields file fs).value key = (fs.lookup key).getD .null :=
  valueOr_readFields .null

@[simp]
theorem text_readFields :
    (readFields file fs).text key = match fs.lookup key with
      | some d => .ok d.text
      | none => .error (.absent key) := by
  rw [Fields.text, require_readFields]
  cases fs.lookup key <;> rfl

@[simp]
theorem get_readFields (role : Reading → Except Fault α) :
    (readFields file fs).get key role = match fs.lookup key with
      | some d => role (read file d)
      | none => .error (.absent key) := by
  rw [Fields.get, require_readFields]
  cases fs.lookup key <;> rfl

/-- A sequence that is missing is empty. -/
@[simp]
theorem sequence_readFields (role : Reading → Except Fault (List α)) :
    (readFields file fs).sequence key role = match fs.lookup key with
      | some d => role (read file d)
      | none => .ok [] := by
  rw [Fields.sequence, lookup_readFields]
  cases fs.lookup key <;> rfl

/-- A field is given if it is there and not null. -/
@[simp]
theorem given?_readFields :
    (readFields file fs).given? key =
      ((fs.lookup key).filter (!·.isNull)).map fun d => ⟨d, read file d⟩ := by
  rw [Fields.given?, lookup_readFields]
  cases fs.lookup key with
  | none => rfl
  | some d => cases hd : d.isNull <;> simp [Option.filter, hd]

/-- A field that is given is read in its role, and one that is not has no fault. -/
@[simp]
theorem optional_readFields (role : Reading → Except Fault α) :
    (readFields file fs).optional key role =
      ((fs.lookup key).filter (!·.isNull)).mapM fun d => role (read file d) := by
  rw [Fields.optional, given?_readFields]
  cases (fs.lookup key).filter (!·.isNull) <;> rfl

/-- A node is unchecked exactly if its flag is there and holds. -/
@[simp]
theorem safety_readFields :
    (readFields file fs).safety =
      if ((fs.lookup "unsafe").getD .null).holds then .unchecked else .safe := by
  rw [Fields.safety, value_readFields]

/-! ## Sequences -/

/-- A sequence is read element by element, and its fault is that of the first element that has one.
-/
theorem readSequence_arr (file : String) (ds : List Document) (role : Reading → Except Fault α)
    (ofText : Document → Fields → Except Fault α) :
    readSequence (.arr ds) (readAll file ds) role ofText =
      ds.mapM fun d => role (read file d) := by
  rw [readSequence, readAll_eq_map, List.mapM_map]
  rfl

@[simp]
theorem patterns_arr (ds : List Document) :
    (read file (.arr ds)).patterns = ds.mapM fun d => (read file d).pattern := by
  rw [read]
  exact readSequence_arr file ds Reading.pattern readPattern

@[simp]
theorem params_arr (ds : List Document) :
    (read file (.arr ds)).params = ds.mapM fun d => (read file d).param := by
  rw [read]
  exact readSequence_arr file ds Reading.param readParam

@[simp]
theorem exprs_arr (ds : List Document) :
    (read file (.arr ds)).exprs = ds.mapM fun d => (read file d).expr := by
  rw [read]
  exact readSequence_arr file ds Reading.expr readExpr

@[simp]
theorem stmts_arr (ds : List Document) :
    (read file (.arr ds)).stmts = ds.mapM fun d => (read file d).stmt := by
  rw [read]
  exact readSequence_arr file ds Reading.stmt readStmt

@[simp]
theorem items_arr (ds : List Document) :
    (read file (.arr ds)).items = ds.mapM fun d => (read file d).item := by
  rw [read]
  exact readSequence_arr file ds Reading.item readItem

/-! ## Nodes -/

/-- A node is read if it is an object that names a kind, and is read as a node of that kind. -/
theorem readNode_eq_ok_iff {κ : Type} [Vocabulary κ] {sort : NodeSort} {d : Document}
    {fields : Fields} {build : κ → Except Fault α} {a : α} :
    readNode sort d fields build = .ok a ↔
      ∃ fs word k, d = .obj fs ∧ fields.value "kind" = .str word ∧
        Vocabulary.find? word = some k ∧ build k = .ok a := by
  cases d with
  | obj fs =>
    cases hvalue : fields.value "kind" with
    | str word =>
      cases hfind : Vocabulary.find? (α := κ) word with
      | none => simp [readNode, hvalue, hfind]
      | some k =>
        simp [readNode, hvalue, hfind, mapError_eq_ok_iff]
    | _ => simp [readNode, hvalue]
  | _ => simp [readNode]

end TreeLint.Dump
