import TreeLint.Proofs.DumpKeys
import TreeLint.Proofs.DumpReading
import TreeLint.Proofs.DumpWriting

/-!
# The format of a dump

The dumps express exactly the well-formed units. Every unit that is read from a document is
well-formed, and a well-formed unit is read back from its dump as it was: the name, the items with
all their fields, spans and origins, the definitions in their order and the traits for indexing.
Where the objects of a document have distinct keys, those of the unit do, and the other way round.

## Main results

* `exists_of_readUnit`: where the items and the definitions of a unit are read
* `readUnit_writeUnit`: a well-formed unit is read back from its dump
* `dumps_express_wellFormed_units`: the dumps express exactly the well-formed units
-/

namespace TreeLint.Dump

variable {Q : Document → Prop} {file : String} {d : Document} {unit : CompilationUnit}

/-! ## Units that are read -/

theorem of_field? (hQ : Document.Hereditary Q) {fs : List (String × Document)} (h : Q (.obj fs))
    (key : String) : Q ((Document.field? fs key).getD .null) := by
  cases hfield : Document.field? fs key with
  | none => exact hQ.null
  | some d => exact hQ.field h (key, d) (mem_of_lookup hfield)

/-- The items and the definitions of a unit are read from the fields of an object. -/
theorem exists_of_readUnit (h : readUnit file d = .ok unit) :
    ∃ fs inFile entries, d = .obj fs ∧
      (read inFile ((Document.field? fs "items").getD .null)).items = .ok unit.items ∧
      readTable .definitions ((Document.field? fs "definitions").getD .null) = .ok entries ∧
      unit.definitions = entries.map fun entry => (entry.1, entry.2.text) := by
  cases d with
  | obj fs =>
    simp only [readUnit, bind_eq_ok_iff, pure_eq_ok, Except.ok.injEq] at h
    obtain ⟨table, -, langItems, -, items, hitems, entries, hentries, rfl⟩ := h
    exact ⟨fs, _, entries, rfl, hitems, hentries, rfl⟩
  | _ => simp [readUnit] at h

/-- The items of a unit that was read are proper throughout. -/
theorem throughout_of_readUnit (hQ : Document.Hereditary Q) (hd : Q d)
    (h : readUnit file d = .ok unit) :
    ∀ i ∈ unit.items, (Node.item i).Throughout (Node.Proper Q) := by
  obtain ⟨fs, inFile, entries, rfl, hitems, -, -⟩ := exists_of_readUnit h
  exact (keeps_read hQ inFile _ (of_field? hQ hd "items")).items unit.items hitems

/-- What is read from a dump can be written as one. -/
theorem wellFormed_of_readUnit (h : readUnit file d = .ok unit) : unit.WellFormed := by
  rw [CompilationUnit.wellFormed_iff]
  intro i hi m hm
  exact (throughout_of_readUnit Document.hereditary_true trivial h i hi m hm).1

theorem nodup_keys_of_readTable {role : MappingRole} {entries : List (String × Document)}
    (hd : d.DistinctKeys) (h : readTable role d = .ok entries) :
    (entries.map Prod.fst).Nodup := by
  cases d with
  | obj fs =>
    cases h
    exact (Document.distinctKeys_obj_iff.mp hd).1
  | _ =>
    simp only [readTable] at h
    split at h <;> cases h
    simp

theorem distinctKeys_of_readUnit (hd : d.DistinctKeys) (h : readUnit file d = .ok unit) :
    unit.DistinctKeys := by
  rw [CompilationUnit.distinctKeys_iff]
  constructor
  · intro i hi m hm
    exact (throughout_of_readUnit Document.hereditary_distinctKeys hd h i hi m hm).2
  · obtain ⟨fs, inFile, entries, rfl, -, hentries, hdefinitions⟩ := exists_of_readUnit h
    have hkeys : unit.definitions.map Prod.fst = entries.map Prod.fst := by
      rw [hdefinitions, List.map_map]
      rfl
    rw [hkeys]
    exact nodup_keys_of_readTable
      (of_field? Document.hereditary_distinctKeys hd "definitions") hentries

/-! ## Units that are written -/

/-- A well-formed unit is read back from its dump, whatever file the dump is in. -/
theorem readUnit_writeUnit (h : unit.WellFormed) (file : String) :
    readUnit file (writeUnit unit) = .ok unit := by
  have hitems : (writeItems unit.items).mapM (fun d => (read file d).item) = .ok unit.items :=
    mapM_writeItems unit.items fun i hi =>
      readsBack_of_throughout (CompilationUnit.wellFormed_iff.mp h i hi)
  have hlangItems : readLangItems [("index", .str unit.langItems.index),
      ("index_mut", .str unit.langItems.indexMut)] = .ok unit.langItems := rfl
  simp [writeUnit, readUnit, Document.field?, List.lookup_cons, readTable, hitems, hlangItems,
    Function.comp_def]

/-- A unit with distinct keys is written as a document with distinct keys. -/
theorem distinctKeys_writeUnit (h : unit.DistinctKeys) : (writeUnit unit).DistinctKeys := by
  obtain ⟨hdocuments, hkeys⟩ := CompilationUnit.distinctKeys_iff.mp h
  have hitems : (Document.arr (writeItems unit.items)).DistinctKeys := by
    rw [writeItems_eq_map, Document.distinctKeys_arr_iff, List.forall_mem_map]
    exact fun i hi => distinctKeys_writeNode (hdocuments i hi)
  have hdefinitions :
      (Document.obj (unit.definitions.map fun d => (d.1, .str d.2))).DistinctKeys := by
    rw [Document.distinctKeys_obj_iff, List.map_map, List.forall_mem_map]
    exact ⟨hkeys, fun d _ => .str d.2⟩
  rw [writeUnit, Document.distinctKeys_obj_iff]
  simp only [List.forall_mem_cons]
  exact ⟨by simp, .str _, hitems, hdefinitions, by simp, List.forall_mem_nil _⟩

/-! ## The format -/

/-- The dumps express exactly the well-formed units. Whatever is read from a document is a
well-formed unit, and a well-formed unit is read back from its dump as it was, in whatever file the
dump is read. A unit that is read has distinct keys if its document does, and a unit with distinct
keys is written with them. -/
theorem dumps_express_wellFormed_units :
    (∀ file d unit, readUnit file d = .ok unit →
      unit.WellFormed ∧ (d.DistinctKeys → unit.DistinctKeys)) ∧
    (∀ file unit, CompilationUnit.WellFormed unit →
      readUnit file (writeUnit unit) = .ok unit ∧
        (unit.DistinctKeys → (writeUnit unit).DistinctKeys)) := by
  constructor
  · intro file d unit h
    exact ⟨wellFormed_of_readUnit h, fun hd => distinctKeys_of_readUnit hd h⟩
  · intro file unit h
    exact ⟨readUnit_writeUnit h file, distinctKeys_writeUnit⟩

/-- A dump that leaves out what has a default, and gives the spans by their positions where it
can. -/
def abbreviatedDump : Document :=
  .obj [("file", .str "src/lib.rs"),
    ("definitions", .obj [("unwrap", .str "core::option::unwrap")]),
    ("items", .arr [.obj [("kind", .str "fn"), ("name", .str "main"),
      ("span", .arr [.int 1, .int 1, .int 4, .int 2]),
      ("body", .obj [("span", .arr [.int 1, .int 11, .int 4, .int 2]),
        ("rules", .str "unsafe_user"),
        ("expr", .obj [("kind", .str "path"), ("path", .str "option::unwrap"),
          ("span", .obj [("line", .int 2), ("column", .int 5),
            ("origin", .obj [("kind", .str "macro"),
              ("call_site", .arr [.int 3, .int 5, .int 3, .int 9])])])])])]])]

/-- The unit of the abbreviated dump. -/
def abbreviatedUnit : CompilationUnit where
  name := "main"
  items :=
    let braces := .written ⟨"src/lib.rs", 1, 11, 4, 2⟩
    let site := .written ⟨"src/lib.rs", 3, 5, 3, 9⟩
    let tail := .path ["option", "unwrap"] (.expanded ⟨"src/lib.rs", 2, 5, 2, 5⟩ "" site) .null
    [.function "main" (.written ⟨"src/lib.rs", 1, 1, 4, 2⟩) .safe []
      (some (.mk [] braces (some tail) .uncheckedByUser braces))]
  definitions := [("unwrap", "core::option::unwrap")]
  langItems := {}

/-- The unit of the abbreviated dump is well-formed, and is read back from the dump that spells it
out. -/
theorem readUnit_abbreviatedDump :
    readUnit "src/main.rs" abbreviatedDump = .ok abbreviatedUnit ∧ abbreviatedUnit.WellFormed ∧
      readUnit "src/main.rs" (writeUnit abbreviatedUnit) = .ok abbreviatedUnit ∧
      (writeUnit abbreviatedUnit).DistinctKeys := by
  have hread : readUnit "src/main.rs" abbreviatedDump = .ok abbreviatedUnit := rfl
  obtain ⟨hwellFormed, hkeys⟩ := dumps_express_wellFormed_units.1 _ _ _ hread
  obtain ⟨hback, hwritten⟩ := dumps_express_wellFormed_units.2 "src/main.rs" _ hwellFormed
  have hdistinct : abbreviatedDump.DistinctKeys := by simp [abbreviatedDump]
  exact ⟨hread, hwellFormed, hback, hwritten (hkeys hdistinct)⟩

end TreeLint.Dump
