import TreeLint.Proofs.DumpFormat
import TreeLint.Proofs.Findings

/-!
# Definition ids

A dump declares definition ids in two tables: that of the traits for indexing, by their values, and
that of the definitions, by its keys. Nodes refer to the ids. The tables hold texts, whatever the
dump says, and a reference is kept as the dump gives it. So a reference finds its declaration if it
is a text, and a number or a truth value finds nothing, even where the declaration repeats it.

## Main definitions

* `Dump.declared?`: what a table of a dump declares for a key

## Main results

* `Dump.get_of_readLangItems`: the table of traits holds the texts of the declared values
* `Dump.isSome_langItem?_of_declared`, `Dump.resolve_of_declared`: a reference finds its declaration
  if and only if it is a text
* `declared_ids_found_iff_text`: what the rules make of references to declared ids
-/

namespace TreeLint

theorem LangItems.get_set (table : LangItems) (id : String) (item other : LangItem) :
    (table.set id item).get other = if item = other then id else table.get other := by
  cases item <;> cases other <;> rfl

theorem LangItem.name_inj {item other : LangItem} : item.name = other.name ↔ item = other := by
  cases item <;> cases other <;> simp [LangItem.name]

namespace Dump

/-- The value that a table of a dump declares for a key. -/
def declared? (dump : Document) (table key : String) : Option Document :=
  match dump with
  | .obj fs => match Document.field? fs table with
    | some (.obj entries) => Document.field? entries key
    | _ => none
  | _ => none

theorem declared?_eq_some_iff {dump d : Document} {table key : String} :
    declared? dump table key = some d ↔
      ∃ fs entries, dump = .obj fs ∧ Document.field? fs table = some (.obj entries) ∧
        Document.field? entries key = some d := by
  unfold declared?
  split
  · split
    · simp_all
    · simp_all
  · simp_all

/-! ## The table of the traits for indexing -/

theorem spelling_of_readMember {κ : Type} [Vocabulary κ] {word : String} {k : κ}
    (h : readMember (.str word) = .ok k) : Vocabulary.spelling k = word := by
  simp only [readMember] at h
  split at h
  · rename_i hfind
    cases h
    simpa using List.find?_some hfind
  · cases h

/-- The entries of a dump are set one by one, and no entry overwrites another. -/
theorem get_of_foldlM_set {entries : List (String × Document)} {start table : LangItems}
    (hkeys : (entries.map Prod.fst).Nodup)
    (h : entries.foldlM (fun table entry => do
      let item ← readMember (.str entry.1)
      pure (table.set entry.2.text item)) start = (.ok table : Except Fault LangItems))
    (item : LangItem) :
    table.get item = ((entries.lookup item.name).map Document.text).getD (start.get item) := by
  induction entries generalizing start with
  | nil =>
    cases h
    rfl
  | cons entry entries ih =>
    obtain ⟨hnew, hkeys⟩ := List.nodup_cons.mp hkeys
    rw [List.foldlM_cons, bind_eq_ok_iff] at h
    obtain ⟨next, hnext, h⟩ := h
    obtain ⟨member, hmember, hnext⟩ := bind_eq_ok_iff.mp hnext
    obtain rfl := Except.ok.inj hnext
    have hname : member.name = entry.1 := spelling_of_readMember hmember
    rw [ih hkeys h, LangItems.get_set, List.lookup_cons, ← hname]
    by_cases hitem : item = member
    · -- The key of this entry does not come again.
      have hlater : entries.lookup item.name = none := by
        rw [hitem, hname]
        exact lookup_eq_none_of_not_mem hnew
      rw [hlater, if_pos hitem.symm, hitem, beq_self_eq_true]
      rfl
    · have hother : (item.name == member.name) = false :=
        beq_eq_false_iff_ne.mpr (LangItem.name_inj.not.mpr hitem)
      rw [hother, if_neg fun heq => hitem heq.symm]

/-- The table of traits holds the texts of the values that the dump declares. -/
theorem get_of_readLangItems {entries : List (String × Document)} {table : LangItems}
    (hkeys : (entries.map Prod.fst).Nodup) (h : readLangItems entries = .ok table)
    {item : LangItem} {d : Document} (hd : entries.lookup item.name = some d) :
    table.get item = d.text := by
  rw [get_of_foldlM_set hkeys h item, hd]
  rfl

/-! ## References -/

section Reference

variable {file : String} {dump v target : Document} {unit : CompilationUnit}

/-- A lang item has the id that the dump declares for it. -/
theorem get_langItems_of_declared (hkeys : dump.DistinctKeys) (h : readUnit file dump = .ok unit)
    {item : LangItem} (hd : declared? dump "lang_items" item.name = some v) :
    unit.langItems.get item = v.text := by
  obtain ⟨fs, entries, rfl, htable, hentry⟩ := declared?_eq_some_iff.mp hd
  simp only [readUnit, bind_eq_ok_iff, pure_eq_ok, Except.ok.injEq, htable] at h
  obtain ⟨_, htable', langItems, hlangItems, _, -, _, -, rfl⟩ := h
  obtain rfl := Except.ok.inj htable'
  have hentries := of_field? Document.hereditary_distinctKeys hkeys "lang_items"
  rw [htable] at hentries
  exact get_of_readLangItems (Document.distinctKeys_obj_iff.mp hentries).1 hlangItems hentry

/-- A definition has the path that the dump declares for it. -/
theorem lookup_definitions_of_declared (h : readUnit file dump = .ok unit) {id : String}
    (hd : declared? dump "definitions" id = some target) :
    unit.definitions.lookup id = some target.text := by
  obtain ⟨fs, entries, rfl, htable, hentry⟩ := declared?_eq_some_iff.mp hd
  obtain ⟨fs', _, entries', hdump, -, htable', hdefinitions⟩ := exists_of_readUnit h
  obtain rfl := Document.obj.inj hdump
  rw [htable] at htable'
  obtain rfl := Except.ok.inj htable'
  rw [hdefinitions, lookup_map_value Document.text]
  exact congrArg (Option.map Document.text) hentry

/-- A reference to a declared trait finds it if and only if the reference is a text. -/
theorem isSome_langItem?_of_declared (hkeys : dump.DistinctKeys)
    (h : readUnit file dump = .ok unit) {item : LangItem}
    (hd : declared? dump "lang_items" item.name = some v) :
    (unit.langItem? v).isSome = v.isText := by
  rw [Bool.eq_iff_iff, langItem?_isSome_iff]
  constructor
  · rintro ⟨_, rfl⟩
    rfl
  · intro htext
    refine ⟨item, ?_⟩
    rw [get_langItems_of_declared hkeys h hd]
    cases v with
    | str id => rfl
    | _ => cases htext

/-- A reference to a declared definition finds its path if and only if the reference is a text. -/
theorem resolve_of_declared (h : readUnit file dump = .ok unit) (hv : ¬ v.isCompound)
    (hd : declared? dump "definitions" v.text = some target) :
    unit.resolve v = if v.isText then .path target.text else .unknown := by
  cases v with
  | str id => exact resolve_eq_path_iff.mpr ⟨id, rfl, lookup_definitions_of_declared h hd⟩
  | arr ds => exact absurd rfl hv
  | obj fs => exact absurd rfl hv
  | _ => rfl

end Reference

end Dump

/-! ## What the rules make of references -/

/-- **Declared ids are found by texts.** Take a dump with distinct keys that can be read, and a
value that is no array or object. Where the dump declares the value as the id of a trait for
indexing, an implementation whose trait refers to this value is reported if the value is a text, and
is not reported otherwise. Where the dump declares a definition under the text of the value, a call
whose callee refers to the value resolves to the path of the definition and is classified by it if
the value is a text; otherwise it resolves to nothing and is not reported. -/
theorem declared_ids_found_iff_text {file : String} {dump v : Document} {unit : CompilationUnit}
    (hkeys : dump.DistinctKeys) (hunit : Dump.readUnit file dump = .ok unit)
    (hv : ¬ v.isCompound) (maxDepth : Option Int) :
    let context : Context := ⟨unit, maxDepth⟩
    (∀ item : LangItem, Dump.declared? dump "lang_items" item.name = some v →
      ∀ selfType span path traitSpan safety items,
        (indexing.check context (.item (.implementation selfType span
          (some ⟨path, traitSpan, v⟩) safety items))).value =
          .reported (if v.isText then [Finding.diagnostic context indexing
            ⟨span, "Implementation of Index/IndexMut trait detected.", "index_impl"⟩] else [])) ∧
    (∀ target, Dump.declared? dump "definitions" v.text = some target →
      unit.resolve v = (if v.isText then .path target.text else .unknown) ∧
      ∀ segments pathSpan args span,
        (panicProne.check context (.expr (.call (.path segments pathSpan v) args span))).value =
          .reported (if v.isText then
            (backendFinding? span target.text).toList.map (Finding.diagnostic context panicProne)
            else [])) := by
  intro context
  refine ⟨fun item hd selfType span path traitSpan safety items => ?_, fun target hd => ?_⟩
  · rw [Rule.BuiltIn.indexing.finds]
    simp only [indexingFindings, context, Dump.isSome_langItem?_of_declared hkeys hunit hd]
    cases v.isText <;> rfl
  · have hresolve := Dump.resolve_of_declared hunit hv hd
    refine ⟨hresolve, fun segments pathSpan args span => ?_⟩
    rw [Rule.BuiltIn.panicProne.finds]
    simp only [panicFindings, context, hresolve]
    cases v.isText <;> rfl

/-- A dump that declares an id in both tables, with an implementation and a call that refer to
it. -/
def referringDump (id : Document) : Document :=
  let line : Int → Document := fun n => .arr [.int n, .int 1, .int n, .int 9]
  .obj [("lang_items", .obj [("index", id)]),
    ("definitions", .obj [(id.text, .str "core::panicking::panic")]),
    ("items", .arr [
      .obj [("kind", .str "impl"), ("self_ty", .str "Table"), ("span", line 1),
        ("trait", .obj [("path", .str "Index"), ("span", line 1), ("def_id", id)])],
      .obj [("kind", .str "const"), ("name", .str "K"), ("span", line 2),
        ("value", .obj [("kind", .str "call"), ("span", line 2),
          ("func", .obj [("kind", .str "path"), ("path", .str "panic"), ("span", line 2),
            ("def_id", id)])])]])]

/-- The unit of that dump. -/
def referringUnit (id : Document) : CompilationUnit where
  name := "lib"
  items :=
    let line : Int → Span := fun n => .written ⟨"lib.rs", n, 1, n, 9⟩
    [.implementation "Table" (line 1) (some ⟨"Index", line 1, id⟩) .safe [],
      .constant "K" (line 2) none (some (.call (.path ["panic"] (line 2) id) [] (line 2)))]
  definitions := [(id.text, "core::panicking::panic")]
  langItems := { index := id.text }

/-- Under the text `7` both references find their declarations. -/
theorem declared_ids_found_text :
    Dump.readUnit "lib.rs" (referringDump (.str "7")) = .ok (referringUnit (.str "7")) ∧
    (referringUnit (.str "7")).resolve (.str "7") = .path "core::panicking::panic" ∧
    (indexing.check ⟨referringUnit (.str "7"), none⟩ (.item (.implementation "Table"
      (.written ⟨"lib.rs", 1, 1, 1, 9⟩) (some ⟨"Index", .written ⟨"lib.rs", 1, 1, 1, 9⟩, .str "7"⟩)
      .safe []))).value =
      .reported [⟨"security_indexing_usage", .deny, .written ⟨"lib.rs", 1, 1, 1, 9⟩,
        "Implementation of Index/IndexMut trait detected.", .named "index_impl"⟩] := by
  have hunit : Dump.readUnit "lib.rs" (referringDump (.str "7")) = .ok (referringUnit (.str "7")) :=
    rfl
  have hkeys : (referringDump (.str "7")).DistinctKeys := by simp [referringDump]
  obtain ⟨htraits, hdefinitions⟩ :=
    declared_ids_found_iff_text hkeys hunit (v := .str "7") (by simp [Document.isCompound]) none
  refine ⟨hunit, (hdefinitions (.str "core::panicking::panic") rfl).1, ?_⟩
  rw [htraits .index rfl]
  exact congrArg Outcome.reported (by decide +kernel)

/-- Under the number `7` neither reference finds its declaration, and linting the unit reports
nothing. -/
theorem declared_ids_lost_number :
    Dump.readUnit "lib.rs" (referringDump (.int 7)) = .ok (referringUnit (.int 7)) ∧
    Dump.declared? (referringDump (.int 7)) "lang_items" "index" = some (.int 7) ∧
    Dump.declared? (referringDump (.int 7)) "definitions" "7" =
      some (.str "core::panicking::panic") ∧
    ∃ registry, (Registry.ofDocument (.obj [])).value = .ok registry ∧
      (lint registry (referringUnit (.int 7))).value.diagnostics = [] := by
  obtain ⟨registry, hregistry⟩ :
      ∃ registry, (Registry.ofDocument (.obj [])).value = .ok registry := ⟨_, rfl⟩
  refine ⟨rfl, rfl, rfl, registry, hregistry, ?_⟩
  rw [diagnostics_lint, Registry.entries_of_ofDocument hregistry]
  decide +kernel

end TreeLint
