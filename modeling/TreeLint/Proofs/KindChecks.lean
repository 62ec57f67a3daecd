import TreeLint.Proofs.DumpPositions

/-!
# Which nodes are asked for their kind

A place is a dump with a hole where a node stands, at any depth. The nodes of a unit are what the
objects at the places of its dump are read as. In most places an object has to name a kind of its
sort, and one that names none is the fault of the whole dump. The body of a function, the
consequence of a conditional and the alternative of a binding are read as blocks whatever they name,
so a misspelt kind passes there unnoticed.

## Main definitions

* `Frame.IsRoot`: a whole dump with a hole among its items
* `Place`: a dump with a hole in the place of a node
* `Place.LeadsTo`: the position of the hole
* `Place.Reached`: all that is read before the hole can be read
* `Slot.Named`: an object names a kind of a position

## Main results

* `Place.LeadsTo.exists_mem_walk`, `exists_place_of_mem_walk`: the nodes of a unit are those read in
  the places of its dump
* `Place.Reached.readUnit_error`: a fault in a place that is reached is the fault of the dump
* `kinds_asked_except_for_blocks`: kinds are asked for in all places but those of blocks
-/

namespace TreeLint.Dump

open Loops (map_mapM ok_bind)

variable {defaultFile : String} {d : Document} {fs fs' : List (String × Document)}
  {unit : CompilationUnit}

/-! ## The items of a dump -/

/-- The file of a dump. -/
def unitFile (defaultFile : String) (fs : List (String × Document)) : String :=
  ((Document.field? fs "file").getD (.str defaultFile)).text

/-- The items of a dump. -/
def unitItems (defaultFile : String) (fs : List (String × Document)) : Except Fault (List Item) :=
  (read (unitFile defaultFile fs) ((Document.field? fs "items").getD .null)).items

/-- The lang items of a dump, which are read before its items. -/
def unitLangItems (fs : List (String × Document)) : Except Fault LangItems :=
  readTable .langItems ((Document.field? fs "lang_items").getD .null) >>= readLangItems

/-- A unit that is read has the lang items and the items of its object. -/
theorem of_readUnit (h : readUnit defaultFile (.obj fs) = .ok unit) :
    unitLangItems fs = .ok unit.langItems ∧ unitItems defaultFile fs = .ok unit.items := by
  simp only [readUnit, bind_eq_ok_iff, pure_eq_ok, Except.ok.injEq] at h
  obtain ⟨entries, hentries, table, htable, items, hitems, -, -, rfl⟩ := h
  exact ⟨bind_eq_ok_iff.mpr ⟨entries, hentries, htable⟩, hitems⟩

/-- A unit depends on the fields of its dump other than the items, and on what the items are. -/
theorem readUnit_congr (hother : ∀ key, key ≠ "items" → fs.lookup key = fs'.lookup key)
    (hitems : unitItems defaultFile fs = unitItems defaultFile fs') :
    readUnit defaultFile (.obj fs) = readUnit defaultFile (.obj fs') := by
  unfold unitItems unitFile at hitems
  simp only [readUnit, Document.field?] at hitems ⊢
  rw [hitems, hother "lang_items" (by decide), hother "unit" (by decide),
    hother "definitions" (by decide)]

/-- A fault in the items of a dump is its fault, if its lang items can be read. -/
theorem readUnit_of_unitItems_error {table : LangItems} (htable : unitLangItems fs = .ok table)
    {fault : Fault} (herror : unitItems defaultFile fs = .error fault) :
    readUnit defaultFile (.obj fs) = .error fault := by
  obtain ⟨entries, hentries, htable⟩ := bind_eq_ok_iff.mp htable
  unfold unitItems unitFile at herror
  simp only [readUnit]
  rw [hentries, ok_bind, htable, ok_bind, herror]
  rfl

namespace Frame

variable {f : Frame}

/-- The object is a whole dump with a hole among its items. -/
structure IsRoot (f : Frame) : Prop where
  key_eq : f.key = "items"
  many : f.siblings.isSome
  first : f.key ∉ f.before.map Prod.fst

namespace IsRoot

theorem lookup_fields (h : f.IsRoot) {key : String} (hkey : key ≠ "items") :
    (f.fields d).lookup key = f.rest.lookup key := by
  apply lookup_fields_of_ne
  rw [h.key_eq]
  exact hkey

theorem unitFile_fields (h : f.IsRoot) :
    unitFile defaultFile (f.fields d) = unitFile defaultFile f.rest := by
  rw [unitFile, unitFile, Document.field?, Document.field?, h.lookup_fields (by decide)]

theorem unitLangItems_fields (h : f.IsRoot) :
    unitLangItems (f.fields d) = unitLangItems f.rest := by
  rw [unitLangItems, unitLangItems, Document.field?, Document.field?, h.lookup_fields (by decide)]

/-- The items of the dump are read one by one. -/
theorem map_unitItems (h : f.IsRoot) :
    (unitItems defaultFile (f.fields d)).map (List.map Node.item) =
      (f.elements d).mapM fun x =>
        (Slot.node .item).role (read (unitFile defaultFile f.rest) x) := by
  have hitems : (f.fields d).lookup "items" = some (.arr (f.elements d)) := by
    obtain ⟨sides, hsides⟩ := Option.isSome_iff_exists.mp h.many
    rw [← h.key_eq, lookup_fields_self h.first, value, hsides]
  rw [unitItems, h.unitFile_fields, Document.field?, hitems, Option.getD_some, items_arr]
  exact map_mapM _ _ _

/-- The items of a unit are read from the elements of the frame, in the file of the unit. -/
theorem mapM_elements_of_readUnit (h : f.IsRoot)
    (hok : readUnit defaultFile (f.plug d) = .ok unit) :
    ((f.elements d).mapM fun x =>
      (Slot.node .item).role (read (unitFile defaultFile f.rest) x)) = .ok unit.roots := by
  rw [← h.map_unitItems, (of_readUnit hok).2]
  rfl

end IsRoot

/-- Every item of a unit is read in the hole of its dump. -/
theorem exists_isRoot {item : Item} (hok : readUnit defaultFile d = .ok unit)
    (hitem : item ∈ unit.items) :
    ∃ f x, IsRoot f ∧ d = f.plug x ∧
      (Slot.node .item).role (read (unitFile defaultFile f.rest) x) = .ok (.item item) := by
  cases d with
  | obj fs =>
    have hitems : Slot.raws .item (read (unitFile defaultFile fs)
        ((Document.field? fs "items").getD .null)) = .ok unit.items := (of_readUnit hok).2
    obtain ⟨ds, hds, x, hx, hraw⟩ := Slot.exists_of_raws hitems hitem
    have hlookup : fs.lookup "items" = some (.arr ds) := by
      rw [Document.field?] at hds
      cases hfield : fs.lookup "items" with
      | none =>
        rw [hfield] at hds
        cases hds
      | some value =>
        rw [hfield] at hds
        exact congrArg some hds
    obtain ⟨before, after, rfl, hfirst⟩ := exists_split_of_lookup hlookup
    obtain ⟨left, right, rfl⟩ := List.append_of_mem hx
    have hroot : IsRoot ⟨before, "items", some (left, right), after⟩ := ⟨rfl, rfl, hfirst⟩
    refine ⟨_, x, hroot, rfl, ?_⟩
    rw [← hroot.unitFile_fields (d := x)]
    exact map_eq_ok_iff.mpr ⟨item, hraw, rfl⟩
  | _ => cases hok

end Frame

/-! ## Places -/

/-- A dump with a hole in the place of a node: the whole dump with a hole among its items, and the
objects around the place below it. -/
structure Place where
  root : Frame
  frames : List Frame

namespace Place

variable {p : Place} {slot : Slot}

/-- The dump, when a document is put into the place. -/
def plug (p : Place) (d : Document) : Document :=
  p.root.plug (plugAll p.frames d)

/-- The file of the dump. -/
def file (p : Place) (defaultFile : String) : String :=
  unitFile defaultFile p.root.rest

/-- The place is at a position of the dump. -/
structure LeadsTo (p : Place) (slot : Slot) : Prop where
  root : p.root.IsRoot
  leads : Leads (.node .item) p.frames slot

/-- Reading comes to the place: all that is read before it can be read. -/
structure Reached (p : Place) (defaultFile : String) (slot : Slot) : Prop where
  root : p.root.IsRoot
  langItems : ∃ table, unitLangItems p.root.rest = .ok table
  left : ∀ x ∈ p.root.left, ∃ n, (Slot.node .item).role (read (p.file defaultFile) x) = .ok n
  reaches : Reaches (p.file defaultFile) (.node .item) p.frames slot

/-- Objects that are read as the same node in the place cannot be told apart. -/
theorem LeadsTo.readUnit_congr (h : p.LeadsTo slot)
    (heq : slot.role (read (p.file defaultFile) (.obj fs)) =
      slot.role (read (p.file defaultFile) (.obj fs'))) :
    readUnit defaultFile (p.plug (.obj fs)) = readUnit defaultFile (p.plug (.obj fs')) := by
  apply Dump.readUnit_congr
  · intro key hkey
    rw [h.root.lookup_fields hkey, h.root.lookup_fields hkey]
  · apply map_injective (List.map_injective_iff.mpr (Slot.toNode_injective (.node .item)))
    refine h.root.map_unitItems.trans (Eq.trans ?_ h.root.map_unitItems.symm)
    exact Frame.mapM_elements_congr (h.leads.role_congr heq)

/-- If the dump can be read, then the object in the place is read as a node of the unit. -/
theorem LeadsTo.exists_mem_walk (h : p.LeadsTo slot)
    (hok : readUnit defaultFile (p.plug (.obj fs)) = .ok unit) :
    ∃ n ∈ walk unit.roots, slot.role (read (p.file defaultFile) (.obj fs)) = .ok n := by
  obtain ⟨root, hroot, hrole⟩ :=
    Frame.exists_of_mapM_elements (h.root.mapM_elements_of_readUnit hok)
  obtain ⟨n, hn, hnode⟩ := h.leads.exists_mem_preorder hrole
  refine ⟨n, ?_, hnode⟩
  rw [walk_eq_flatMap]
  exact List.mem_flatMap.mpr ⟨root, hroot, hn⟩

/-- The place is reached if the dump can be read with some object in it. -/
theorem LeadsTo.reached (h : p.LeadsTo slot)
    (hok : readUnit defaultFile (p.plug (.obj fs)) = .ok unit) : p.Reached defaultFile slot := by
  have hloop := h.root.mapM_elements_of_readUnit hok
  obtain ⟨root, -, hroot⟩ := Frame.exists_of_mapM_elements hloop
  refine ⟨h.root, ⟨unit.langItems, ?_⟩, Frame.left_of_mapM_elements hloop, h.leads.reaches hroot⟩
  rw [← h.root.unitLangItems_fields]
  exact (of_readUnit hok).1

/-- A fault in a place that is reached is the fault of the dump. -/
theorem Reached.readUnit_error (h : p.Reached defaultFile slot) {fault : Fault}
    (herror : slot.role (read (p.file defaultFile) (.obj fs)) = .error fault)
    (hne : ∀ key, fault ≠ .absent key) :
    readUnit defaultFile (p.plug (.obj fs)) = .error fault := by
  have hitem := h.reaches.role_error herror hne
  have hitems : (unitItems defaultFile (p.root.fields (plugAll p.frames (.obj fs)))).map
      (List.map Node.item) = .error fault := by
    rw [h.root.map_unitItems]
    exact Frame.mapM_elements_of_error h.left hitem
  obtain ⟨table, htable⟩ := h.langItems
  rw [← h.root.unitLangItems_fields] at htable
  refine readUnit_of_unitItems_error htable ?_
  rw [← faultOf?_eq_some_iff, ← faultOf?_map (List.map Node.item), hitems]
  rfl

end Place

/-- Every node of a unit is read in a place of its dump. -/
theorem exists_place_of_mem_walk {n : Node} (hok : readUnit defaultFile d = .ok unit)
    (hn : n ∈ walk unit.roots) :
    ∃ p slot fs, Place.LeadsTo p slot ∧ d = p.plug (.obj fs) ∧
      slot.role (read (p.file defaultFile) (.obj fs)) = .ok n := by
  rw [walk_eq_flatMap, List.mem_flatMap] at hn
  obtain ⟨root, hroot, hbelow⟩ := hn
  obtain ⟨item, hitem, rfl⟩ := List.mem_map.mp hroot
  obtain ⟨f, x, hf, rfl, hrole⟩ := Frame.exists_isRoot hok hitem
  obtain ⟨frames, slot, fs, leads, rfl, hnode⟩ := exists_leads_of_mem_preorder hrole hbelow
  exact ⟨⟨f, frames⟩, slot, fs, ⟨hf, leads⟩, rfl, hnode⟩

/-! ## Kinds -/

theorem find?_eq_none_iff_not_mem {κ : Type} [Vocabulary κ] {word : String} :
    (Vocabulary.find? word : Option κ) = none ↔
      word ∉ (Vocabulary.members : List κ).map Vocabulary.spelling := by
  simp [Vocabulary.find?]

/-- The words for the kinds of a sort. -/
def sortWords : NodeSort → List String
  | .expression => (Vocabulary.members : List ExprKind).map Vocabulary.spelling
  | .statement => (Vocabulary.members : List StmtKind).map Vocabulary.spelling
  | .item => (Vocabulary.members : List ItemKind).map Vocabulary.spelling

namespace Slot

variable {sort : NodeSort}

/-- The words for the kinds that belong in a position. -/
def words : Slot → List String
  | node sort => sortWords sort
  | block => [ExprKind.block.name]

/-- The object names a kind that belongs in the position. -/
def Named (slot : Slot) (fs : List (String × Document)) : Prop :=
  ∃ word ∈ slot.words, Document.field? fs "kind" = some (.str word)

/-- An object that is read as no kind of a sort names none. -/
theorem kind?_eq_none_iff : (node sort).kind? fs = none ↔ ¬ (node sort).Named fs := by
  have hnamed : ¬ (node sort).Named fs ↔
      ∀ word, kindWord? fs = some word → word ∉ sortWords sort := by
    simp only [kindWord?_eq_some_iff, Named, words, not_exists, not_and]
    exact forall_congr' fun word => imp_not_comm
  rw [hnamed]
  cases sort
  all_goals
    simp only [kind?, Option.map_eq_none_iff, Option.bind_eq_none_iff, find?_eq_none_iff_not_mem,
      sortWords]

/-- A block does not depend on the kind that it names. -/
theorem role_block_congr {file : String}
    (h : ∀ key, key ≠ "kind" → fs.lookup key = fs'.lookup key) :
    block.role (read file (.obj fs)) = block.role (read file (.obj fs')) := by
  have hkeys : ∀ c ∈ consults .block, ∀ key ∈ c.keys, key ≠ "kind" := by decide
  have hread : readKind (.obj fs) (readFields file fs) .block =
      readKind (.obj fs') (readFields file fs') .block := by
    apply readKind_congr
    intro c hc
    apply Consult.agrees_of_lookup
    intro key hkey
    rw [lookup_readFields, lookup_readFields, h key (hkeys c hc key hkey)]
  rw [role_obj rfl, role_obj rfl, hread]
  rfl

end Slot

theorem kindFault_ne_absent (sort : NodeSort) (key : String) : kindFault sort fs ≠ .absent key := by
  unfold kindFault
  split <;> simp

/-- An object that names no kind is refused with a message, unless what it names cannot be a key. -/
theorem faultClass_kindFault (sort : NodeSort) :
    (kindFault sort fs).faultClass = .refused ↔
      ((Document.field? fs "kind").getD .null).isCompound = false := by
  unfold kindFault
  cases (Document.field? fs "kind").getD .null <;> simp [Fault.faultClass, Document.isCompound]

/-- **Kinds are asked for except where a block is read.** The nodes of a unit are what the objects
in the places of its dump are read as. An object in the place of a node has to name a kind of the
node's sort. One that names none is the fault of the dump if the place is reached, as it is where
the dump can be read with another object there. In the place of a block the kind is not looked
at. -/
theorem kinds_asked_except_for_blocks (defaultFile : String) :
    (∀ d unit, readUnit defaultFile d = .ok unit → ∀ n, n ∈ walk unit.roots ↔
      ∃ p slot fs, Place.LeadsTo p slot ∧ d = p.plug (.obj fs) ∧
        slot.role (read (p.file defaultFile) (.obj fs)) = .ok n) ∧
    (∀ p slot fs unit, Place.LeadsTo p slot →
      readUnit defaultFile (p.plug (.obj fs)) = .ok unit → p.Reached defaultFile slot) ∧
    (∀ p sort fs unit, Place.LeadsTo p (.node sort) →
      readUnit defaultFile (p.plug (.obj fs)) = .ok unit → (Slot.node sort).Named fs) ∧
    (∀ p sort fs, Place.Reached p defaultFile (.node sort) → ¬ (Slot.node sort).Named fs →
      readUnit defaultFile (p.plug (.obj fs)) = .error (kindFault sort fs) ∧
        ((kindFault sort fs).faultClass = .refused ↔
          ((Document.field? fs "kind").getD .null).isCompound = false)) ∧
    (∀ p fs fs', Place.LeadsTo p .block →
      (∀ key, key ≠ "kind" → Document.field? fs key = Document.field? fs' key) →
      readUnit defaultFile (p.plug (.obj fs)) = readUnit defaultFile (p.plug (.obj fs'))) := by
  refine ⟨?_, ?_, ?_, ?_, ?_⟩
  · intro d unit hok n
    constructor
    · exact exists_place_of_mem_walk hok
    · rintro ⟨p, slot, fs, hleads, rfl, hrole⟩
      obtain ⟨m, hm, hread⟩ := hleads.exists_mem_walk hok
      rw [hrole] at hread
      cases hread
      exact hm
  · intro p slot fs unit hleads hok
    exact hleads.reached hok
  · intro p sort fs unit hleads hok
    by_contra hnamed
    obtain ⟨n, -, hread⟩ := hleads.exists_mem_walk hok
    rw [Slot.role_obj_of_no_kind (Slot.kind?_eq_none_iff.mpr hnamed)] at hread
    cases hread
  · intro p sort fs hreached hnamed
    have herror : (Slot.node sort).role (read (p.file defaultFile) (.obj fs)) =
        .error (kindFault sort fs) :=
      Slot.role_obj_of_no_kind (Slot.kind?_eq_none_iff.mpr hnamed)
    exact ⟨hreached.readUnit_error herror (kindFault_ne_absent sort), faultClass_kindFault sort⟩
  · intro p fs fs' hleads hother
    exact hleads.readUnit_congr (Slot.role_block_congr hother)

/-- A function without its body. -/
def functionFrame : Frame where
  before := [("kind", .str "fn"), ("name", .str "f"),
    ("span", .arr [.int 1, .int 1, .int 3, .int 2])]
  key := "body"
  siblings := none
  after := []

/-- A block that names no kind, without its only statement. -/
def blockFrame : Frame where
  before := [("span", .arr [.int 1, .int 8, .int 3, .int 2])]
  key := "stmts"
  siblings := some ([], [])
  after := []

/-- A statement without its expression. -/
def statementFrame : Frame where
  before := [("kind", .str "expr"), ("span", .arr [.int 2, .int 3, .int 2, .int 5])]
  key := "expr"
  siblings := none
  after := []

/-- The place of the body in a dump with one function. -/
def functionBody : Place where
  root := ⟨[("unit", .str "u")], "items", some ([], []), []⟩
  frames := [functionFrame]

/-- The place of an expression that is a statement of the body. -/
def bodyExpression : Place where
  root := functionBody.root
  frames := [functionFrame, blockFrame, statementFrame]

/-- An object that names a kind and has a span. -/
def spanned (kind : String) : List (String × Document) :=
  [("kind", .str kind), ("span", .arr [.int 1, .int 8, .int 3, .int 2])]

theorem functionFrame_fits :
    functionFrame.Fits (.node .item) (.item .function) (.optional "body" .block) :=
  ⟨rfl, by decide, rfl, rfl, by decide⟩

theorem functionBody_leadsTo : functionBody.LeadsTo .block :=
  ⟨⟨rfl, rfl, by decide⟩, .under functionFrame_fits .here⟩

theorem bodyExpression_leadsTo : bodyExpression.LeadsTo (.node .expression) := by
  have hblock : blockFrame.Fits .block .block (.many "stmts" .statement) :=
    ⟨rfl, by decide, rfl, rfl, by decide⟩
  have hstatement : statementFrame.Fits (.node .statement) (.stmt .expr)
      (.one "expr" (.node .expression)) := ⟨rfl, by decide, rfl, rfl, by decide⟩
  exact ⟨functionBody_leadsTo.root,
    .under functionFrame_fits (.under hblock (.under hstatement .here))⟩

/-- A misspelt literal is refused, and a misspelt body is not told from one that is spelt right. -/
theorem kinds_asked_bodyExpression :
    (∃ unit, readUnit "u.json" (bodyExpression.plug (.obj (spanned "lit"))) = .ok unit) ∧
    readUnit "u.json" (bodyExpression.plug (.obj (spanned "litt"))) =
      .error (.unknownKind .expression (.str "litt")) ∧
    readUnit "u.json" (functionBody.plug (.obj (spanned "blok"))) =
      readUnit "u.json" (functionBody.plug (.obj (spanned "block"))) := by
  obtain ⟨-, hreached, -, hrefused, hblocks⟩ := kinds_asked_except_for_blocks "u.json"
  have hnamed : ¬ (Slot.node .expression).Named (spanned "litt") := Slot.kind?_eq_none_iff.mp rfl
  refine ⟨⟨_, rfl⟩, ?_, ?_⟩
  · have hplace := hreached _ _ (spanned "lit") _ bodyExpression_leadsTo rfl
    exact (hrefused _ _ _ hplace hnamed).1
  · refine hblocks _ _ _ functionBody_leadsTo fun key hkey => ?_
    simp [Document.field?, spanned, List.lookup_cons, beq_false_of_ne hkey]

/-- A function is accepted though its body names no kind that there is. -/
theorem misspelt_body_accepted :
    functionBody.LeadsTo .block ∧ ¬ Slot.block.Named (spanned "blok") ∧
      ∃ unit, readUnit "u.json" (functionBody.plug (.obj (spanned "blok"))) = .ok unit := by
  refine ⟨functionBody_leadsTo, ?_, _, rfl⟩
  rintro ⟨word, hword, hkind⟩
  cases List.mem_singleton.mp hword
  simp [spanned, Document.field?, ExprKind.name] at hkind

end TreeLint.Dump
