import Mathlib.Data.List.Nodup
import Mathlib.Data.List.Perm.Basic
import TreeLint.Proofs.FileTrees
import TreeLint.Proofs.Orders

/-!
# The order in which dumps are found

Beneath a directory dumps are found by sorting all paths at once. Because paths are compared name by
name, this is the order of a depth-first traversal that takes the entries of every directory in the
order of their names: all that is beneath a directory comes before a sibling whose name is longer by
a suffix. It does not matter in which order the entries are listed before they are sorted.

## Main definitions

* `IsSuffixOf`: the suffix of a name
* `FileTree.Proper`: no directory has two entries of one name
* `FileTree.Enumerates`: a list has every entry beneath a tree once
* `FileTree.depthFirst`: the entries beneath a tree, in depth-first order
* `FileTree.dumpsUnder`: the dumps that a root leads to, in depth-first order

## Main results

* `isSuffixOf_iff`: what the suffix of a name is
* `FileTree.Proper.pairwise_depthFirst`: the traversal goes through the paths in their order
* `FileTree.Proper.enumerates_depthFirst`: it meets every entry once
* `FileTree.Enumerates.mergeSort_eq`: sorting all paths gives the order of the traversal
* `discoverAll_is_depth_first`: the dumps that roots lead to
-/

namespace TreeLint

/-! ## Suffixes -/

/-- The last dot of a name divides it into a stem and an extension, neither of which is empty. -/
structure Divided (name : String) (stem extension : List Char) : Prop where
  text : name.toList = stem ++ '.' :: extension
  stem_ne_nil : stem ≠ []
  extension_ne_nil : extension ≠ []
  last : '.' ∉ extension

/-- The suffix of a name is its extension with the dot. A name without a stem or an extension has
the empty suffix. -/
def IsSuffixOf (suffix name : String) : Prop :=
  (∃ stem extension, Divided name stem extension ∧ suffix = .ofList ('.' :: extension)) ∨
    (suffix = "" ∧ ∀ stem extension, ¬ Divided name stem extension)

section Suffixes

variable {name suffix : String} {stem extension : List Char}

/-- A name is split at its last dot, unless that is its first or its last character. -/
theorem splitSuffix_of_last_dot (htext : name.toList = stem ++ '.' :: extension)
    (hlast : '.' ∉ extension) :
    splitSuffix name = if extension = [] ∨ stem = [] then (name, "")
      else (.ofList stem, .ofList ('.' :: extension)) := by
  have hafter : (name.toList.reverse.takeWhile (· != '.')).reverse = extension := by
    have hall : ∀ c ∈ extension.reverse, (c != '.') = true := by
      intro c hc
      rw [bne_iff_ne]
      rintro rfl
      exact hlast (List.mem_reverse.mp hc)
    rw [htext]
    simp [List.takeWhile_append_of_pos hall]
  have hlength : name.toList.length - extension.length - 1 = stem.length := by
    rw [htext, List.length_append, List.length_cons]
    omega
  have hbefore : name.toList.take stem.length = stem := by
    rw [htext, List.take_left]
  have hdot : '.' ∈ name.toList := by simp [htext]
  simp [splitSuffix, hafter, hlength, hbefore, hdot]

theorem Divided.suffix_eq (h : Divided name stem extension) :
    (splitSuffix name).2 = .ofList ('.' :: extension) := by
  rw [splitSuffix_of_last_dot h.text h.last, if_neg]
  rintro (hnil | hnil)
  · exact h.extension_ne_nil hnil
  · exact h.stem_ne_nil hnil

theorem suffix_eq_of_not_divided (h : ∀ stem extension, ¬ Divided name stem extension) :
    (splitSuffix name).2 = "" := by
  by_cases hdot : '.' ∈ name.toList
  · obtain ⟨after, before, hreverse, hlast⟩ :=
      List.eq_append_cons_of_mem (List.mem_reverse.mpr hdot)
    have htext : name.toList = before.reverse ++ '.' :: after.reverse := by
      rw [← List.reverse_reverse name.toList, hreverse]
      simp
    have hlast' : '.' ∉ after.reverse := by simpa using hlast
    rw [splitSuffix_of_last_dot htext hlast', if_pos]
    by_contra hne
    rw [not_or] at hne
    exact h _ _ ⟨htext, hne.2, hne.1, hlast'⟩
  · simp [splitSuffix, hdot]

/-- The computed suffix of a name is the one that its last dot divides off. -/
theorem isSuffixOf_iff : IsSuffixOf suffix name ↔ (splitSuffix name).2 = suffix := by
  constructor
  · rintro (⟨stem, extension, hdivided, rfl⟩ | ⟨rfl, hnone⟩)
    · exact hdivided.suffix_eq
    · exact suffix_eq_of_not_divided hnone
  · rintro rfl
    by_cases hdivided : ∃ stem extension, Divided name stem extension
    · obtain ⟨stem, extension, h⟩ := hdivided
      exact .inl ⟨stem, extension, h, h.suffix_eq⟩
    · have hnone : ∀ stem extension, ¬ Divided name stem extension :=
        fun stem extension h => hdivided ⟨stem, extension, h⟩
      exact .inr ⟨suffix_eq_of_not_divided hnone, hnone⟩

end Suffixes

/-! ## Trees -/

namespace FileTree

/-- No directory has two entries of one name, as in every file system. -/
inductive Proper : FileTree → Prop
  | file (content : ByteArray) : Proper (.file content)
  | dir {entries : List (String × FileTree)} (hnames : (entries.map Prod.fst).Nodup)
      (hentries : ∀ e ∈ entries, e.2.Proper) : Proper (.dir entries)

/-- An entry of a directory, followed by what is beneath it. -/
def withBelow (e : String × FileTree) (below : List (List String × FileTree)) :
    List (List String × FileTree) :=
  ([e.1], e.2) :: below.map fun d => (e.1 :: d.1, d.2)

/-- Named things in the order of their names, which are compared by code points. -/
def inNameOrder {α : Type} (xs : List (String × α)) : List (String × α) :=
  xs.mergeSort fun a b => codePoints a.1 ≤ codePoints b.1

mutual

/-- The entries beneath a tree with the names that lead to them, in depth-first order: the entries
of every directory are visited in the order of their names. -/
def depthFirst : FileTree → List (List String × FileTree)
  | .file _ => []
  | .dir entries => (inNameOrder (visits entries)).flatMap Prod.snd

/-- What the visit of each entry meets, by the names of the entries. -/
def visits : List (String × FileTree) → List (String × List (List String × FileTree))
  | [] => []
  | (name, entry) :: entries => (name, withBelow (name, entry) entry.depthFirst) :: visits entries

end

/-- The dumps that a root leads to. A root that is a file is a dump itself. Beneath a directory, the
dumps are the files with one of the suffixes, in depth-first order. -/
def dumpsUnder (tree : FileTree) (suffixes : List String) (root : Path) : List Path :=
  match tree.find? root.names with
  | none => []
  | some (.file _) => [root]
  | some (.dir entries) =>
    ((FileTree.dir entries).depthFirst.filter fun d =>
      d.2.isFile && suffixes.contains (root.child d.1).suffix).map fun d => root.child d.1

/-- A list has every entry beneath a tree once, with the names that lead to it and whether it is a
file. -/
structure Enumerates (tree : FileTree) (found : List (List String × Bool)) : Prop where
  nodup : (found.map Prod.fst).Nodup
  mem_iff : ∀ names isFile, (names, isFile) ∈ found ↔
    names ≠ [] ∧ ∃ entry, tree.lookup? names = some entry ∧ entry.isFile = isFile

/-! ## Listing and traversing -/

section Blocks

variable {e : String × FileTree} {below : List (List String × FileTree)}
  {d : List String × FileTree}

theorem mem_withBelow :
    d ∈ withBelow e below ↔ d = ([e.1], e.2) ∨ ∃ b ∈ below, d = (e.1 :: b.1, b.2) := by
  simp [withBelow, eq_comm]

theorem exists_of_mem_withBelow (h : d ∈ withBelow e below) : ∃ rest, d.1 = e.1 :: rest := by
  rcases mem_withBelow.mp h with rfl | ⟨b, -, rfl⟩
  · exact ⟨[], rfl⟩
  · exact ⟨b.1, rfl⟩

/-- An entry comes before what is beneath it, which keeps its order. -/
theorem pairwise_withBelow (hne : ∀ b ∈ below, b.1 ≠ [])
    (h : below.Pairwise fun a b => comparePaths a.1 b.1 = .lt) :
    (withBelow e below).Pairwise fun a b => comparePaths a.1 b.1 = .lt := by
  refine List.pairwise_cons.mpr ⟨fun d hd => ?_, List.pairwise_map.mpr ?_⟩
  · obtain ⟨b, hb, rfl⟩ := List.mem_map.mp hd
    obtain ⟨name, rest, hrest⟩ := List.exists_cons_of_ne_nil (hne b hb)
    rw [comparePaths_cons_self, hrest]
    rfl
  · exact h.imp fun {a b} hab => by rwa [comparePaths_cons_self]

end Blocks

variable {tree entry : FileTree} {entries : List (String × FileTree)} {name : String}

theorem descendants_dir (entries : List (String × FileTree)) :
    (FileTree.dir entries).descendants =
      entries.flatMap fun e => withBelow e e.2.descendants := by
  rw [descendants]
  induction entries with
  | nil => rfl
  | cons e entries ih => rw [descendantsOf, ih, List.flatMap_cons, withBelow]

/-- The walk visits each entry together with what lies beneath it, before the entries are put in
order. -/
theorem visits_eq_map (entries : List (String × FileTree)) :
    visits entries = entries.map fun e => (e.1, withBelow e e.2.depthFirst) := by
  induction entries with
  | nil => rfl
  | cons e entries ih => rw [visits, ih, List.map_cons]

/-- The entries of a directory are visited in the order of their names, each followed by what is
beneath it. -/
theorem depthFirst_dir (entries : List (String × FileTree)) :
    (FileTree.dir entries).depthFirst =
      (inNameOrder entries).flatMap fun e => withBelow e e.2.depthFirst := by
  have hmap : inNameOrder (visits entries) =
      (inNameOrder entries).map fun e => (e.1, withBelow e e.2.depthFirst) := by
    rw [visits_eq_map, inNameOrder, inNameOrder, List.map_mergeSort]
    intro a _ b _
    rfl
  rw [depthFirst, hmap, List.flatMap_map]

theorem perm_inNameOrder {α : Type} (xs : List (String × α)) : (inNameOrder xs).Perm xs :=
  List.mergeSort_perm xs _

/-- The order of entries is the stable order by name. -/
theorem inNameOrder_eq_mergeSort {α : Type} (xs : List (String × α)) :
    inNameOrder xs = xs.mergeSort fun a b => (compareOn Prod.fst a b).isLE := by
  have hle : (fun a b : String × α => decide (codePoints a.1 ≤ codePoints b.1)) =
      fun a b => (compareOn Prod.fst a b).isLE := by
    funext a b
    rw [Bool.eq_iff_iff, decide_eq_true_iff, compareOn, isLE_compare_iff]
  rw [inNameOrder, hle]

/-- Things with different names are put in strict order. -/
theorem pairwise_inNameOrder {α : Type} {xs : List (String × α)} (h : (xs.map Prod.fst).Nodup) :
    (inNameOrder xs).Pairwise fun a b => compare a.1 b.1 = .lt := by
  have hle : (inNameOrder xs).Pairwise fun a b => (compareOn Prod.fst a b).isLE := by
    rw [inNameOrder_eq_mergeSort]
    exact (stableArrangement_mergeSort xs).sorted
  have hne : (inNameOrder xs).Pairwise fun a b => a.1 ≠ b.1 := by
    rw [← ((perm_inNameOrder xs).map Prod.fst).nodup_iff] at h
    exact List.pairwise_map.mp h
  refine (hle.and hne).imp fun {a b} hab => ?_
  rcases Ordering.isLE_iff_eq_lt_or_eq_eq.mp hab.1 with hlt | heq
  · exact hlt
  · exact absurd (Std.compare_eq_iff_eq.mp heq) hab.2

theorem ne_nil_of_mem_descendants {d : List String × FileTree} (h : d ∈ tree.descendants) :
    d.1 ≠ [] := by
  cases tree with
  | file content => cases h
  | dir entries =>
    rw [descendants_dir, List.mem_flatMap] at h
    obtain ⟨e, -, hd⟩ := h
    obtain ⟨rest, hrest⟩ := exists_of_mem_withBelow hd
    simp [hrest]

/-- The traversal meets what is beneath the tree. -/
theorem Proper.perm_depthFirst (h : tree.Proper) : tree.depthFirst.Perm tree.descendants := by
  induction h with
  | file content => exact .refl []
  | @dir entries _ _ ih =>
    rw [depthFirst_dir, descendants_dir]
    refine ((perm_inNameOrder entries).flatMap_right _).trans ?_
    exact List.Perm.flatMap_left entries fun e he => ((ih e he).map _).cons _

/-- The traversal goes through the paths in their order. -/
theorem Proper.pairwise_depthFirst (h : tree.Proper) :
    tree.depthFirst.Pairwise fun a b => comparePaths a.1 b.1 = .lt := by
  induction h with
  | file content => exact .nil
  | @dir entries hnames hentries ih =>
    rw [depthFirst_dir, List.pairwise_flatMap]
    constructor
    · intro e he
      have hmem : e ∈ entries := (perm_inNameOrder entries).mem_iff.mp he
      refine pairwise_withBelow (fun b hb => ?_) (ih e hmem)
      exact ne_nil_of_mem_descendants ((hentries e hmem).perm_depthFirst.mem_iff.mp hb)
    · -- The names of two entries differ, and they decide.
      refine (pairwise_inNameOrder hnames).imp fun {a b} hab d hd f hf => ?_
      obtain ⟨rest, hd⟩ := exists_of_mem_withBelow hd
      obtain ⟨other, hf⟩ := exists_of_mem_withBelow hf
      rw [hd, hf, comparePaths, hab]
      rfl

/-- In a proper tree no path is visited twice. -/
theorem Proper.nodup_depthFirst (h : tree.Proper) : (tree.depthFirst.map Prod.fst).Nodup := by
  rw [List.nodup_iff_pairwise_ne, List.pairwise_map]
  refine h.pairwise_depthFirst.imp fun {a b} hlt heq => ?_
  have hself : comparePaths b.1 b.1 = .eq := Std.ReflCmp.compare_self
  rw [heq, hself] at hlt
  cases hlt

/-! ## Entries and locations -/

theorem lookup_eq_some_iff_of_nodup (hnames : (entries.map Prod.fst).Nodup) :
    entries.lookup name = some entry ↔ (name, entry) ∈ entries := by
  induction entries with
  | nil => simp
  | cons e entries ih =>
    obtain ⟨first, below⟩ := e
    rw [List.map_cons, List.nodup_cons] at hnames
    by_cases hname : name = first
    · subst hname
      have hnot : (name, entry) ∉ entries := fun h =>
        hnames.1 (List.mem_map.mpr ⟨_, h, rfl⟩)
      simp [hnot, eq_comm]
    · rw [List.lookup_cons, beq_false_of_ne hname]
      simp [ih hnames.2, hname]

/-- What locations lead to in a proper tree is proper. -/
theorem Proper.of_lookup? {names : List String} (h : tree.Proper)
    (hlookup : tree.lookup? names = some entry) : entry.Proper := by
  induction names generalizing tree with
  | nil =>
    cases hlookup
    exact h
  | cons name names ih =>
    cases h with
    | file content => cases hlookup
    | dir hnames hentries =>
      obtain ⟨below, hbelow, hrest⟩ := Option.bind_eq_some_iff.mp hlookup
      exact ih (hentries _ ((lookup_eq_some_iff_of_nodup hnames).mp hbelow)) hrest

theorem Proper.of_find? {names : List String} (h : tree.Proper)
    (hfind : tree.find? names = some entry) : entry.Proper := by
  rw [find?] at hfind
  cases hlocate : tree.locate names with
  | ok location => exact h.of_lookup? (by simpa [hlocate] using hfind)
  | error fault => simp [hlocate] at hfind

/-- The entries beneath a proper tree are what its locations lead to. -/
theorem Proper.mem_descendants_iff (h : tree.Proper) {names : List String} {entry : FileTree} :
    (names, entry) ∈ tree.descendants ↔ names ≠ [] ∧ tree.lookup? names = some entry := by
  induction h generalizing names with
  | file content => cases names <;> simp [descendants, lookup?]
  | @dir entries hnames _ ih =>
    cases names with
    | nil => exact iff_of_false (fun h => ne_nil_of_mem_descendants h rfl) fun h => h.1 rfl
    | cons name names =>
      simp only [descendants_dir, List.mem_flatMap, mem_withBelow, lookup?,
        Option.bind_eq_some_iff, lookup_eq_some_iff_of_nodup hnames, Prod.mk.injEq, List.cons.injEq,
        ne_eq, reduceCtorEq, not_false_eq_true, true_and]
      constructor
      · rintro ⟨e, he, ⟨⟨rfl, rfl⟩, rfl⟩ | ⟨⟨rest, below⟩, hbelow, ⟨rfl, rfl⟩, rfl⟩⟩
        · exact ⟨e.2, he, rfl⟩
        · exact ⟨e.2, he, ((ih e he).mp hbelow).2⟩
      · rintro ⟨below, hbelow, hlookup⟩
        refine ⟨(name, below), hbelow, ?_⟩
        by_cases hnil : names = []
        · subst hnil
          cases hlookup
          exact .inl ⟨⟨rfl, rfl⟩, rfl⟩
        · exact .inr ⟨(names, entry), (ih _ hbelow).mpr ⟨hnil, hlookup⟩, ⟨rfl, rfl⟩, rfl⟩

/-- The walk through a proper tree visits exactly the paths at which something lies, the root apart.
-/
theorem Proper.mem_depthFirst_iff (h : tree.Proper) {names : List String} {entry : FileTree} :
    (names, entry) ∈ tree.depthFirst ↔ names ≠ [] ∧ tree.lookup? names = some entry := by
  rw [h.perm_depthFirst.mem_iff, h.mem_descendants_iff]

/-! ## Sorting all paths -/

/-- The traversal meets every entry beneath a proper tree once. -/
theorem Proper.enumerates_depthFirst (h : tree.Proper) :
    tree.Enumerates (tree.depthFirst.map fun d => (d.1, d.2.isFile)) where
  nodup := by
    rw [List.map_map]
    exact h.nodup_depthFirst
  mem_iff names isFile := by
    simp only [List.mem_map, Prod.mk.injEq, Prod.exists, h.mem_depthFirst_iff]
    constructor
    · rintro ⟨_, entry, ⟨hne, hlookup⟩, rfl, rfl⟩
      exact ⟨hne, entry, hlookup, rfl⟩
    · rintro ⟨hne, entry, hlookup, rfl⟩
      exact ⟨names, entry, ⟨hne, hlookup⟩, rfl, rfl⟩

/-- The descendants of a proper tree are the paths at which something lies. -/
theorem Proper.enumerates_descendants (h : tree.Proper) :
    tree.Enumerates (tree.descendants.map fun d => (d.1, d.2.isFile)) := by
  have hperm := h.perm_depthFirst.map fun d => (d.1, d.2.isFile)
  constructor
  · rw [← (hperm.map Prod.fst).nodup_iff]
    exact h.enumerates_depthFirst.nodup
  · intro names isFile
    rw [← hperm.mem_iff]
    exact h.enumerates_depthFirst.mem_iff names isFile

/-- Two enumerations of a tree differ only in their order. -/
theorem Enumerates.perm {found other : List (List String × Bool)} (h : tree.Enumerates found)
    (h' : tree.Enumerates other) : found.Perm other := by
  refine (List.perm_ext_iff_of_nodup (List.Nodup.of_map Prod.fst h.nodup)
    (List.Nodup.of_map Prod.fst h'.nodup)).mpr ?_
  rintro ⟨names, isFile⟩
  rw [h.mem_iff, h'.mem_iff]

/-- Whatever the order in which the entries beneath a tree are listed, sorting them by their paths
gives the order of the traversal. -/
theorem Enumerates.mergeSort_eq {found : List (List String × Bool)} (h : tree.Proper)
    (hfound : tree.Enumerates found) :
    (found.mergeSort fun a b => (comparePaths a.1 b.1).isLE) =
      tree.depthFirst.map fun d => (d.1, d.2.isFile) := by
  have hperm := (List.mergeSort_perm found fun a b => (comparePaths a.1 b.1).isLE).trans
    (hfound.perm h.enumerates_depthFirst)
  have htraversed : (tree.depthFirst.map fun d => (d.1, d.2.isFile)).Pairwise
      fun a b => (comparePaths a.1 b.1).isLE := by
    rw [List.pairwise_map]
    refine h.pairwise_depthFirst.imp fun {a b} hlt => ?_
    rw [hlt]
    rfl
  have hsorted : (found.mergeSort fun a b => (comparePaths a.1 b.1).isLE).Pairwise
      fun a b => (comparePaths a.1 b.1).isLE :=
    (stableArrangement_mergeSort found).sorted
  refine hperm.eq_of_pairwise (fun a b ha hb hab hba => ?_) hsorted htraversed
  have heq : a.1 = b.1 := Std.LawfulEqCmp.eq_of_compare (Std.OrientedCmp.isLE_antisymm hab hba)
  exact List.inj_on_of_nodup_map h.enumerates_depthFirst.nodup (hperm.mem_iff.mp ha) hb heq

/-- Sorting all paths beneath a tree and selecting the dumps is to select them on the traversal. -/
theorem Enumerates.selectDumps_eq {found : List (List String × Bool)} (h : tree.Proper)
    (hfound : tree.Enumerates found) (suffixes : List String) :
    selectDumps suffixes found =
      (tree.depthFirst.filter fun d => hasSuffix suffixes d.1 && d.2.isFile).map Prod.fst := by
  rw [selectDumps, hfound.mergeSort_eq h, List.filter_map, List.map_map]
  rfl

end FileTree

/-! ## Roots -/

namespace Path

theorem name_child (root : Path) {names : List String} (hne : names ≠ []) :
    (root.child names).name = names.getLast?.getD "" := by
  rw [name, child, List.getLast?_append_of_ne_nil _ hne]

/-- Different locations beneath a root have different paths. -/
theorem child_injective (root : Path) : Function.Injective root.child := by
  intro names other heq
  exact List.append_cancel_left (congrArg Path.names heq)

end Path

namespace FileTree

variable {tree : FileTree} {suffixes : List String} {root : Path}
  {entries : List (String × FileTree)}

/-- The dumps beneath a directory are the files with a fitting suffix, in the order of the walk. -/
theorem dumpsUnder_of_dir (hroot : tree.find? root.names = some (.dir entries)) :
    tree.dumpsUnder suffixes root =
      ((FileTree.dir entries).depthFirst.filter fun d =>
        d.2.isFile && suffixes.contains (root.child d.1).suffix).map fun d => root.child d.1 := by
  rw [dumpsUnder, hroot]

/-- Selecting the dumps from any list of what is beneath a root gives them in depth-first order. -/
theorem Proper.map_selectDumps (h : tree.Proper)
    (hroot : tree.find? root.names = some (.dir entries)) {found : List (List String × Bool)}
    (hfound : (FileTree.dir entries).Enumerates found) :
    (selectDumps suffixes found).map root.child = tree.dumpsUnder suffixes root := by
  have hproper := h.of_find? hroot
  rw [hfound.selectDumps_eq hproper, List.map_map, dumpsUnder_of_dir hroot]
  refine congrArg (List.map _) (List.filter_congr fun d hd => ?_)
  have hne : d.1 ≠ [] := (hproper.mem_depthFirst_iff.mp hd).1
  rw [Path.suffix, root.name_child hne, hasSuffix, Bool.and_comm]

/-- What is discovered beneath a root are the dumps beneath it, in the order of the walk. -/
theorem Proper.discover_eq (h : tree.Proper) (suffixes : List String) (root : Path) :
    discover tree suffixes root = tree.dumpsUnder suffixes root := by
  rw [discover, survey]
  cases hroot : tree.find? root.names with
  | none => rw [dumpsUnder, hroot, Survey.dumps]
  | some entry =>
    cases entry with
    | file content => rw [dumpsUnder, hroot, Survey.dumps]
    | dir entries =>
      exact h.map_selectDumps hroot (h.of_find? hroot).enumerates_descendants

theorem Proper.nodup_dumpsUnder (h : tree.Proper)
    (hroot : tree.find? root.names = some (.dir entries)) :
    (tree.dumpsUnder suffixes root).Nodup := by
  have hnames := List.pairwise_map.mp (h.of_find? hroot).nodup_depthFirst
  rw [dumpsUnder_of_dir hroot]
  apply List.pairwise_map.mpr
  exact (hnames.filter _).imp fun hne heq => hne (root.child_injective heq)

/-- A path is found beneath a root exactly if a file with one of the suffixes lies there. -/
theorem Proper.mem_dumpsUnder_iff (h : tree.Proper)
    (hroot : tree.find? root.names = some (.dir entries)) {path : Path} :
    path ∈ tree.dumpsUnder suffixes root ↔
      ∃ below content, below ≠ [] ∧ path = root.child below ∧
        (FileTree.dir entries).lookup? below = some (.file content) ∧
        ∃ suffix ∈ suffixes, IsSuffixOf suffix path.name := by
  simp only [dumpsUnder_of_dir hroot, List.mem_map, List.mem_filter, Prod.exists,
    (h.of_find? hroot).mem_depthFirst_iff, Bool.and_eq_true, List.contains_iff_mem,
    isSuffixOf_iff, Path.suffix]
  constructor
  · rintro ⟨below, entry, ⟨⟨hne, hlookup⟩, hfile, hsuffix⟩, rfl⟩
    cases entry with
    | file content => exact ⟨below, content, hne, rfl, hlookup, _, hsuffix, rfl⟩
    | dir entries => cases hfile
  · rintro ⟨below, content, hne, rfl, hlookup, _, hsuffix, rfl⟩
    exact ⟨below, .file content, ⟨⟨hne, hlookup⟩, rfl, hsuffix⟩, rfl⟩

end FileTree

/-- **Dumps are found in depth-first order.** In a tree where no directory has two entries of one
name, the dumps that roots lead to are, root by root: the root itself if it is a file, nothing if it
does not exist, and beneath a directory the files with one of the suffixes, in the order of the
depth-first traversal that visits the entries of every directory by the code points of their names.
Beneath a directory these are the files at any depth with one of the suffixes, each once, and they
do not depend on the order in which its entries are listed. -/
theorem discoverAll_is_depth_first {tree : FileTree} (h : tree.Proper)
    (suffixes roots : List String) :
    discoverAll tree suffixes roots =
      roots.flatMap (fun root => tree.dumpsUnder suffixes (.ofString root)) ∧
    ∀ (root : Path) entries, tree.find? root.names = some (.dir entries) →
      (∀ path, path ∈ tree.dumpsUnder suffixes root ↔
        ∃ below content, below ≠ [] ∧ path = root.child below ∧
          (FileTree.dir entries).lookup? below = some (.file content) ∧
          ∃ suffix ∈ suffixes, IsSuffixOf suffix path.name) ∧
      (tree.dumpsUnder suffixes root).Nodup ∧
      ∀ found, (FileTree.dir entries).Enumerates found →
        (selectDumps suffixes found).map root.child = tree.dumpsUnder suffixes root := by
  constructor
  · simp only [discoverAll, h.discover_eq]
  · intro root entries hroot
    exact ⟨fun path => h.mem_dumpsUnder_iff hroot, h.nodup_dumpsUnder hroot,
      fun found hfound => h.map_selectDumps hroot hfound⟩

/-- A directory of dumps. A directory and a file in it have names that differ by a suffix, and
another directory is named like a dump. -/
def nestedDumps : List (String × FileTree) :=
  [("a.json", .file .empty), ("old.json", .dir [("x.yml", .file .empty)]),
    ("a", .dir [("z.yaml", .file .empty), (".json", .file .empty)])]

/-- A tree that holds the directory of dumps and a file. -/
def nestedTree : FileTree :=
  .dir [("notes.txt", .file .empty), ("dumps", .dir nestedDumps)]

theorem proper_nestedTree : nestedTree.Proper := by
  refine .dir (by decide) ?_
  rw [List.forall_mem_cons, List.forall_mem_singleton]
  refine ⟨.file _, .dir (by decide) ?_⟩
  rw [nestedDumps, List.forall_mem_cons, List.forall_mem_cons, List.forall_mem_singleton]
  refine ⟨.file _, .dir (by decide) ?_, .dir (by decide) ?_⟩
  all_goals simp [FileTree.Proper.file]

theorem depthFirst_nestedDumps :
    (FileTree.dir nestedDumps).depthFirst =
      [(["a"], .dir [("z.yaml", .file .empty), (".json", .file .empty)]),
        (["a", ".json"], .file .empty), (["a", "z.yaml"], .file .empty), (["a.json"], .file .empty),
        (["old.json"], .dir [("x.yml", .file .empty)]), (["old.json", "x.yml"], .file .empty)] := by
  have hfile : codePoints "a.json" ≤ codePoints "old.json" := by decide
  have hdir : ¬ codePoints "a.json" ≤ codePoints "a" := by decide
  have hdot : ¬ codePoints "z.yaml" ≤ codePoints ".json" := by decide
  simp [nestedDumps, FileTree.depthFirst, FileTree.visits, FileTree.inNameOrder,
    FileTree.withBelow, List.mergeSort, hfile, hdir, hdot, -not_le]

/-- The contents of the directory come before the file that is named like it, and a name that begins
with its only dot has no suffix. -/
theorem discoverAll_nestedTree :
    nestedTree.Proper ∧
    discoverAll nestedTree dumpSuffixes ["dumps", "missing", "notes.txt"] =
      ["dumps/a/z.yaml", "dumps/a.json", "dumps/old.json/x.yml", "notes.txt"].map .ofString := by
  refine ⟨proper_nestedTree, ?_⟩
  have hdumps : nestedTree.find? (Path.ofString "dumps").names = some (.dir nestedDumps) := rfl
  have hfound : nestedTree.dumpsUnder dumpSuffixes (.ofString "dumps") =
      ["dumps/a/z.yaml", "dumps/a.json", "dumps/old.json/x.yml"].map Path.ofString := by
    rw [FileTree.dumpsUnder_of_dir hdumps, depthFirst_nestedDumps]
    decide
  rw [(discoverAll_is_depth_first proper_nestedTree _ _).1]
  simp only [List.flatMap_cons, List.flatMap_nil, hfound]
  decide

end TreeLint
