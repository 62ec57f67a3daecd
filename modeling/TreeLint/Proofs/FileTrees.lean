import Mathlib.Data.List.Infix
import TreeLint.FileTree

/-!
# Writing into file trees

What stands at each location of a file tree after directories were created and a file was written.
Creating directories along a path changes nothing but locations on that path where nothing stood,
and it does so also when it breaks off. Writing a file changes its location only.

## Main definitions

* `FileTree.shapeAt?`: what stands at a location, without what is beneath it
* `FileTree.Open`: every location above is a directory
* `FileTree.AddsDirs`: a later tree differs by directories created along a path
* `FileTree.Clear`: nothing on a path keeps it from being a directory

## Main results

* `FileTree.shapeAt?_put_of_isLeaf`: putting an entry changes one location
* `FileTree.addsDirs_makeDirs`: what creating directories does
* `FileTree.shapeAt?_of_write`: what writing a file does
* `FileTree.Clear.makeDirs`: a clear path becomes a directory
-/

namespace TreeLint

/-- What stands at a location: a file with its content, or a directory. -/
inductive Shape where
  | file (content : ByteArray)
  | dir

namespace FileTree

/-- The entry without what is beneath it. -/
def shape : FileTree → Shape
  | .file content => .file content
  | .dir _ => .dir

/-- What stands at a location. -/
def shapeAt? (tree : FileTree) (location : List String) : Option Shape :=
  (tree.lookup? location).map shape

variable {tree later made : FileTree} {entry : FileTree} {name : String}
  {names location other : List String}

theorem shape_eq_dir_iff : entry.shape = .dir ↔ ∃ entries, entry = .dir entries := by
  cases entry <;> simp [shape]

/-! ## Entries -/

theorem lookup_replace_self (name : String) (entry : FileTree)
    (entries : List (String × FileTree)) :
    (replace name entry entries).lookup name = some entry := by
  induction entries with
  | nil => simp [replace]
  | cons e entries ih =>
    obtain ⟨n, e⟩ := e
    by_cases h : n = name
    · simp [replace, h]
    · have hne : (name == n) = false := beq_false_of_ne (Ne.symm h)
      simp [replace, h, List.lookup_cons, hne, ih]

theorem lookup_replace_of_ne {other : String} (h : other ≠ name) (entry : FileTree)
    (entries : List (String × FileTree)) :
    (replace name entry entries).lookup other = entries.lookup other := by
  induction entries with
  | nil => simp [replace, List.lookup_cons, beq_false_of_ne h]
  | cons e entries ih =>
    obtain ⟨n, e⟩ := e
    by_cases hn : n = name
    · subst hn
      simp [replace, List.lookup_cons, beq_false_of_ne h]
    · simp [replace, hn, List.lookup_cons, ih]

theorem lookup?_append (above below : List String) (tree : FileTree) :
    tree.lookup? (above ++ below) = (tree.lookup? above).bind (lookup? below) := by
  induction above generalizing tree with
  | nil => rfl
  | cons name above ih =>
    cases tree with
    | file content => rfl
    | dir entries =>
      rw [List.cons_append, lookup?, lookup?, Option.bind_assoc]
      exact congrArg (entries.lookup name).bind (funext ih)

/-- What lies beneath a location makes it a directory. -/
theorem shapeAt?_of_append {below : List String} (hbelow : below ≠ [])
    (h : tree.shapeAt? (location ++ below) ≠ none) : tree.shapeAt? location = some .dir := by
  unfold shapeAt? at *
  rw [lookup?_append] at h
  cases hat : tree.lookup? location with
  | none => simp [hat] at h
  | some entry =>
    cases entry with
    | dir entries => rfl
    | file content =>
      obtain ⟨name, names, rfl⟩ := List.exists_cons_of_ne_nil hbelow
      simp [hat, lookup?] at h

/-- Every location above one that is taken is a directory. -/
theorem shapeAt?_of_isPrefix (hle : other <+: location) (hne : other ≠ location)
    (h : tree.shapeAt? location ≠ none) : tree.shapeAt? other = some .dir := by
  obtain ⟨below, rfl⟩ := hle
  have hbelow : below ≠ [] := by
    rintro rfl
    exact hne (List.append_nil other).symm
  exact shapeAt?_of_append hbelow h

/-- Above a directory there are only directories. -/
theorem shapeAt?_of_isPrefix_dir (hle : other <+: location)
    (h : tree.shapeAt? location = some .dir) : tree.shapeAt? other = some .dir := by
  by_cases heq : other = location
  · rw [heq, h]
  · exact shapeAt?_of_isPrefix hle heq (by simp [h])

/-! ## Putting an entry -/

/-- Every location above is a directory. -/
def Open (tree : FileTree) (location : List String) : Prop :=
  ∀ above, above <+: location → above ≠ location → tree.shapeAt? above = some .dir

/-- Nothing is beneath the entry. -/
def IsLeaf (entry : FileTree) : Prop :=
  ∀ name names, entry.lookup? (name :: names) = none

theorem isLeaf_empty : empty.IsLeaf := fun _ _ => rfl

theorem isLeaf_file (content : ByteArray) : (file content).IsLeaf := fun _ _ => rfl

theorem lookup?_put_append (location below : List String) (entry tree : FileTree) :
    (put location entry tree).lookup? (location ++ below) = entry.lookup? below := by
  induction location generalizing tree with
  | nil => rfl
  | cons name names ih =>
    cases tree with
    | file content => simp [put, lookup?, ih]
    | dir entries => simp [put, lookup?, lookup_replace_self, ih]

/-- The entry one name down, on the way to an open location. -/
theorem Open.tail {entries : List (String × FileTree)}
    (h : (FileTree.dir entries).Open (name :: names)) :
    ((entries.lookup name).getD empty).Open names := by
  intro above hle hne
  have hdir := h (name :: above) (List.cons_prefix_cons.mpr ⟨rfl, hle⟩) (by simpa using hne)
  cases hname : entries.lookup name with
  | none => simp [shapeAt?, lookup?, hname] at hdir
  | some below => simpa [shapeAt?, lookup?, hname] using hdir

/-- Placing an entry leaves the shapes of all locations that are not beneath it, if the way to it is
open. -/
theorem lookup?_put_of_not_isPrefix (h : tree.Open location) (hnot : ¬ location <+: other) :
    (put location entry tree).shapeAt? other = tree.shapeAt? other := by
  induction location generalizing tree other with
  | nil => exact absurd List.nil_prefix hnot
  | cons name names ih =>
    obtain ⟨entries, rfl⟩ : ∃ entries, tree = .dir entries := by
      have hroot := h [] List.nil_prefix (by simp)
      simpa [shapeAt?, lookup?, shape_eq_dir_iff] using hroot
    cases other with
    | nil => rfl
    | cons first rest =>
      by_cases hfirst : first = name
      · subst hfirst
        have hrest : ¬ names <+: rest := fun hle => hnot (List.cons_prefix_cons.mpr ⟨rfl, hle⟩)
        have hbelow := ih h.tail hrest
        simp only [shapeAt?, put, lookup?, lookup_replace_self, Option.bind_some] at hbelow ⊢
        rw [hbelow]
        -- Where the name is missing the location ends with it, so nothing can lie beneath.
        cases hname : entries.lookup first with
        | some below => rfl
        | none =>
          cases rest with
          | cons second rest => rfl
          | nil =>
            cases names with
            | nil => exact absurd List.nil_prefix hrest
            | cons second names =>
              have hdir := h [first] (by simp) (by simp)
              simp [shapeAt?, lookup?, hname] at hdir
      · simp only [shapeAt?, put, lookup?, lookup_replace_of_ne hfirst]

/-- Putting an entry with nothing beneath it in a place that is no directory changes that place
only. -/
theorem shapeAt?_put_of_isLeaf (h : tree.Open location) (hleaf : entry.IsLeaf)
    (hfree : tree.shapeAt? location ≠ some .dir) (other : List String) :
    (put location entry tree).shapeAt? other =
      if other = location then some entry.shape else tree.shapeAt? other := by
  by_cases hle : location <+: other
  case neg =>
    have hne : other ≠ location := fun heq => hle (heq ▸ List.prefix_refl _)
    rw [lookup?_put_of_not_isPrefix h hle, if_neg hne]
  case pos =>
    obtain ⟨below, rfl⟩ := hle
    cases below with
    | nil =>
      have hself := lookup?_put_append location [] entry tree
      rw [shapeAt?, hself, if_pos (List.append_nil location)]
      rfl
    | cons name names =>
      have hnone : tree.shapeAt? (location ++ name :: names) = none := by
        by_contra hsome
        exact hfree (shapeAt?_of_append (by simp) hsome)
      rw [hnone, if_neg (by simp), shapeAt?, lookup?_put_append, hleaf name names]
      rfl

/-! ## Following a path -/

/-- A name is followed only from a directory, and two dots lead to the one above. -/
theorem step_eq_ok_iff {next : List String} :
    tree.step location name = .ok next ↔ tree.shapeAt? location = some .dir ∧
      next = if name = ".." then location.dropLast else location ++ [name] := by
  unfold step shapeAt?
  cases hat : tree.lookup? location with
  | none => simp
  | some entry => cases entry <;> simp [shape, eq_comm]

theorem locate_concat (tree : FileTree) (names : List String) (name : String) :
    tree.locate (names ++ [name]) = tree.locate names >>= fun location =>
      tree.step location name := by
  simp [locate, List.foldlM_append]

theorem locate_concat_eq_ok_iff {next : List String} :
    tree.locate (names ++ [name]) = .ok next ↔
      ∃ location, tree.locate names = .ok location ∧ tree.step location name = .ok next := by
  rw [locate_concat]
  cases tree.locate names with
  | error fault => exact ⟨nofun, fun ⟨_, h, _⟩ => nomatch h⟩
  | ok location => simp [bind, Except.bind]

/-- A path leads to a location beneath directories only. -/
theorem open_of_locate (h : tree.locate names = .ok location) : tree.Open location := by
  induction names using List.reverseRecOn generalizing location with
  | nil =>
    obtain rfl : [] = location := by simpa [locate, pure, Except.pure] using h
    intro above hle hne
    exact absurd (List.prefix_nil.mp hle) hne
  | append_singleton names name _ =>
    obtain ⟨start, -, hstep⟩ := locate_concat_eq_ok_iff.mp h
    obtain ⟨hdir, rfl⟩ := step_eq_ok_iff.mp hstep
    intro above hle hne
    apply shapeAt?_of_isPrefix_dir _ hdir
    split at hle
    · exact hle.trans (List.dropLast_prefix start)
    · rename_i hname
      rw [if_neg hname] at hne
      exact (List.prefix_concat_iff.mp hle).resolve_left hne

/-- A path leads to the same location once there are more directories. -/
theorem locate_mono
    (hmono : ∀ location, tree.shapeAt? location = some .dir → later.shapeAt? location = some .dir)
    (h : tree.locate names = .ok location) : later.locate names = .ok location := by
  induction names using List.reverseRecOn generalizing location with
  | nil => exact h
  | append_singleton names name ih =>
    obtain ⟨start, hstart, hstep⟩ := locate_concat_eq_ok_iff.mp h
    obtain ⟨hdir, hnext⟩ := step_eq_ok_iff.mp hstep
    exact locate_concat_eq_ok_iff.mpr
      ⟨start, ih hstart, step_eq_ok_iff.mpr ⟨hmono start hdir, hnext⟩⟩

/-! ## Creating directories -/

/-- A directory that a path leads to stands in the later tree where nothing stood before. -/
structure IsAdded (names : List String) (tree later : FileTree) (location : List String) :
    Prop where
  missing : tree.shapeAt? location = none
  created : later.shapeAt? location = some .dir
  onPath : ∃ above, above <+: names ∧ later.locate above = .ok location

/-- The later tree differs by directories that were created along a path. -/
def AddsDirs (names : List String) (tree later : FileTree) : Prop :=
  ∀ location, later.shapeAt? location = tree.shapeAt? location ∨ IsAdded names tree later location

namespace AddsDirs

theorem refl (names : List String) (tree : FileTree) : AddsDirs names tree tree :=
  fun _ => .inl rfl

theorem dir_mono (h : AddsDirs names tree later) (location : List String)
    (hdir : tree.shapeAt? location = some .dir) : later.shapeAt? location = some .dir := by
  rcases h location with heq | hadded
  · rw [heq, hdir]
  · exact hadded.created

theorem missing_of_missing (h : AddsDirs names tree later)
    (hnone : later.shapeAt? location = none) : tree.shapeAt? location = none := by
  rcases h location with heq | hadded
  · rw [← heq, hnone]
  · exact hadded.missing

theorem mono {longer : List String} (hle : names <+: longer) (h : AddsDirs names tree later) :
    AddsDirs longer tree later := by
  intro location
  rcases h location with heq | ⟨hmissing, hcreated, above, habove, hlocate⟩
  · exact .inl heq
  · exact .inr ⟨hmissing, hcreated, above, habove.trans hle, hlocate⟩

theorem trans (h : AddsDirs names tree made) (h' : AddsDirs names made later) :
    AddsDirs names tree later := by
  intro location
  rcases h' location with heq' | ⟨hmissing, hcreated, honPath⟩
  case inr => exact .inr ⟨h.missing_of_missing hmissing, hcreated, honPath⟩
  rcases h location with heq | ⟨hmissing, hcreated, above, habove, hlocate⟩
  · exact .inl (heq'.trans heq)
  · exact .inr ⟨hmissing, heq'.trans hcreated, above, habove, locate_mono h'.dir_mono hlocate⟩

end AddsDirs

theorem lookup?_eq_none_iff : tree.lookup? location = none ↔ tree.shapeAt? location = none := by
  simp [shapeAt?]

/-- A directory is created exactly if its path leads to a location where nothing is. The path may go
through two dots, so the location is not always what the path spells. -/
theorem makeDir_eq_ok_iff :
    tree.makeDir names = .ok made ↔ areUsable names ∧ ∃ location,
      tree.locate names = .ok location ∧ tree.shapeAt? location = none ∧
        made = put location empty tree := by
  unfold makeDir
  cases areUsable names with
  | false => simp [throw, throwThe, MonadExceptOf.throw, bind, Except.bind]
  | true =>
    cases hlocate : tree.locate names with
    | error fault => simp [bind, Except.bind]
    | ok location =>
      cases hat : tree.lookup? location with
      | none => simp [bind, Except.bind, pure, Except.pure, hat, shapeAt?, eq_comm]
      | some entry =>
        simp [bind, Except.bind, throw, throwThe, MonadExceptOf.throw, hat, shapeAt?]

/-- Creating a directory adds it and nothing else. -/
theorem addsDirs_makeDir (h : tree.makeDir names = .ok made) : AddsDirs names tree made := by
  obtain ⟨-, location, hlocate, hnone, rfl⟩ := makeDir_eq_ok_iff.mp h
  have hshape := shapeAt?_put_of_isLeaf (open_of_locate hlocate) isLeaf_empty (by simp [hnone])
  have hmono : ∀ other, tree.shapeAt? other = some .dir →
      (put location empty tree).shapeAt? other = some .dir := by
    intro other hdir
    rw [hshape]
    split
    · rfl
    · exact hdir
  intro other
  by_cases hother : other = location
  · subst hother
    refine .inr ⟨hnone, ?_, names, List.prefix_refl names, locate_mono hmono hlocate⟩
    rw [hshape, if_pos rfl]
    rfl
  · exact .inl (by rw [hshape, if_neg hother])

/-- A directory that is already there is left alone. -/
theorem addsDirs_makeDirIfMissing (tree : FileTree) (names : List String) :
    AddsDirs names tree (tree.makeDirIfMissing names).1 := by
  unfold makeDirIfMissing
  cases h : tree.makeDir names with
  | ok made => exact addsDirs_makeDir h
  | error fault => exact .refl names tree

section Upward

variable {above : List String}

/-- Only where nothing is found on the way are the directories above created first. -/
theorem makeDirsUpward_cons (h : tree.makeDir (name :: above).reverse ≠ .error .notFound) :
    tree.makeDirsUpward (name :: above) = tree.makeDirIfMissing (name :: above).reverse := by
  simp only [makeDirsUpward]

/-- Where the directory above is missing, it is created first, and then the directory itself is
tried again. -/
theorem makeDirsUpward_cons_of_made (h : tree.makeDir (name :: above).reverse = .error .notFound)
    (hmade : tree.makeDirsUpward above = (made, none)) :
    tree.makeDirsUpward (name :: above) = made.makeDirIfMissing (name :: above).reverse := by
  simp only [makeDirsUpward, h, hmade]

/-- If the directories above cannot be created, neither is the directory, and those created on the
way stay. -/
theorem makeDirsUpward_cons_of_fault {fault : PathFault}
    (h : tree.makeDir (name :: above).reverse = .error .notFound)
    (hmade : tree.makeDirsUpward above = (made, some fault)) :
    tree.makeDirsUpward (name :: above) = (made, some fault) := by
  simp only [makeDirsUpward, h, hmade]

end Upward

/-- Creating directories from the lowest upwards adds some on the way to the lowest, and nothing
else, also where it fails. -/
theorem addsDirs_makeDirsUpward (tree : FileTree) (upward : List String) :
    AddsDirs upward.reverse tree (tree.makeDirsUpward upward).1 := by
  induction upward with
  | nil => exact addsDirs_makeDirIfMissing tree []
  | cons name above ih =>
    by_cases hfound : tree.makeDir (name :: above).reverse = .error .notFound
    case neg =>
      rw [makeDirsUpward_cons hfound]
      exact addsDirs_makeDirIfMissing tree _
    case pos =>
      have hle : above.reverse <+: (name :: above).reverse := by simp
      rcases hmade : tree.makeDirsUpward above with ⟨made, _ | fault⟩
      all_goals rw [hmade] at ih
      · rw [makeDirsUpward_cons_of_made hfound hmade]
        exact (ih.mono hle).trans (addsDirs_makeDirIfMissing made _)
      · rw [makeDirsUpward_cons_of_fault hfound hmade]
        exact ih.mono hle

/-- Creating a directory with those above it only adds directories, also where it fails. -/
theorem addsDirs_makeDirs (tree : FileTree) (names : List String) :
    AddsDirs names tree (tree.makeDirs names).1 := by
  have h := addsDirs_makeDirsUpward tree names.reverse
  rwa [List.reverse_reverse] at h

/-! ## Writing a file -/

/-- A text is written exactly if its path leads to a location that is no directory. -/
theorem write_eq_ok_iff {text : String} :
    tree.write names text = .ok (later, location) ↔
      areUsable names ∧ tree.locate names = .ok location ∧
        tree.shapeAt? location ≠ some .dir ∧ later = put location (.file text.toUTF8) tree := by
  unfold write
  cases areUsable names with
  | false => simp [throw, throwThe, MonadExceptOf.throw, bind, Except.bind]
  | true =>
    cases hlocate : tree.locate names with
    | error fault => simp [bind, Except.bind]
    | ok start =>
      cases hat : tree.lookup? start with
      | none =>
        have hshape : tree.shapeAt? start ≠ some .dir := by simp [shapeAt?, hat]
        simp only [bind, Except.bind, pure, Except.pure, hat]
        grind
      | some entry =>
        cases entry with
        | file old =>
          have hshape : tree.shapeAt? start ≠ some .dir := by simp [shapeAt?, hat, shape]
          simp only [bind, Except.bind, pure, Except.pure, hat]
          grind
        | dir entries =>
          have hshape : tree.shapeAt? start = some .dir := by simp [shapeAt?, hat, shape]
          simp only [bind, Except.bind, hat, throw, throwThe, MonadExceptOf.throw]
          grind

/-- Writing a file changes what stands at its location. -/
theorem shapeAt?_of_write {text : String} (h : tree.write names text = .ok (later, location))
    (other : List String) :
    later.shapeAt? other =
      if other = location then some (.file text.toUTF8) else tree.shapeAt? other := by
  obtain ⟨-, hlocate, hfree, rfl⟩ := write_eq_ok_iff.mp h
  exact shapeAt?_put_of_isLeaf (open_of_locate hlocate) (isLeaf_file _) hfree other

/-- Writing a file takes the place of no directory, so paths lead where they led. -/
theorem locate_of_write {path : List String} {text : String}
    (h : tree.write names text = .ok (later, location)) (hpath : tree.locate path = .ok other) :
    later.locate path = .ok other := by
  obtain ⟨-, -, hfree, -⟩ := write_eq_ok_iff.mp h
  apply locate_mono _ hpath
  intro place hdir
  have hplace : place ≠ location := by
    rintro rfl
    exact hfree hdir
  rw [shapeAt?_of_write h, if_neg hplace, hdir]

/-! ## Paths that can be written -/

/-- Nothing on a path keeps it from being a directory: no name leads upwards or is unusable, and no
file stands on it. -/
structure Clear (tree : FileTree) (names : List String) : Prop where
  usable : areUsable names
  downward : ".." ∉ names
  noFile : ∀ above, above <+: names → ∀ content, tree.shapeAt? above ≠ some (.file content)

theorem Clear.of_concat (h : tree.Clear (names ++ [name])) : tree.Clear names where
  usable := by
    have husable := h.usable
    simp only [areUsable, List.all_append, Bool.and_eq_true] at husable
    exact husable.1
  downward hmem := h.downward (List.mem_append_left [name] hmem)
  noFile above hle := h.noFile above (hle.trans (List.prefix_append names [name]))

/-- Creating directories does not obstruct a way. -/
theorem Clear.of_addsDirs {path : List String} (h : tree.Clear names)
    (hadds : AddsDirs path tree later) : later.Clear names where
  usable := h.usable
  downward := h.downward
  noFile above hle content := by
    rcases hadds above with heq | hadded
    · rw [heq]
      exact h.noFile above hle content
    · simp [hadded.created]

theorem shapeAt?_nil (tree : FileTree) : tree.shapeAt? [] = some tree.shape := rfl

/-- Names that lead downwards can lead to the location they spell only. -/
theorem eq_of_locate (hdown : ".." ∉ names) (h : tree.locate names = .ok location) :
    location = names := by
  induction names using List.reverseRecOn generalizing location with
  | nil =>
    cases h
    rfl
  | append_singleton names name ih =>
    obtain ⟨start, hstart, hstep⟩ := locate_concat_eq_ok_iff.mp h
    obtain ⟨-, rfl⟩ := step_eq_ok_iff.mp hstep
    rw [List.mem_append, not_or, List.mem_singleton] at hdown
    rw [ih hdown.1 hstart, if_neg (Ne.symm hdown.2)]

/-- Names that lead downwards from directory to directory lead to the location they spell. -/
theorem locate_of_dir (hdown : ".." ∉ names ++ [name]) (hdir : tree.shapeAt? names = some .dir) :
    tree.locate (names ++ [name]) = .ok (names ++ [name]) := by
  induction names using List.reverseRecOn generalizing name with
  | nil =>
    have hname : name ≠ ".." := by
      rintro rfl
      simp at hdown
    exact locate_concat_eq_ok_iff.mpr
      ⟨[], rfl, step_eq_ok_iff.mpr ⟨hdir, (if_neg hname).symm⟩⟩
  | append_singleton names last ih =>
    have hname : name ≠ ".." := by
      rintro rfl
      simp at hdown
    have habove : tree.shapeAt? names = some .dir :=
      shapeAt?_of_isPrefix_dir (List.prefix_append names [last]) hdir
    have hstart := ih (fun hmem => hdown (List.mem_append_left [name] hmem)) habove
    exact locate_concat_eq_ok_iff.mpr
      ⟨_, hstart, step_eq_ok_iff.mpr ⟨hdir, (if_neg hname).symm⟩⟩

/-- On a clear path, beneath a missing directory nothing is found. -/
theorem Clear.locate_of_missing (h : tree.Clear names) (hdir : tree.shapeAt? names ≠ some .dir) :
    tree.locate (names ++ [name]) = .error .notFound := by
  induction names using List.reverseRecOn generalizing name with
  | nil =>
    cases hshape : tree.shape with
    | dir => simp [shapeAt?_nil, hshape] at hdir
    | file content => exact absurd (by rw [shapeAt?_nil, hshape]) (h.noFile [] (by simp) content)
  | append_singleton names last ih =>
    rw [locate_concat]
    by_cases habove : tree.shapeAt? names = some .dir
    · rw [locate_of_dir h.downward habove]
      have hnone : tree.lookup? (names ++ [last]) = none := by
        rw [lookup?_eq_none_iff]
        cases hshape : tree.shapeAt? (names ++ [last]) with
        | none => rfl
        | some shape =>
          cases shape with
          | dir => exact absurd hshape hdir
          | file content => exact absurd hshape (h.noFile _ (List.prefix_refl _) content)
      simp [bind, Except.bind, step, hnone]
    · rw [ih h.of_concat habove]
      rfl

theorem isDirAt_of_locate (hlocate : tree.locate names = .ok location)
    (hdir : tree.shapeAt? location = some .dir) : tree.isDirAt names = true := by
  obtain ⟨entry, hentry, heq⟩ := Option.map_eq_some_iff.mp hdir
  obtain ⟨entries, rfl⟩ := shape_eq_dir_iff.mp heq
  simp [isDirAt, find?, hlocate, hentry]

/-- Where a path leads to a place without a file, its directory is created or there already. -/
theorem makeDirIfMissing_of_locate (husable : areUsable names)
    (hlocate : tree.locate names = .ok location)
    (hfile : ∀ content, tree.shapeAt? location ≠ some (.file content)) :
    ∃ made, tree.makeDirIfMissing names = (made, none) ∧
      made.shapeAt? location = some .dir := by
  cases hshape : tree.shapeAt? location with
  | none =>
    have hmake := makeDir_eq_ok_iff.mpr ⟨husable, location, hlocate, hshape, rfl⟩
    refine ⟨_, by rw [makeDirIfMissing, hmake], ?_⟩
    rw [shapeAt?_put_of_isLeaf (open_of_locate hlocate) isLeaf_empty (by simp [hshape]), if_pos rfl]
    rfl
  | some shape =>
    cases shape with
    | file content => exact absurd hshape (hfile content)
    | dir =>
      refine ⟨tree, ?_, hshape⟩
      cases hmake : tree.makeDir names with
      | error fault => simp [makeDirIfMissing, hmake, isDirAt_of_locate hlocate hshape]
      | ok made =>
        obtain ⟨-, other, hother, hnone, -⟩ := makeDir_eq_ok_iff.mp hmake
        rw [hlocate] at hother
        cases hother
        simp [hshape] at hnone

/-- A directory cannot be created for want of those above it exactly if its path leads nowhere. -/
theorem makeDir_eq_notFound_iff (husable : areUsable names) :
    tree.makeDir names = .error .notFound ↔ tree.locate names = .error .notFound := by
  unfold makeDir
  cases hlocate : tree.locate names with
  | error fault => simp [husable, bind, Except.bind]
  | ok location =>
    cases hat : tree.lookup? location <;>
      simp [husable, hat, bind, Except.bind, pure, Except.pure, throw, throwThe,
        MonadExceptOf.throw]

/-- A clear path becomes a directory, whichever of the directories above are missing. -/
theorem Clear.makeDirsUpward {upward : List String} (h : tree.Clear upward.reverse) :
    ∃ made, tree.makeDirsUpward upward = (made, none) ∧
      made.shapeAt? upward.reverse = some .dir := by
  induction upward with
  | nil => exact makeDirIfMissing_of_locate h.usable rfl (h.noFile [] (by simp))
  | cons name above ih =>
    rw [List.reverse_cons] at h ⊢
    by_cases hdir : tree.shapeAt? above.reverse = some .dir
    case pos =>
      have hlocate := locate_of_dir h.downward hdir
      have hfound : tree.makeDir (name :: above).reverse ≠ .error .notFound := by
        rw [List.reverse_cons, ne_eq, makeDir_eq_notFound_iff h.usable, hlocate]
        nofun
      rw [makeDirsUpward_cons hfound, List.reverse_cons]
      exact makeDirIfMissing_of_locate h.usable hlocate (h.noFile _ (List.prefix_refl _))
    case neg =>
      have hfound : tree.makeDir (name :: above).reverse = .error .notFound := by
        rw [List.reverse_cons, makeDir_eq_notFound_iff h.usable]
        exact h.of_concat.locate_of_missing hdir
      obtain ⟨made, hmade, hmadeDir⟩ := ih h.of_concat
      have hadds : AddsDirs above.reverse tree made := by
        have hupward := addsDirs_makeDirsUpward tree above
        rwa [hmade] at hupward
      rw [makeDirsUpward_cons_of_made hfound hmade, List.reverse_cons]
      exact makeDirIfMissing_of_locate h.usable (locate_of_dir h.downward hmadeDir)
        ((h.of_addsDirs hadds).noFile _ (List.prefix_refl _))

/-- On a clear way every missing directory is created. -/
theorem Clear.makeDirs (h : tree.Clear names) :
    ∃ made, tree.makeDirs names = (made, none) ∧ made.shapeAt? names = some .dir := by
  have hreverse : tree.Clear names.reverse.reverse := by rwa [List.reverse_reverse]
  obtain ⟨made, hmade, hdir⟩ := hreverse.makeDirsUpward
  rw [List.reverse_reverse] at hdir
  exact ⟨made, hmade, hdir⟩

end FileTree

end TreeLint
