import TreeLint.Proofs.Orders

/-!
# The first diagnostics of a sink

The diagnostics that a report shows first are found by a sort of their own, by severity and then by
site. That sort agrees with the sorted view: it lists the denied diagnostics of the view and then
its warnings, each in the order of the view. A limit cuts this list, so no warning is shown while a
denied diagnostic is left out.

## Main definitions

* `ArrangedBy`: one list is the stable arrangement of another by a key
* `sliceEnd`: where the front of a list up to a limit ends

## Main results

* `stableArrangement_iff_arrangedBy`: stable arrangements by a comparison and by the key it reads
* `StableArrangement.partition`: a sort that puts some elements first partitions the sorted list
* `Sink.arrangedBy_siteKey_iff`: the sorted view is the one stable arrangement by its key
* `Sink.top_eq_take`: the first diagnostics are the front of the denied ones and the warnings
* `Sink.top_lists_denied_first`: what the sorted view and the first diagnostics of a sink are
-/

namespace TreeLint

variable {α : Type}

/-! ## Arrangements by a key -/

/-- The second list has the elements of the first one in the order of their keys, and those with one
key in the order in which they stood before. -/
structure ArrangedBy {κ : Type} [LE κ] [DecidableEq κ] (key : α → κ) (xs ys : List α) : Prop where
  perm : ys.Perm xs
  ascending : ys.Pairwise fun a b => key a ≤ key b
  stable : ∀ k, (ys.filter fun a => key a = k) = xs.filter fun a => key a = k

/-- A comparison that reads a key arranges stably by the key. -/
theorem stableArrangement_iff_arrangedBy {κ : Type} [LE κ] [DecidableEq κ] {key : α → κ}
    {cmp : α → α → Ordering} [Std.TransCmp cmp] (hle : ∀ a b, (cmp a b).isLE ↔ key a ≤ key b)
    (heq : ∀ a b, cmp a b = .eq ↔ key a = key b) {xs ys : List α} :
    StableArrangement cmp xs ys ↔ ArrangedBy key xs ys := by
  have hties : ∀ a zs, ties cmp a zs = zs.filter fun b => key b = key a := by
    intro a zs
    refine List.filter_congr fun b _ => ?_
    rw [Bool.eq_iff_iff, beq_iff_eq, heq, decide_eq_true_iff, eq_comm]
  constructor
  · intro h
    refine ⟨perm_of_ties h.ties_eq, h.sorted.imp fun hab => (hle _ _).mp hab, fun k => ?_⟩
    by_cases hk : ∃ a, key a = k
    · obtain ⟨a, rfl⟩ := hk
      rw [← hties, ← hties, h.ties_eq]
    · -- No element at all has the key.
      have hnone : ∀ zs : List α, (zs.filter fun a => key a = k) = [] := by
        intro zs
        exact List.filter_eq_nil_iff.mpr fun a _ ha => hk ⟨a, of_decide_eq_true ha⟩
      rw [hnone, hnone]
  · intro h
    refine ⟨h.ascending.imp fun hab => (hle _ _).mpr hab, fun a => ?_⟩
    rw [hties, hties, h.stable]

/-! ## Putting some elements first -/

section Partition

variable {cmp ranked : α → α → Ordering} {p : α → Bool}

/-- Elements tie in the finer order if they tie in the coarser one and are of the same class. -/
theorem ties_of_classes [Std.OrientedCmp ranked]
    (hsame : ∀ a b, p a = p b → ranked a b = cmp a b)
    (hfirst : ∀ a b, p a → p b = false → ranked a b = .lt) (a : α) (xs : List α) :
    ties ranked a xs = (ties cmp a xs).filter fun b => p b == p a := by
  rw [ties, ties, List.filter_filter]
  refine List.filter_congr fun b _ => ?_
  rw [Bool.eq_iff_iff, Bool.and_eq_true, beq_iff_eq, beq_iff_eq, beq_iff_eq]
  by_cases hab : p b = p a
  · rw [hsame a b hab.symm]
    exact ⟨fun heq => ⟨hab, heq⟩, And.right⟩
  · -- One of the two comes first, whichever it is.
    refine iff_of_false (fun heq => ?_) fun h => hab h.1
    cases ha : p a with
    | true =>
      have hlt := hfirst a b ha (by simpa [ha] using hab)
      rw [heq] at hlt
      cases hlt
    | false =>
      have hlt := hfirst b a (by simpa [ha] using hab) ha
      rw [Std.OrientedCmp.eq_symm heq] at hlt
      cases hlt

/-- If an order puts the elements of a class first, and otherwise goes by a coarser one, then its
arrangement is the arrangement by the coarser one, parted into the class and the rest. -/
theorem StableArrangement.partition [Std.OrientedCmp ranked]
    (hsame : ∀ a b, p a = p b → ranked a b = cmp a b)
    (hfirst : ∀ a b, p a → p b = false → ranked a b = .lt) {xs ys : List α}
    (h : StableArrangement cmp xs ys) :
    StableArrangement ranked xs (ys.filter p ++ ys.filter fun a => !p a) where
  sorted := by
    have hpart : ∀ q : α → Bool, (∀ a b, q a → q b → p a = p b) →
        (ys.filter q).Pairwise fun a b => (ranked a b).isLE := by
      intro q hq
      refine (h.sorted.filter q).imp_of_mem fun {a b} ha hb hab => ?_
      rwa [hsame a b (hq a b (List.mem_filter.mp ha).2 (List.mem_filter.mp hb).2)]
    refine List.pairwise_append.mpr ⟨hpart _ ?_, hpart _ ?_, fun a ha b hb => ?_⟩
    · intro a b ha hb
      rw [ha, hb]
    · intro a b ha hb
      simpa using ha.trans hb.symm
    · have hb : p b = false := by simpa using (List.mem_filter.mp hb).2
      rw [hfirst a b (List.mem_filter.mp ha).2 hb]
      rfl
  ties_eq a := by
    have hparts : ties cmp a (ys.filter p ++ ys.filter fun a => !p a) =
        (ties cmp a ys).filter p ++ (ties cmp a ys).filter fun a => !p a := by
      rw [← ties_filter, ← ties_filter]
      exact List.filter_append ..
    rw [ties_of_classes hsame hfirst, ties_of_classes hsame hfirst, hparts, h.ties_eq,
      List.filter_append]
    generalize ties cmp a xs = tied
    cases p a <;> simp [List.filter_filter]

end Partition

/-! ## Fronts of lists -/

/-- Where the front of a list up to a limit ends. Without a limit it is the whole list, a negative
limit counts from the end, and a limit beyond either end is cut to it. -/
def sliceEnd (length : Nat) : Option Int → Nat
  | none => length
  | some limit => (if limit < 0 then max (length + limit) 0 else min limit length).toNat

/-- A slice up to a limit is a number of first elements. -/
theorem sliceTo_eq_take (limit : Option Int) (xs : List α) :
    sliceTo limit xs = xs.take (sliceEnd xs.length limit) := by
  match limit with
  | none => exact List.take_length.symm
  | some (.ofNat n) =>
    have hend : sliceEnd xs.length (some (.ofNat n)) = min n xs.length := by
      simp only [sliceEnd, Int.ofNat_eq_natCast]
      omega
    rw [hend, ← List.take_eq_take_min]
    rfl
  | some (.negSucc n) =>
    have hend : sliceEnd xs.length (some (.negSucc n)) = xs.length - (n + 1) := by
      simp only [sliceEnd, Int.negSucc_eq]
      omega
    rw [hend]
    rfl

/-- A front that reaches beyond a first part has all of it. -/
theorem mem_take_append_of_mem {xs ys : List α} {n : Nat} {a b : α}
    (ha : a ∈ (xs ++ ys).take n) (hnot : a ∉ xs) (hb : b ∈ xs) : b ∈ (xs ++ ys).take n := by
  rw [List.take_append] at ha ⊢
  have hlong : xs.length ≤ n := by
    by_contra hshort
    rcases List.mem_append.mp ha with hmem | hmem
    · exact hnot (List.mem_of_mem_take hmem)
    · rw [Nat.sub_eq_zero_of_le (Nat.le_of_not_le hshort), List.take_zero] at hmem
      exact absurd hmem List.not_mem_nil
  rw [List.take_of_length_le hlong]
  exact List.mem_append_left _ hb

/-! ## The first diagnostics -/

namespace Diagnostic

variable {a b : Diagnostic}

/-- Diagnostics of one severity are ranked by their sites. -/
theorem compareRank_of_severity_eq (h : a.severity = b.severity) :
    compareRank a b = compareSite a b := by
  simp [compareRank, compareLex, compareOn, h]

/-- What is denied ranks before what is warned of. -/
theorem compareRank_of_denied (ha : a.severity = .deny) (hb : b.severity = .warn) :
    compareRank a b = .lt := by
  simp only [compareRank, compareLex, compareOn, ha, hb]
  rfl

end Diagnostic

namespace Sink

theorem stableArrangement_sorted (s : Sink) :
    StableArrangement Diagnostic.compareSite s.diagnostics s.sorted :=
  stableArrangement_mergeSort s.diagnostics

/-- The sorted view is the one stable arrangement by file, line, column and rule. -/
theorem arrangedBy_siteKey_iff {s : Sink} {ds : List Diagnostic} :
    ArrangedBy Diagnostic.siteKey s.diagnostics ds ↔ ds = s.sorted := by
  have harranged : StableArrangement Diagnostic.compareSite s.diagnostics ds ↔
      ArrangedBy Diagnostic.siteKey s.diagnostics ds := by
    apply stableArrangement_iff_arrangedBy
    · exact fun a b => Diagnostic.isLE_compareSite_iff
    · exact fun a b => Diagnostic.compareSite_eq_iff_siteKey
  rw [← harranged]
  constructor
  · intro hds
    exact hds.unique s.stableArrangement_sorted
  · rintro rfl
    exact s.stableArrangement_sorted

/-- The denied diagnostics of the sorted view, and then its warnings. -/
def ranked (s : Sink) : List Diagnostic :=
  (s.sorted.filter fun d => d.severity = .deny) ++ s.sorted.filter fun d => d.severity = .warn

/-- The sort by severity and site gives the denied diagnostics of the sorted view and then its
warnings. -/
theorem mergeSort_compareRank (s : Sink) :
    (s.diagnostics.mergeSort fun a b => (Diagnostic.compareRank a b).isLE) = s.ranked := by
  have hwarn : ∀ d : Diagnostic, (!decide (d.severity = .deny)) = decide (d.severity = .warn) := by
    intro d
    cases d.severity <;> rfl
  have hsame : ∀ a b : Diagnostic, decide (a.severity = .deny) = decide (b.severity = .deny) →
      Diagnostic.compareRank a b = Diagnostic.compareSite a b := by
    intro a b hab
    apply Diagnostic.compareRank_of_severity_eq
    cases ha : a.severity <;> cases hb : b.severity <;> simp [ha, hb] at hab ⊢
  have hfirst : ∀ a b : Diagnostic, decide (a.severity = .deny) →
      decide (b.severity = .deny) = false → Diagnostic.compareRank a b = .lt := by
    intro a b ha hb
    apply Diagnostic.compareRank_of_denied (of_decide_eq_true ha)
    exact of_decide_eq_true ((hwarn b).symm.trans (congrArg not hb))
  have hranked := s.stableArrangement_sorted.partition hsame hfirst
  simp only [hwarn] at hranked
  exact (stableArrangement_mergeSort s.diagnostics).unique hranked

/-- The top diagnostics are the first of the ranking, as many as the limit allows. -/
theorem top_eq_take (s : Sink) (limit : Option Int) :
    s.top limit = s.ranked.take (sliceEnd s.ranked.length limit) := by
  rw [top, mergeSort_compareRank, sliceTo_eq_take]

/-- While a warning is shown no denied diagnostic is left out. -/
theorem mem_top_of_denied {s : Sink} {limit : Option Int} {w d : Diagnostic}
    (hw : w ∈ s.top limit) (hwarn : w.severity = .warn) (hd : d ∈ s.diagnostics)
    (hdeny : d.severity = .deny) : d ∈ s.top limit := by
  rw [top_eq_take] at hw ⊢
  apply mem_take_append_of_mem hw
  · simp [hwarn]
  · have hsorted : d ∈ s.sorted := (List.mergeSort_perm _ _).mem_iff.mpr hd
    simpa [hdeny] using hsorted

/-- **The first diagnostics are the denied ones and then the warnings.** For every sink, however it
was filled, the sorted view is the one stable arrangement of the recorded diagnostics by file, line,
column and rule, with texts compared by code points. Up to any limit, the first diagnostics are the
front of the list of the denied diagnostics of the sorted view, in their order, followed by its
warnings, in theirs. So a warning is shown only if all denied diagnostics are. -/
theorem top_lists_denied_first (s : Sink) :
    (∀ ds, ArrangedBy Diagnostic.siteKey s.diagnostics ds ↔ ds = s.sorted) ∧
    (∀ limit, s.top limit = s.ranked.take (sliceEnd s.ranked.length limit)) ∧
    (∀ limit, ∀ w ∈ s.top limit, w.severity = .warn →
      ∀ d ∈ s.diagnostics, d.severity = .deny → d ∈ s.top limit) := by
  refine ⟨fun ds => arrangedBy_siteKey_iff, s.top_eq_take, ?_⟩
  intro limit w hw hwarn d hd hdeny
  exact mem_top_of_denied hw hwarn hd hdeny

/-- A diagnostic without a category on a line. -/
def onLine (line : Int) (severity : Severity) (message : String) : Diagnostic where
  rule := "rule"
  severity
  span := .written ⟨"src/lib.rs", line, 1, line, 9⟩
  message
  category := .absent

/-- A sink that recorded two denied diagnostics of a line after a warning of the line before. -/
def afterWarning : Sink :=
  ((empty.record (onLine 1 .warn "early")).record (onLine 2 .deny "first")).record
    (onLine 2 .deny "second")

/-- The warning comes first in the sorted view and last in the ranking. The limit that drops one
diagnostic drops it, and the limit at which it is shown shows the denied ones too. -/
theorem top_afterWarning :
    afterWarning.sorted =
      [onLine 1 .warn "early", onLine 2 .deny "first", onLine 2 .deny "second"] ∧
    afterWarning.top (some (-1)) = [onLine 2 .deny "first", onLine 2 .deny "second"] ∧
    onLine 1 .warn "early" ∈ afterWarning.top (some 3) ∧
    onLine 2 .deny "second" ∈ afterWarning.top (some 3) := by
  obtain ⟨hview, htop, hshown⟩ := top_lists_denied_first afterWarning
  have hsorted : afterWarning.sorted =
      [onLine 1 .warn "early", onLine 2 .deny "first", onLine 2 .deny "second"] :=
    ((hview _).mp ⟨.refl _, by decide, fun k => rfl⟩).symm
  have hranked : afterWarning.ranked =
      [onLine 2 .deny "first", onLine 2 .deny "second", onLine 1 .warn "early"] := by
    rw [ranked, hsorted]
    rfl
  have hwarning : onLine 1 .warn "early" ∈ afterWarning.top (some 3) := by
    rw [htop, hranked]
    decide
  refine ⟨hsorted, ?_, hwarning, ?_⟩
  · rw [htop, hranked]
    rfl
  · exact hshown _ _ hwarning rfl _ (by decide) rfl

end Sink

end TreeLint
