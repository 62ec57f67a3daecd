import TreeLint.Sink

/-!
# Stable arrangements

A list is arranged stably by a comparison if it is sorted and the elements that tie with a given one
come in the order in which they stood before. There is just one such arrangement of a list, and
merge sort finds it. So whatever keeps an arrangement stable commutes with the sort, as selecting
elements does.

## Main definitions

* `ties`: the elements that tie with a given one
* `StableArrangement`: one list is the stable arrangement of another

## Main results

* `StableArrangement.unique`: a list has one stable arrangement
* `stableArrangement_mergeSort`: merge sort arranges stably
* `mergeSort_filter`: sorting commutes with selection
* `mergeSort_eq_of_ties`: lists with the same ties are sorted alike
* `Sink.sorted_of_diagnostics_eq`: the same for the sorted view of a sink
-/

namespace TreeLint

variable {α : Type}

/-- The elements of a list that tie with a given one. -/
def ties (cmp : α → α → Ordering) (a : α) (xs : List α) : List α :=
  xs.filter fun b => cmp a b == .eq

/-- The second list is the first one, sorted by a comparison and with the order of ties kept. -/
structure StableArrangement (cmp : α → α → Ordering) (xs ys : List α) : Prop where
  sorted : ys.Pairwise fun a b => (cmp a b).isLE
  ties_eq : ∀ a, ties cmp a ys = ties cmp a xs

section Ties

variable {cmp : α → α → Ordering} {a b : α} {xs : List α}

theorem mem_ties : b ∈ ties cmp a xs ↔ b ∈ xs ∧ cmp a b = .eq := by
  simp [ties]

theorem ties_cons_of_eq (h : cmp a b = .eq) : ties cmp a (b :: xs) = b :: ties cmp a xs := by
  simp [ties, h]

theorem ties_cons_of_ne (h : cmp a b ≠ .eq) : ties cmp a (b :: xs) = ties cmp a xs := by
  simp [ties, h]

theorem ties_filter (p : α → Bool) : ties cmp a (xs.filter p) = (ties cmp a xs).filter p := by
  simp only [ties, List.filter_filter, Bool.and_comm]

end Ties

namespace StableArrangement

variable {cmp : α → α → Ordering} {xs ys zs : List α}

theorem mem_iff [Std.OrientedCmp cmp] (h : StableArrangement cmp xs ys) {a : α} :
    a ∈ ys ↔ a ∈ xs := by
  have hself : cmp a a = .eq := Std.ReflCmp.compare_self
  have hties := h.ties_eq a
  calc a ∈ ys
      ↔ a ∈ ties cmp a ys := by simp [mem_ties, hself]
    _ ↔ a ∈ ties cmp a xs := by rw [hties]
    _ ↔ a ∈ xs := by simp [mem_ties, hself]

/-- The head of an arrangement comes before every element. -/
theorem isLE_head [Std.OrientedCmp cmp] {y : α} (h : StableArrangement cmp xs (y :: ys)) {a : α}
    (ha : a ∈ xs) : (cmp y a).isLE := by
  rcases List.mem_cons.mp (h.mem_iff.mpr ha) with rfl | hmem
  · exact Std.ReflCmp.isLE_rfl
  · exact List.rel_of_pairwise_cons h.sorted hmem

/-- Two arrangements of one list begin with the same element: each head comes before the other, so
they tie, and of what ties with them both have the first. -/
theorem head_eq [Std.OrientedCmp cmp] {y z : α} (hys : StableArrangement cmp xs (y :: ys))
    (hzs : StableArrangement cmp xs (z :: zs)) : y = z := by
  have hyz : cmp y z = .eq := Std.OrientedCmp.isLE_antisymm
    (hys.isLE_head (hzs.mem_iff.mp List.mem_cons_self))
    (hzs.isLE_head (hys.mem_iff.mp List.mem_cons_self))
  have hties : ties cmp y (y :: ys) = ties cmp y (z :: zs) := by
    rw [hys.ties_eq, hzs.ties_eq]
  rw [ties_cons_of_eq Std.ReflCmp.compare_self, ties_cons_of_eq hyz] at hties
  exact (List.cons.inj hties).1

/-- A list has one stable arrangement. -/
theorem unique [Std.OrientedCmp cmp] (hys : StableArrangement cmp xs ys)
    (hzs : StableArrangement cmp xs zs) : ys = zs := by
  induction ys generalizing xs zs with
  | nil =>
    cases zs with
    | nil => rfl
    | cons z zs => simpa using hys.mem_iff.mpr (hzs.mem_iff.mp List.mem_cons_self)
  | cons y ys ih =>
    cases zs with
    | nil => simpa using hzs.mem_iff.mpr (hys.mem_iff.mp List.mem_cons_self)
    | cons z zs =>
      obtain rfl := hys.head_eq hzs
      have hties : ∀ a, ties cmp a zs = ties cmp a ys := by
        intro a
        have h := (hzs.ties_eq a).trans (hys.ties_eq a).symm
        by_cases hay : cmp a y = .eq
        · rw [ties_cons_of_eq hay, ties_cons_of_eq hay] at h
          exact (List.cons.inj h).2
        · rwa [ties_cons_of_ne hay, ties_cons_of_ne hay] at h
      -- The tails arrange one list too, for which either of them can be taken.
      rw [ih ⟨hys.sorted.of_cons, fun _ => rfl⟩ ⟨hzs.sorted.of_cons, hties⟩]

/-- Selecting the same elements before and after keeps an arrangement. -/
theorem filter (h : StableArrangement cmp xs ys) (p : α → Bool) :
    StableArrangement cmp (xs.filter p) (ys.filter p) where
  sorted := h.sorted.filter p
  ties_eq a := by rw [ties_filter, ties_filter, h.ties_eq]

end StableArrangement

section MergeSort

variable {cmp : α → α → Ordering} [Std.TransCmp cmp]

/-- What ties with an element is sorted as it stands. -/
theorem pairwise_ties (a : α) (xs : List α) :
    (ties cmp a xs).Pairwise fun b c => (cmp b c).isLE := by
  refine List.pairwise_of_forall_mem_list fun b hb c hc => ?_
  rw [← Std.TransCmp.congr_left (mem_ties.mp hb).2, (mem_ties.mp hc).2]
  rfl

/-- Merge sort arranges stably. -/
theorem stableArrangement_mergeSort (xs : List α) :
    StableArrangement cmp xs (xs.mergeSort fun a b => (cmp a b).isLE) := by
  have htrans : ∀ a b c, (cmp a b).isLE → (cmp b c).isLE → (cmp a c).isLE :=
    fun _ _ _ => Std.TransCmp.isLE_trans
  have htotal : ∀ a b, ((cmp a b).isLE || (cmp b a).isLE) = true := by
    intro a b
    have hswap : cmp b a = (cmp a b).swap := Std.OrientedCmp.eq_swap
    rw [hswap]
    cases cmp a b <;> rfl
  refine ⟨List.pairwise_mergeSort htrans htotal xs, fun a => ?_⟩
  have hsub : (ties cmp a xs).Sublist
      (ties cmp a (xs.mergeSort fun a b => (cmp a b).isLE)) := by
    have h := List.sublist_mergeSort htrans htotal (pairwise_ties a xs) List.filter_sublist
    simpa [ties] using h.filter fun b => cmp a b == .eq
  have hlength := ((List.mergeSort_perm xs fun a b => (cmp a b).isLE).filter fun b =>
    cmp a b == .eq).length_eq
  exact (hsub.eq_of_length hlength.symm).symm

variable (cmp) in
/-- Sorting commutes with selection. -/
theorem mergeSort_filter (p : α → Bool) (xs : List α) :
    ((xs.filter p).mergeSort fun a b => (cmp a b).isLE) =
      (xs.mergeSort fun a b => (cmp a b).isLE).filter p :=
  (stableArrangement_mergeSort (xs.filter p)).unique ((stableArrangement_mergeSort xs).filter p)

/-- Lists with the same ties are sorted alike. -/
theorem mergeSort_eq_of_ties {xs ys : List α} (h : ∀ a, ties cmp a xs = ties cmp a ys) :
    (xs.mergeSort fun a b => (cmp a b).isLE) = ys.mergeSort fun a b => (cmp a b).isLE := by
  have hys : StableArrangement cmp ys _ := stableArrangement_mergeSort ys
  refine (stableArrangement_mergeSort xs).unique ⟨hys.sorted, fun a => ?_⟩
  rw [hys.ties_eq, h]

/-- Lists with the same ties have the same members, each as often. -/
theorem perm_of_ties {xs ys : List α} (h : ∀ a, ties cmp a xs = ties cmp a ys) : xs.Perm ys := by
  have hxs := List.mergeSort_perm xs fun a b => (cmp a b).isLE
  have hys := List.mergeSort_perm ys fun a b => (cmp a b).isLE
  rw [mergeSort_eq_of_ties h] at hxs
  exact hxs.symm.trans hys

end MergeSort

/-! ## Sorted sinks -/

instance Diagnostic.transCmp_compareSite : Std.TransCmp compareSite := by
  unfold compareSite
  infer_instance

instance Diagnostic.transCmp_compareRank : Std.TransCmp compareRank := by
  unfold compareRank
  infer_instance

/-- A sink that recorded its diagnostics in order shows them as it recorded them. -/
theorem Sink.sorted_of_pairwise {s : Sink} {ds : List Diagnostic} (h : s.diagnostics = ds)
    (hds : ds.Pairwise fun a b => (Diagnostic.compareSite a b).isLE) : s.sorted = ds := by
  rw [sorted, h, List.mergeSort_of_pairwise hds]

/-- A sink that recorded what another did, selected and changed in ways that the order does not see,
shows so after sorting too. -/
theorem Sink.sorted_of_diagnostics_eq {s t : Sink} {p : Diagnostic → Bool}
    {f : Diagnostic → Diagnostic}
    (hf : ∀ a b, Diagnostic.compareSite (f a) (f b) = Diagnostic.compareSite a b)
    (h : s.diagnostics = (t.diagnostics.filter p).map f) :
    s.sorted = (t.sorted.filter p).map f := by
  have hfilter := mergeSort_filter Diagnostic.compareSite p t.diagnostics
  rw [sorted, sorted, h, ← hfilter]
  refine (List.map_mergeSort fun a _ b _ => ?_).symm
  rw [hf]

end TreeLint
