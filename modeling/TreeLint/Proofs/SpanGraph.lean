import Mathlib.Data.Fintype.Pigeonhole
import Mathlib.Data.Set.Card
import Mathlib.Order.Bounds.Basic
import TreeLint.Event
import TreeLint.Proofs.Unwinding

/-!
# Unwinding in graphs of spans

In a graph the call site of a span may be any span, so the sites that follow a span either end at
one that is its own call site, or run into a cycle, which need not hold the first span. Unwinding
meets the sites in their order and drops each from those that are left. It is described by the sites
alone: after a number of hops it stands at the site of that number, and what is left are the spans
that are none of the sites so far.

## Main definitions

* `SpanGraph.site`: the span that is reached by a number of hops
* `SpanGraph.orbit`: all spans that are reached
* `SpanGraph.Left`: what is left to be met after a number of hops

## Main results

* `SpanGraph.exists_unwind_eq`: unwinding stands at the site of its number of hops
* `SpanGraph.exists_first_return`: a chain without an end comes back to one of its sites after as
  many hops as there are spans on it
* `SpanGraph.unwind_outcome`: the outcome of unwinding on every graph and with every limit
-/

namespace TreeLint.SpanGraph

variable {n : Nat} (g : SpanGraph n) (s : Fin n)

/-- The span that is reached from another by a number of hops to call sites. -/
def site (i : Nat) : Fin n :=
  g.callSite^[i] s

/-- The spans that are reached from a span by any number of hops. -/
def orbit : Set (Fin n) :=
  Set.range (g.site s)

/-- The sites of a span up to a number of hops are different spans. -/
def Distinct (hops : Nat) : Prop :=
  ∀ i j, i < j → j ≤ hops → g.site s i ≠ g.site s j

variable {g s} {limit : Option Int} {hops k m : Nat} {unseen : List (Fin n)}

theorem site_succ (i : Nat) : g.site s (i + 1) = g.callSite (g.site s i) :=
  Function.iterate_succ_apply' g.callSite i s

theorem site_add (i j : Nat) : g.site s (i + j) = g.site (g.site s j) i :=
  Function.iterate_add_apply g.callSite i j s

/-! ## The walk -/

/-- The spans that are left to be met after a number of hops: those that are none of the sites so
far, each once. -/
structure Left (g : SpanGraph n) (s : Fin n) (hops : Nat) (unseen : List (Fin n)) : Prop where
  nodup : unseen.Nodup
  mem_iff : ∀ a, a ∈ unseen ↔ ∀ i ≤ hops, g.site s i ≠ a

theorem left_zero : g.Left s 0 ((List.finRange n).erase s) where
  nodup := (List.nodup_finRange n).erase s
  mem_iff a := by
    rw [(List.nodup_finRange n).mem_erase_iff]
    constructor
    · rintro ⟨hne, -⟩ i hi
      obtain rfl : i = 0 := by omega
      exact fun h => hne h.symm
    · intro h
      exact ⟨fun ha => h 0 le_rfl ha.symm, List.mem_finRange a⟩

/-- The next site is dropped by the next hop. -/
theorem Left.hop (h : g.Left s hops unseen) :
    g.Left s (hops + 1) (unseen.erase (g.site s (hops + 1))) where
  nodup := h.nodup.erase _
  mem_iff a := by
    rw [h.nodup.mem_erase_iff, h.mem_iff]
    constructor
    · rintro ⟨hne, hold⟩ i hi
      rcases Nat.lt_or_ge hops i with hlt | hle
      · obtain rfl : i = hops + 1 := by omega
        exact fun ha => hne ha.symm
      · exact hold i hle
    · intro hnew
      exact ⟨fun ha => hnew (hops + 1) le_rfl ha.symm, fun i hi => hnew i (by omega)⟩

theorem permits_of_succ (h : Permits limit (hops + 1)) : Permits limit hops := by
  rcases h with h | h
  · exact absurd h (Nat.succ_ne_zero hops)
  · right
    intro depth hdepth
    have := h depth hdepth
    omega

/-- Where the next site differs from those so far, it is left to be met. -/
theorem Left.callSite_mem (h : g.Left s hops unseen) (hnew : g.Distinct s (hops + 1)) :
    g.callSite (g.site s hops) ≠ g.site s hops ∧ g.callSite (g.site s hops) ∈ unseen := by
  rw [← site_succ, h.mem_iff]
  constructor
  · exact (hnew hops (hops + 1) (Nat.lt_succ_self hops) le_rfl).symm
  · intro i hi
    exact hnew i (hops + 1) (by omega) le_rfl

/-- One step of the walk, to a span that was not met yet. -/
theorem unwindFrom_of_within (h : g.Left s hops unseen) (hnew : g.Distinct s (hops + 1))
    (hwithin : exceeded? limit (hops + 1) = none) :
    unwindFrom g.callSite limit s unseen hops (g.site s hops) =
      unwindFrom g.callSite limit s (unseen.erase (g.site s (hops + 1))) (hops + 1)
        (g.site s (hops + 1)) := by
  obtain ⟨hmoves, hleft⟩ := h.callSite_mem hnew
  rw [unwindFrom, if_neg hmoves, dif_pos hleft, hwithin, site_succ]

/-- The step that exceeds the limit. -/
theorem unwindFrom_of_exceeded {depth : Int} (h : g.Left s hops unseen)
    (hnew : g.Distinct s (hops + 1)) (hover : exceeded? limit (hops + 1) = some depth) :
    unwindFrom g.callSite limit s unseen hops (g.site s hops) = .error (.tooDeep s depth) := by
  obtain ⟨hmoves, hleft⟩ := h.callSite_mem hnew
  rw [unwindFrom, if_neg hmoves, dif_pos hleft, hover]

/-- As long as no span is met twice and the limit permits the hops, unwinding stands at the site of
their number. -/
theorem exists_unwind_eq (hnew : g.Distinct s hops) (hp : Permits limit hops) :
    ∃ unseen, g.Left s hops unseen ∧
      g.unwind limit s = unwindFrom g.callSite limit s unseen hops (g.site s hops) := by
  induction hops with
  | zero => exact ⟨_, left_zero, rfl⟩
  | succ hops ih =>
    obtain ⟨unseen, hleft, hwalk⟩ :=
      ih (fun i j hij hj => hnew i j hij (by omega)) (permits_of_succ hp)
    refine ⟨_, hleft.hop, ?_⟩
    have hwithin : exceeded? limit (hops + 1) = none :=
      exceeded?_eq_none_iff.mpr (hp.resolve_left (Nat.succ_ne_zero hops))
    rw [hwalk, unwindFrom_of_within hleft hnew hwithin]

/-- Where the limit does not permit a number of hops to different spans, unwinding fails for it. -/
theorem unwind_of_not_permits (hnew : g.Distinct s hops) (hp : ¬ Permits limit hops) :
    ∃ depth, limit = some depth ∧ g.unwind limit s = .error (.tooDeep s depth) := by
  obtain ⟨hpos, hdepth⟩ := not_or.mp hp
  obtain ⟨depth, hexceeded⟩ := Option.ne_none_iff_exists'.mp (exceeded?_eq_none_iff.not.mpr hdepth)
  obtain ⟨rfl, hlt⟩ := Option.filter_eq_some_iff.mp hexceeded
  simp only [decide_eq_true_eq] at hlt
  refine ⟨depth, rfl, ?_⟩
  -- The last hop that is permitted is that of number `depth`, or none if `depth` is negative.
  have hlast : Permits (some depth) depth.toNat := by
    rcases Nat.eq_zero_or_pos depth.toNat with hzero | hpos
    · exact .inl hzero
    · right
      rintro _ ⟨⟩
      omega
  have hshort : g.Distinct s (depth.toNat + 1) := fun i j hij hj => hnew i j hij (by omega)
  obtain ⟨unseen, hleft, hwalk⟩ :=
    exists_unwind_eq (fun i j hij hj => hshort i j hij (by omega)) hlast
  have hover : exceeded? (some depth) (depth.toNat + 1) = some depth := by
    refine Option.filter_eq_some_iff.mpr ⟨rfl, ?_⟩
    simp only [decide_eq_true_eq]
    omega
  rw [hwalk, unwindFrom_of_exceeded hleft hshort hover]

/-! ## Chains that end -/

/-- A chain that ends after `k` hops meets no span twice. -/
theorem distinct_of_isLeast (h : IsLeast {i | g.callSite (g.site s i) = g.site s i} k) :
    g.Distinct s k := by
  have hleads : ∀ r i, i + r = k → Leads g.callSite (g.site s i) r (g.site s k) := by
    intro r
    induction r with
    | zero =>
      rintro i rfl
      exact .done h.1
    | succ r ih =>
      intro i hi
      have hmoves : g.callSite (g.site s i) ≠ g.site s i := by
        intro hself
        have := h.2 hself
        omega
      refine .hop hmoves ?_
      rw [← site_succ]
      exact ih (i + 1) (by omega)
  intro i j hij hj heq
  have hchain := hleads (k - i) i (by omega)
  have hback := hchain.iterate_ne (j := j - i) (by omega) (by omega)
  have hsite : g.callSite^[j - i] (g.site s i) = g.site s j := by
    have := site_add (g := g) (s := s) (j - i) i
    rw [Nat.sub_add_cancel hij.le] at this
    exact this.symm
  rw [hsite] at hback
  exact hback heq.symm

/-- A chain that ends within the limit is unwound to its end. -/
theorem unwind_of_isLeast (h : IsLeast {i | g.callSite (g.site s i) = g.site s i} k)
    (hp : Permits limit k) : g.unwind limit s = .ok (g.site s k) := by
  obtain ⟨unseen, -, hwalk⟩ := exists_unwind_eq (distinct_of_isLeast h) hp
  have hself : g.callSite (g.site s k) = g.site s k := h.1
  rw [hwalk, unwindFrom, if_pos hself]

/-! ## Chains that do not end -/

/-- The sites from the first return on are sites before it. -/
theorem exists_site_eq_of_return (hreturn : ∃ i < m, g.site s m = g.site s i) (j : Nat) :
    ∃ i < m, g.site s j = g.site s i := by
  induction j using Nat.strongRecOn with
  | ind j ih =>
    rcases Nat.lt_or_ge j m with hlt | hle
    · exact ⟨j, hlt, rfl⟩
    · -- The hops after the return start from an earlier site, so they are those of an earlier hop.
      obtain ⟨i, hi, heq⟩ := hreturn
      have hearlier : g.site s j = g.site s (j - m + i) := by
        rw [site_add, ← heq, ← site_add, Nat.sub_add_cancel hle]
      rw [hearlier]
      exact ih (j - m + i) (by omega)

/-- The first return of a chain comes after as many hops as there are spans on it. -/
theorem ncard_orbit (hnew : ∀ i j, i < j → j < m → g.site s i ≠ g.site s j)
    (hreturn : ∃ i < m, g.site s m = g.site s i) : (g.orbit s).ncard = m := by
  have horbit : g.orbit s = ((Finset.range m).image (g.site s) : Set (Fin n)) := by
    ext a
    simp only [orbit, Set.mem_range, Finset.coe_image, Set.mem_image, Finset.coe_range,
      Set.mem_Iio]
    constructor
    · rintro ⟨j, rfl⟩
      obtain ⟨i, hi, heq⟩ := exists_site_eq_of_return hreturn j
      exact ⟨i, hi, heq.symm⟩
    · rintro ⟨i, -, rfl⟩
      exact ⟨i, rfl⟩
  have hinj : Set.InjOn (g.site s) (Finset.range m : Set Nat) := by
    intro i hi j hj heq
    simp only [Finset.coe_range, Set.mem_Iio] at hi hj
    rcases Nat.lt_trichotomy i j with hlt | hsame | hgt
    · exact absurd heq (hnew i j hlt hj)
    · exact hsame
    · exact absurd heq.symm (hnew j i hgt hi)
  rw [horbit, Set.ncard_coe_finset, Finset.card_image_of_injOn hinj, Finset.card_range]

/-- A chain of call sites comes back to one of its sites for the first time after as many hops as
there are spans on it. -/
theorem exists_first_return (g : SpanGraph n) (s : Fin n) :
    (∃ i < (g.orbit s).ncard, g.site s (g.orbit s).ncard = g.site s i) ∧
      ∀ i j, i < j → j < (g.orbit s).ncard → g.site s i ≠ g.site s j := by
  have hreturns : ∃ m, ∃ i < m, g.site s m = g.site s i := by
    obtain ⟨i, j, hne, heq⟩ := Finite.exists_ne_map_eq_of_infinite (g.site s)
    rcases Nat.lt_or_gt_of_ne hne with hlt | hgt
    · exact ⟨j, i, hlt, heq.symm⟩
    · exact ⟨i, j, hgt, heq⟩
  classical
  have hreturn := Nat.find_spec hreturns
  have hnew : ∀ i j, i < j → j < Nat.find hreturns → g.site s i ≠ g.site s j :=
    fun i j hij hj heq => Nat.find_min hreturns hj ⟨i, hij, heq.symm⟩
  rw [ncard_orbit hnew hreturn]
  exact ⟨hreturn, hnew⟩

/-- A chain without an end has two spans at least. -/
theorem exists_ncard_orbit_eq (hmoves : ∀ i, g.callSite (g.site s i) ≠ g.site s i) :
    ∃ m, (g.orbit s).ncard = m + 1 ∧ m ≠ 0 := by
  obtain ⟨⟨i, hi, heq⟩, -⟩ := exists_first_return g s
  refine ⟨(g.orbit s).ncard - 1, by omega, ?_⟩
  intro hm
  have hone : (g.orbit s).ncard = 1 := by omega
  obtain rfl : i = 0 := by omega
  rw [hone, site_succ] at heq
  exact hmoves 0 heq

/-- A chain that runs into a cycle within the limit is a fault, which names the last new site. -/
theorem unwind_of_cycle (hmoves : ∀ i, g.callSite (g.site s i) ≠ g.site s i)
    (hm : (g.orbit s).ncard = m + 1) (hp : Permits limit m) :
    g.unwind limit s = .error (.cyclic (g.site s m)) := by
  obtain ⟨⟨i, hi, heq⟩, hnew⟩ := exists_first_return g s
  rw [hm] at hi heq hnew
  obtain ⟨unseen, hleft, hwalk⟩ :=
    exists_unwind_eq (fun i j hij hj => hnew i j hij (by omega)) hp
  have hmet : g.callSite (g.site s m) ∉ unseen := by
    rw [← site_succ, hleft.mem_iff]
    intro hall
    exact hall i (by omega) heq.symm
  rw [hwalk, unwindFrom, if_neg (hmoves m), dif_neg hmet]

/-! ## User-visible sites -/

theorem notedSite_of_ok {last : Fin n} (h : g.unwind limit s = .ok last) :
    g.notedSite limit s = ⟨last, []⟩ := by
  rw [notedSite, userSite, h]
  rfl

/-- Where unwinding fails, the span itself is the site, and the failure is noted. -/
theorem notedSite_of_error {fault : UnwindFault (Fin n)} (h : g.unwind limit s = .error fault) :
    g.notedSite limit s = ⟨s, [.unwindFailed (g.region s) (fault.map g.region)]⟩ := by
  rw [notedSite, userSite, h]

theorem callSite_of_unwind {last : Fin n} (h : g.unwind limit s = .ok last) :
    g.callSite last = last := by
  have hwalk : ∀ (unseen : List (Fin n)) (hops : Nat) (a : Fin n),
      unwindFrom g.callSite limit s unseen hops a = .ok last → g.callSite last = last := by
    intro unseen hops a
    fun_induction unwindFrom g.callSite limit s unseen hops a with
    | case1 _ _ a hself =>
      rintro ⟨⟩
      exact hself
    | case2 => rintro ⟨⟩
    | case3 _ _ _ _ _ _ ih => exact ih
    | case4 => rintro ⟨⟩
  exact hwalk _ _ _ h

/-- The user-visible site of a user-visible site is the site itself. -/
theorem value_notedSite_idem (g : SpanGraph n) (limit : Option Int) (s : Fin n) :
    (g.notedSite limit (g.notedSite limit s).value).value = (g.notedSite limit s).value := by
  cases h : g.unwind limit s with
  | error fault => rw [notedSite_of_error h, notedSite_of_error h]
  | ok last =>
    have hself : g.unwind limit last = .ok last := by
      rw [unwind, unwindFrom, if_pos (callSite_of_unwind h)]
    rw [notedSite_of_ok h, notedSite_of_ok hself]

/-- **The outcome of unwinding.** Take any graph, span and limit.
If the chain of call sites ends, for the first time after `k` hops, unwinding gives its last site
where the limit permits `k` hops, and otherwise says that the chain of the span is too deep.
If the chain does not end, let `m + 1` be the number of spans on it. The site of number `m` is the
first one whose call site was met before. Unwinding says that the chain is cyclic there if the limit
permits `m` hops, and otherwise that the chain of the span is too deep.
The user-visible site is what unwinding gives, or after a fault the span itself, which is noted by
one event for debugging that shows the fault. So a user-visible site is its own. -/
theorem unwind_outcome (g : SpanGraph n) (limit : Option Int) (s : Fin n) :
    (∀ k, IsLeast {i | g.callSite (g.site s i) = g.site s i} k →
      (Permits limit k → g.unwind limit s = .ok (g.site s k)) ∧
      (¬ Permits limit k →
        ∃ depth, limit = some depth ∧ g.unwind limit s = .error (.tooDeep s depth))) ∧
    ((∀ i, g.callSite (g.site s i) ≠ g.site s i) →
      ∃ m, (g.orbit s).ncard = m + 1 ∧ m ≠ 0 ∧
        (∃ i ≤ m, g.callSite (g.site s m) = g.site s i) ∧
        (∀ j < m, ∀ i ≤ j, g.callSite (g.site s j) ≠ g.site s i) ∧
        (Permits limit m → g.unwind limit s = .error (.cyclic (g.site s m))) ∧
        (¬ Permits limit m →
          ∃ depth, limit = some depth ∧ g.unwind limit s = .error (.tooDeep s depth))) ∧
    (∀ last, g.unwind limit s = .ok last → g.notedSite limit s = ⟨last, []⟩) ∧
    (∀ fault, g.unwind limit s = .error fault → (g.notedSite limit s).value = s ∧
      ∃ event, (g.notedSite limit s).events = [event] ∧ event.level = .debug ∧
        event.message = "Falling back to innermost span " ++ (g.region s).location ++ ": " ++
          match fault with
          | .cyclic last => "cyclic expansion chain at " ++ (g.region last).location
          | .tooDeep start depth =>
            "expansion chain of " ++ (g.region start).location ++ " deeper than " ++
              toString depth) ∧
    (g.notedSite limit (g.notedSite limit s).value).value = (g.notedSite limit s).value := by
  refine ⟨fun k hk => ⟨unwind_of_isLeast hk, unwind_of_not_permits (distinct_of_isLeast hk)⟩,
    fun hmoves => ?_, fun last => notedSite_of_ok, fun fault hfault => ?_,
    value_notedSite_idem g limit s⟩
  · obtain ⟨m, hm, hpos⟩ := exists_ncard_orbit_eq hmoves
    obtain ⟨⟨i, hi, heq⟩, hnew⟩ := exists_first_return g s
    rw [hm] at hi heq hnew
    refine ⟨m, hm, hpos, ⟨i, by omega, ?_⟩, fun j hj i hi => ?_, unwind_of_cycle hmoves hm,
      unwind_of_not_permits fun i j hij hj => hnew i j hij (by omega)⟩
    · rw [← site_succ, heq]
    · rw [← site_succ]
      exact (hnew i (j + 1) (by omega) (by omega)).symm
  · rw [notedSite_of_error hfault]
    refine ⟨rfl, _, rfl, rfl, ?_⟩
    cases fault <;> rfl

/-- A graph with a tail that runs into a cycle of two spans, and a chain of one hop. -/
def tailedCycle : SpanGraph 5 where
  region i := ⟨"lib.rs", i.val + 1, 1, i.val + 1, 9⟩
  origin
    | 0 => .expansion 1 "outer"
    | 1 => .expansion 2 "inner"
    | 2 => .desugared .forLoop (some 1)
    | 3 => .expansion 4 "vec"
    | 4 => .direct

/-- The span at the start of the tail is two hops away from the site where the cycle closes, and the
chain of one hop ends within a limit of one. -/
theorem unwind_outcome_tailedCycle :
    (∀ i, tailedCycle.callSite (tailedCycle.site 0 i) ≠ tailedCycle.site 0 i) ∧
    tailedCycle.unwind (some 2) 0 = .error (.cyclic 2) ∧
    IsLeast {i | tailedCycle.callSite (tailedCycle.site 3 i) = tailedCycle.site 3 i} 1 ∧
    tailedCycle.unwind (some 1) 3 = .ok 4 ∧
    (tailedCycle.notedSite (some 2) 0).value = 0 := by
  have hcircle : ∀ i, tailedCycle.site 0 i < 3 := by
    intro i
    induction i with
    | zero => decide
    | succ i ih =>
      rw [site_succ]
      revert ih
      generalize tailedCycle.site 0 i = a
      revert a
      decide
  have hmoves : ∀ i, tailedCycle.callSite (tailedCycle.site 0 i) ≠ tailedCycle.site 0 i := by
    intro i
    have hi := hcircle i
    revert hi
    generalize tailedCycle.site 0 i = a
    revert a
    decide
  have hleast :
      IsLeast {i | tailedCycle.callSite (tailedCycle.site 3 i) = tailedCycle.site 3 i} 1 := by
    refine ⟨by decide, fun i hi => ?_⟩
    rcases Nat.eq_zero_or_pos i with rfl | hpos
    · exact absurd hi (by decide)
    · exact hpos
  obtain ⟨m, -, hm, hreturn, hfirst, hcyclic, -⟩ :=
    (unwind_outcome tailedCycle (some 2) 0).2.1 hmoves
  obtain rfl : m = 2 := by
    rcases Nat.lt_trichotomy m 2 with hlt | hsame | hgt
    · obtain rfl : m = 1 := by omega
      exact absurd hreturn (by decide)
    · exact hsame
    · exact absurd rfl (hfirst 2 hgt 1 (by decide))
  have hcycle := hcyclic (by decide)
  refine ⟨hmoves, hcycle, hleast, ?_, ?_⟩
  · exact ((unwind_outcome tailedCycle (some 1) 3).1 1 hleast).1 (by decide)
  · exact ((unwind_outcome tailedCycle (some 2) 0).2.2.2.1 _ hcycle).1

end TreeLint.SpanGraph
