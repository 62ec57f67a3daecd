import Mathlib.Logic.Function.Iterate
import TreeLint.Span.Unwind

/-!
# Unwinding chains that end

A chain of call sites ends at a span that is its own call site, after some number of hops. On a
chain that ends no span is met twice, so unwinding never takes it for a cyclic one: it gives the
last span of the chain, unless the limit does not permit as many hops. A chain without hops is
permitted by every limit.

The chains of spans end, because the call site of a span is a part of it.

## Main definitions

* `Leads`: a chain of call sites makes a number of hops and ends at a span
* `Permits`: a limit permits a number of hops

## Main results

* `Leads.iterate_ne`: no span is met twice on a chain that ends
* `unwindFrom_of_leads`: what the walk along a chain that ends gives
* `Span.exists_leads`: the chain of every span ends
* `Span.unwind_of_permits`, `Span.unwind_of_not_permits`: the outcome of unwinding a span
-/

namespace TreeLint

/-! ## Chains that end -/

/-- The chain of call sites of a span makes a number of hops and ends at a span that is its own call
site. -/
inductive Leads {α : Type} (callSite : α → α) : α → Nat → α → Prop
  | done {a : α} (hself : callSite a = a) : Leads callSite a 0 a
  | hop {a b : α} {k : Nat} (hnext : callSite a ≠ a) (htail : Leads callSite (callSite a) k b) :
      Leads callSite a (k + 1) b

namespace Leads

variable {α : Type} {callSite : α → α} {a b c : α} {k j : Nat}

theorem callSite_last (h : Leads callSite a k b) : callSite b = b := by
  induction h with
  | done hself => exact hself
  | hop _ _ ih => exact ih

/-- A span leads to one end only, by one number of hops. -/
theorem unique (h : Leads callSite a k b) (h' : Leads callSite a j c) : k = j ∧ b = c := by
  induction h generalizing j with
  | done hself =>
    cases h' with
    | done => exact ⟨rfl, rfl⟩
    | hop hnext => exact absurd hself hnext
  | hop hnext _ ih =>
    cases h' with
    | done hself => exact absurd hself hnext
    | hop _ htail =>
      obtain ⟨rfl, rfl⟩ := ih htail
      exact ⟨rfl, rfl⟩

/-- The spans of a chain lead to its end, each by one hop less than the one before. -/
theorem iterate (h : Leads callSite a k b) (hj : j ≤ k) :
    Leads callSite (callSite^[j] a) (k - j) b := by
  induction h generalizing j with
  | done hself =>
    obtain rfl : j = 0 := by omega
    exact .done hself
  | @hop a b k hnext htail ih =>
    cases j with
    | zero => exact .hop hnext htail
    | succ j =>
      rw [Function.iterate_succ_apply, Nat.add_sub_add_right]
      exact ih (by omega)

/-- The first span of a chain is not met again, since it is further from the end than the others. -/
theorem iterate_ne (h : Leads callSite a k b) (hpos : 0 < j) (hj : j ≤ k) :
    callSite^[j] a ≠ a := by
  intro hsame
  have hlater := h.iterate hj
  rw [hsame] at hlater
  have hhops := (h.unique hlater).1
  omega

end Leads

/-! ## The walk along a chain that ends -/

theorem exceeded?_mono {limit : Option Int} {depth : Int} {m n : Nat} (hmn : m ≤ n)
    (h : exceeded? limit m = some depth) : exceeded? limit n = some depth := by
  obtain ⟨hlimit, hm⟩ := Option.filter_eq_some_iff.mp h
  refine Option.filter_eq_some_iff.mpr ⟨hlimit, ?_⟩
  simp only [decide_eq_true_eq] at hm ⊢
  omega

/-- The walk along a chain that ends, whose spans it has not met yet, gives the last span, unless
the hops that it has made and those of the chain together exceed the limit. -/
theorem unwindFrom_of_leads {α : Type} [DecidableEq α] {callSite : α → α} {a b : α} {k : Nat}
    (h : Leads callSite a k b) (limit : Option Int) (start : α) {unseen : List α}
    (hunseen : ∀ j < k, callSite^[j + 1] a ∈ unseen) (hops : Nat) :
    unwindFrom callSite limit start unseen hops a =
      if k = 0 then .ok b
      else match exceeded? limit (hops + k) with
        | some depth => .error (.tooDeep start depth)
        | none => .ok b := by
  induction h generalizing unseen hops with
  | done hself => rw [unwindFrom, if_pos hself, if_pos rfl]
  | @hop a b k hnext htail ih =>
    have hnew : callSite a ∈ unseen := hunseen 0 (Nat.succ_pos k)
    rw [unwindFrom, if_neg hnext, dif_pos hnew, if_neg (Nat.succ_ne_zero k)]
    cases hfirst : exceeded? limit (hops + 1) with
    | some depth => rw [exceeded?_mono (by omega) hfirst]
    | none =>
      -- Later spans of the chain differ from the one that is met now, so they stay unseen.
      have hrest : ∀ j < k, callSite^[j + 1] (callSite a) ∈ unseen.erase (callSite a) := by
        intro j hj
        rw [List.mem_erase_of_ne (htail.iterate_ne (Nat.succ_pos j) hj)]
        exact hunseen (j + 1) (Nat.succ_lt_succ hj)
      have hsum : hops + 1 + k = hops + (k + 1) := by omega
      simp only [ih hrest, hsum]
      split
      case isTrue hk => rw [hk, hfirst]
      case isFalse => rfl

/-! ## Spans -/

/-- A limit permits a number of hops: there are none, or no limit, or at most as many as it says. -/
def Permits (limit : Option Int) (hops : Nat) : Prop :=
  hops = 0 ∨ ∀ depth ∈ limit, (hops : Int) ≤ depth

instance (limit : Option Int) (hops : Nat) : Decidable (Permits limit hops) :=
  inferInstanceAs (Decidable (_ ∨ _))

theorem permits_none (hops : Nat) : Permits none hops :=
  .inr nofun

theorem exceeded?_eq_none_iff {limit : Option Int} {hops : Nat} :
    exceeded? limit hops = none ↔ ∀ depth ∈ limit, (hops : Int) ≤ depth := by
  simp [exceeded?, Option.filter_eq_none_iff]

namespace Span

variable {s last : Span} {k : Nat} {limit : Option Int}

theorem callSite_eq_getD (s : Span) : s.callSite = s.origin.callSite?.getD s := by
  cases s <;> rfl

theorem sizeOf_lt_of_callSite? {site : Span} (h : s.origin.callSite? = some site) :
    sizeOf site < sizeOf s := by
  cases s with
  | written r => cases h
  | lowered r kind => cases h
  | expanded r name site =>
    cases h
    rw [expanded.sizeOf_spec]
    omega
  | loweredAt r kind site =>
    cases h
    rw [loweredAt.sizeOf_spec]
    omega

/-- A span is its own call site if its origin gives none. -/
theorem callSite_eq_self_iff : s.callSite = s ↔ s.origin.callSite? = none := by
  rw [callSite_eq_getD]
  cases h : s.origin.callSite? with
  | none => simp
  | some site =>
    refine iff_of_false (fun hself => ?_) nofun
    have hlt := sizeOf_lt_of_callSite? h
    rw [Option.getD_some] at hself
    rw [hself] at hlt
    exact Nat.lt_irrefl _ hlt

/-- The chain of every span ends. -/
theorem exists_leads (s : Span) : ∃ k last, Leads callSite s k last := by
  induction s with
  | written r => exact ⟨0, _, .done rfl⟩
  | lowered r kind => exact ⟨0, _, .done rfl⟩
  | expanded r name site ih =>
    obtain ⟨k, last, h⟩ := ih
    exact ⟨k + 1, last, .hop (callSite_eq_self_iff.not.mpr nofun) h⟩
  | loweredAt r kind site ih =>
    obtain ⟨k, last, h⟩ := ih
    exact ⟨k + 1, last, .hop (callSite_eq_self_iff.not.mpr nofun) h⟩

theorem chain_eq (s : Span) :
    s.chain = s :: s.origin.callSite?.elim [] chain := by
  cases s <;> rfl

/-- All sites on the way are in the chain of the span. -/
theorem mem_chain_of_leads (h : Leads callSite s k last) {j : Nat} (hj : j ≤ k) :
    callSite^[j] s ∈ s.chain := by
  induction h generalizing j with
  | done =>
    obtain rfl : j = 0 := by omega
    rw [chain_eq]
    exact List.mem_cons_self
  | @hop s last k hnext htail ih =>
    rw [chain_eq]
    cases j with
    | zero => exact List.mem_cons_self
    | succ j =>
      obtain ⟨site, hsite⟩ := Option.ne_none_iff_exists'.mp (callSite_eq_self_iff.not.mp hnext)
      have hcall : s.callSite = site := by rw [callSite_eq_getD, hsite, Option.getD_some]
      refine List.mem_cons_of_mem _ ?_
      rw [hsite, Option.elim_some, ← hcall]
      exact ih (by omega)

/-- Unwinding a span gives the last one of its chain, unless the hops exceed the limit. -/
theorem unwind_of_leads (h : Leads callSite s k last) (limit : Option Int) :
    s.unwind limit =
      if k = 0 then .ok last
      else match exceeded? limit k with
        | some depth => .error (.tooDeep s depth)
        | none => .ok last := by
  have hunseen : ∀ j < k, callSite^[j + 1] s ∈ s.chain.erase s := by
    intro j hj
    rw [List.mem_erase_of_ne (h.iterate_ne (Nat.succ_pos j) hj)]
    exact mem_chain_of_leads h hj
  have hwalk := unwindFrom_of_leads h limit s hunseen 0
  rwa [Nat.zero_add] at hwalk

/-- A span is unwound to the end of its chain, if the limit permits it. -/
theorem unwind_of_permits (h : Leads callSite s k last) (hp : Permits limit k) :
    s.unwind limit = .ok last := by
  rw [unwind_of_leads h]
  rcases hp with hzero | hdepth
  · rw [if_pos hzero]
  · rw [exceeded?_eq_none_iff.mpr hdepth]
    split <;> rfl

/-- Where the limit is too small, unwinding fails and tells the limit. -/
theorem unwind_of_not_permits (h : Leads callSite s k last) (hp : ¬ Permits limit k) :
    ∃ depth, limit = some depth ∧ s.unwind limit = .error (.tooDeep s depth) := by
  obtain ⟨hpos, hdepth⟩ := not_or.mp hp
  obtain ⟨depth, hexceeded⟩ :=
    Option.ne_none_iff_exists'.mp (exceeded?_eq_none_iff.not.mpr hdepth)
  refine ⟨depth, (Option.filter_eq_some_iff.mp hexceeded).1, ?_⟩
  rw [unwind_of_leads h, if_neg hpos, hexceeded]

/-- No chain of a span is taken for a cyclic one. -/
theorem unwind_ne_cyclic (s : Span) (limit : Option Int) (site : Span) :
    s.unwind limit ≠ .error (.cyclic site) := by
  obtain ⟨k, last, h⟩ := s.exists_leads
  by_cases hp : Permits limit k
  · rw [unwind_of_permits h hp]
    exact nofun
  · obtain ⟨depth, -, hdeep⟩ := unwind_of_not_permits h hp
    rw [hdeep]
    exact nofun

/-- The user-visible site of a span is the last one of its chain where the limit permits its hops,
and otherwise the span itself. -/
theorem fst_userSite (h : Leads callSite s k last) (limit : Option Int) :
    (s.userSite limit).1 = if Permits limit k then last else s := by
  unfold userSite
  by_cases hp : Permits limit k
  · rw [unwind_of_permits h hp, if_pos hp]
  · obtain ⟨depth, -, hdeep⟩ := unwind_of_not_permits h hp
    rw [hdeep, if_neg hp]

theorem snd_userSite_of_permits (h : Leads callSite s k last) (hp : Permits limit k) :
    (s.userSite limit).2 = none := by
  rw [userSite, unwind_of_permits h hp]

end Span

end TreeLint
