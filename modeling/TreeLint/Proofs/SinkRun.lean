import TreeLint.Proofs.Sink

/-!
# Runs of a sink

A sink holds the same facts in several places: the list of recorded diagnostics, the set of them,
and their numbers by severity, from which the verdict is taken, while the exit code is taken from
the list. After any sequence of offers these agree, also when offers failed on the way, because a
failed offer counts for what it recorded before it failed.

## Main definitions

* `Summary.tally`: the numbers of the diagnostics in a list by severity
* `Sink.Offer`, `Sink.Offer.admitted`: an offer, and the diagnostics of it that can be recorded
* `Sink.run`: the sink after a sequence of offers
* `Sink.Accounts`: everything in a sink agrees with the diagnostics that were offered to it

## Main results

* `Sink.Tallied.acceptAll`: the counters follow the list
* `Sink.run_accounts_for_offers`: a run accounts for what was offered, and what its next offer does
-/

namespace TreeLint

/-! ## Counting -/

namespace Summary

/-- The numbers of the diagnostics in a list by severity. -/
def tally (ds : List Diagnostic) : Summary where
  deny := ds.countP fun d => d.severity == .deny
  warn := ds.countP fun d => d.severity == .warn

/-- One more diagnostic counts for its severity. -/
theorem tally_concat (ds : List Diagnostic) (d : Diagnostic) :
    tally (ds ++ [d]) = (tally ds).increment d.severity := by
  cases hd : d.severity <;> simp [tally, increment, hd]

/-- Every diagnostic has one of the two severities that are counted. -/
theorem total_tally (ds : List Diagnostic) : (tally ds).total = ds.length := by
  have htotal : ∀ s : Summary, s.total = s.deny + s.warn := by
    intro s
    simp [total, rows, Severity.all, count]
  induction ds using List.reverseRecOn with
  | nil => rfl
  | append_singleton ds d ih =>
    rw [htotal] at ih
    rw [tally_concat, htotal, List.length_append, List.length_singleton, ← ih]
    cases d.severity with
    | deny => exact Nat.add_right_comm _ _ _
    | warn => rfl

theorem deny_tally_eq_zero {ds : List Diagnostic} :
    (tally ds).deny = 0 ↔ ∀ d ∈ ds, d.severity ≠ .deny := by
  simp [tally, List.countP_eq_zero]

theorem tally_perm {ds es : List Diagnostic} (h : ds.Perm es) : tally ds = tally es := by
  simp only [tally, h.countP_eq]

end Summary

namespace Sink

variable {s : Sink} {d : Diagnostic} {ds : List Diagnostic}

/-- The summary counts the recorded diagnostics. -/
def Tallied (s : Sink) : Prop :=
  s.summary = Summary.tally s.diagnostics

theorem tallied_empty : empty.Tallied := rfl

/-- The counter of a severity grows in the step in which the list does, and neither does for a
diagnostic that is already recorded. -/
theorem Tallied.accept (hs : s.Tallied) (d : Diagnostic) : (s.accept d).Tallied := by
  unfold Sink.accept
  split
  case isTrue => exact hs
  case isFalse =>
    have hrecord : (s.record d).summary = s.summary.increment d.severity := rfl
    rw [Tallied, hrecord, hs]
    exact (Summary.tally_concat s.diagnostics d).symm

/-- The summary keeps counting the recorded diagnostics, whatever is accepted. -/
theorem Tallied.acceptAll (hs : s.Tallied) (ds : List Diagnostic) : (s.acceptAll ds).Tallied := by
  induction ds generalizing s with
  | nil => exact hs
  | cons d ds ih => exact ih (hs.accept d)

/-- The verdict is taken from the counters, but says that no recorded diagnostic is denied. -/
theorem Tallied.passed_iff (hs : s.Tallied) :
    s.passed ↔ ∀ d ∈ s.diagnostics, d.severity ≠ .deny := by
  rw [passed, beq_iff_eq, hs, Summary.deny_tally_eq_zero]

/-- The exit code is taken from the list, and is zero if no recorded diagnostic is denied. -/
theorem exitCode_eq_zero_iff : s.exitCode = 0 ↔ ∀ d ∈ s.diagnostics, d.severity ≠ .deny := by
  rw [exitCode_eq]
  split
  case isTrue h =>
    obtain ⟨d, hd, hdeny⟩ := h
    exact iff_of_false (by decide) fun hnone => hnone d hd hdeny
  case isFalse h => exact iff_of_true rfl fun d hd hdeny => h ⟨d, hd, hdeny⟩

theorem exitCode_eq_zero_or_two (s : Sink) : s.exitCode = 0 ∨ s.exitCode = 2 := by
  rw [exitCode_eq]
  split
  · exact .inr rfl
  · exact .inl rfl

/-! ## Sequences of offers -/

/-- An offer to a sink: one diagnostic, or several in sequence. -/
inductive Offer where
  | add (d : Diagnostic)
  | extend (ds : List Diagnostic)

/-- The diagnostics of an offer that come before the first that cannot be recorded. -/
def Offer.admitted : Offer → List Diagnostic
  | .add d => [d].takeWhile Diagnostic.isRecordable
  | .extend ds => ds.takeWhile Diagnostic.isRecordable

/-- The sink after an offer. One that cannot be added leaves the sink as it was. -/
def afterOffer (s : Sink) : Offer → Sink
  | .add d => match s.add d with
    | .ok (t, _) => t
    | .error _ => s
  | .extend ds => (s.extend ds).1

/-- The sink after a sequence of offers to a new one. -/
def run (offers : List Offer) : Sink :=
  offers.foldl afterOffer empty

/-- An offer records what it admits. -/
theorem afterOffer_eq (s : Sink) (offer : Offer) :
    s.afterOffer offer = s.acceptAll offer.admitted := by
  cases offer with
  | add d =>
    by_cases hd : d.isRecordable
    · simp [afterOffer, Offer.admitted, add_of_isRecordable hd, hd]
    · simp [afterOffer, Offer.admitted, add_of_not_isRecordable hd, hd]
  | extend ds => exact congrArg Prod.fst (extend_eq s ds)

/-- A run records what its offers admit, in their order. -/
theorem run_eq (offers : List Offer) :
    run offers = empty.acceptAll (offers.flatMap Offer.admitted) :=
  foldl_eq_acceptAll afterOffer_eq empty offers

theorem isRecordable_of_mem_admitted {offer : Offer} (hd : d ∈ offer.admitted) :
    d.isRecordable := by
  cases offer with
  | add e => exact List.mem_takeWhile_imp hd
  | extend es => exact List.mem_takeWhile_imp hd

/-- The list and the set of a sink hold the same diagnostics after any offers. -/
theorem coherent_run (offers : List Offer) : (run offers).Coherent := by
  rw [run_eq]
  refine coherent_empty.acceptAll fun d hd => ?_
  obtain ⟨offer, -, hd⟩ := List.mem_flatMap.mp hd
  exact isRecordable_of_mem_admitted hd

theorem tallied_run (offers : List Offer) : (run offers).Tallied := by
  rw [run_eq]
  exact tallied_empty.acceptAll _

/-- Everything in a sink agrees with the diagnostics that were offered to it. -/
structure Accounts (s : Sink) (offered : List Diagnostic) : Prop where
  /-- The first occurrences are recorded, in their order. -/
  diagnostics_eq : s.diagnostics = offered.eraseDups
  nodup : s.diagnostics.Nodup
  contains_seen : ∀ d, s.seen.contains d ↔ d ∈ s.diagnostics
  deny_eq : s.summary.deny = s.diagnostics.countP fun d => d.severity == .deny
  warn_eq : s.summary.warn = s.diagnostics.countP fun d => d.severity == .warn
  total_eq : s.summary.total = s.diagnostics.length
  passed_iff : s.passed ↔ ∀ d ∈ s.diagnostics, d.severity ≠ .deny
  exitCode_eq_zero_iff : s.exitCode = 0 ↔ s.passed
  exitCode_eq_two_iff : s.exitCode = 2 ↔ ¬ s.passed

/-- Everything in a sink agrees with what its offers admitted. -/
theorem accounts_run (offers : List Offer) :
    (run offers).Accounts (offers.flatMap Offer.admitted) := by
  have hs := coherent_run offers
  have ht := tallied_run offers
  have hzero : (run offers).exitCode = 0 ↔ (run offers).passed :=
    exitCode_eq_zero_iff.trans ht.passed_iff.symm
  refine ⟨?_, hs.nodup, hs.contains_seen, ?_, ?_, ?_, ht.passed_iff, hzero, ?_⟩
  · rw [run_eq, coherent_empty.diagnostics_acceptAll]
    rfl
  · exact congrArg Summary.deny ht
  · exact congrArg Summary.warn ht
  · rw [ht, Summary.total_tally]
  · rw [← hzero]
    rcases exitCode_eq_zero_or_two (run offers) with h | h <;> simp [h]

/-- **A sink accounts for what was offered to it.** After any sequence of offers the recorded
diagnostics are the first occurrences of those that can be recorded, the set and the counters are
those of the list, and the verdict and the exit code say whether one of them is denied. Of the next
offer, `add` tells whether the diagnostic is new; where it or `extend` fails, it is because of a
diagnostic that cannot be recorded, and a failed `add` leaves the sink as it was. -/
theorem run_accounts_for_offers (offers : List Offer) :
    (run offers).Accounts (offers.flatMap Offer.admitted) ∧
    (∀ d, d.isRecordable →
      (run offers).add d = .ok (run (offers ++ [.add d]), decide (d ∉ (run offers).diagnostics))) ∧
    (∀ d, ¬ d.isRecordable →
      (run offers).add d = .error .compositeCategory ∧ run (offers ++ [.add d]) = run offers) ∧
    (∀ ds, ((run offers).extend ds).1 = run (offers ++ [.extend ds]) ∧
      (((run offers).extend ds).2 = .ok () ↔ ∀ d ∈ ds, d.isRecordable)) := by
  have hnext : ∀ offer, run (offers ++ [offer]) = (run offers).acceptAll offer.admitted := by
    intro offer
    rw [run, List.foldl_append]
    exact afterOffer_eq (run offers) offer
  refine ⟨accounts_run offers, fun d hd => ?_, fun d hd => ⟨?_, ?_⟩, fun ds => ⟨?_, ?_⟩⟩
  · have hseen := (coherent_run offers).contains_seen d
    rw [add_of_isRecordable hd, hnext]
    by_cases hmem : d ∈ (run offers).diagnostics
    · simp [Offer.admitted, hd, hmem, hseen.mpr hmem]
    · have hfresh : (run offers).seen.contains d = false := by simpa using hseen.not.mpr hmem
      simp [Offer.admitted, hd, hmem, hfresh]
  · exact add_of_not_isRecordable hd
  · rw [hnext]
    simp [Offer.admitted, hd]
  · rw [hnext, extend_eq]
    rfl
  · rw [extend_eq]
    by_cases hall : ds.all Diagnostic.isRecordable
    · exact iff_of_true (if_pos hall) (List.all_eq_true.mp hall)
    · rw [if_neg hall]
      exact iff_of_false nofun fun h => hall (List.all_eq_true.mpr h)

end Sink

end TreeLint
