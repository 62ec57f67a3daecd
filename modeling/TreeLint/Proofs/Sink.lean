import Mathlib.Data.List.TakeWhile
import TreeLint.Proofs.FirstOccurrences
import TreeLint.Sink

/-!
# What sinks record

A sink records the first occurrences of what it is offered. Offering diagnostics that can all be
recorded never fails; such offers are described by a total function, to which offers that may fail
are reduced: they record what comes before the first diagnostic that cannot be recorded.

## Main definitions

* `Sink.accept`, `Sink.acceptAll`: offering diagnostics that can be recorded
* `Sink.Coherent`: the set of seen diagnostics is that of the recorded ones

## Main results

* `Sink.diagnostics_acceptAll`: the recorded diagnostics are the first occurrences of the new ones
* `Sink.extend_eq`: what `Sink.extend` records, and when it fails
* `Sink.Coherent.diagnostics_acceptAll`: a coherent sink keeps the first occurrences of everything
* `Sink.exitCode_eq`: the exit code tells whether a recorded diagnostic is denied
-/

namespace TreeLint

namespace Diagnostic

/-- Whether the diagnostic can be recorded. -/
def isRecordable (d : Diagnostic) : Bool :=
  d.category.isRecordable

end Diagnostic

namespace Sink

variable {s : Sink} {d : Diagnostic} {ds : List Diagnostic}

/-- Offers a diagnostic that can be recorded. -/
def accept (s : Sink) (d : Diagnostic) : Sink :=
  if s.seen.contains d then s else s.record d

/-- Offers diagnostics that can be recorded one by one. -/
def acceptAll (s : Sink) (ds : List Diagnostic) : Sink :=
  ds.foldl accept s

@[simp]
theorem acceptAll_nil : s.acceptAll [] = s := rfl

@[simp]
theorem acceptAll_cons : s.acceptAll (d :: ds) = (s.accept d).acceptAll ds := rfl

theorem acceptAll_append (s : Sink) (ds es : List Diagnostic) :
    s.acceptAll (ds ++ es) = (s.acceptAll ds).acceptAll es :=
  List.foldl_append

/-- A loop whose rounds each offer a list offers these lists in sequence. -/
theorem foldl_eq_acceptAll {α : Type} {f : Sink → α → Sink} {offered : α → List Diagnostic}
    (hf : ∀ s a, f s a = s.acceptAll (offered a)) (s : Sink) (xs : List α) :
    xs.foldl f s = s.acceptAll (xs.flatMap offered) := by
  induction xs generalizing s with
  | nil => rfl
  | cons a xs ih => rw [List.foldl_cons, hf, ih, List.flatMap_cons, acceptAll_append]

theorem contains_seen_accept (s : Sink) (d e : Diagnostic) :
    (s.accept d).seen.contains e = (d == e || s.seen.contains e) := by
  unfold accept
  split
  case isTrue h =>
    by_cases he : d = e
    · simp [← he, h]
    · simp [he]
  case isFalse => simp [record, Std.HashSet.contains_insert]

/-- The recorded diagnostics are the former ones and the first occurrences of those not seen. -/
theorem diagnostics_acceptAll (s : Sink) (ds : List Diagnostic) :
    (s.acceptAll ds).diagnostics =
      s.diagnostics ++ (ds.filter fun d => !s.seen.contains d).eraseDups := by
  induction ds generalizing s with
  | nil => simp
  | cons d ds ih =>
    rw [acceptAll_cons, ih]
    by_cases h : s.seen.contains d
    · have hs : s.accept d = s := if_pos h
      rw [hs, List.filter_cons_of_neg (by simp [h])]
    · have hs : (s.accept d).diagnostics = s.diagnostics ++ [d] := by
        rw [accept, if_neg h]
        rfl
      rw [hs, List.filter_cons_of_pos (by simp [h]), List.eraseDups_cons, List.filter_filter,
        List.append_assoc, List.singleton_append]
      simp [contains_seen_accept, Bool.beq_comm]

/-- What is seen is what was accepted, and what was seen before. -/
theorem contains_seen_acceptAll {s : Sink} {ds : List Diagnostic} {e : Diagnostic} :
    (s.acceptAll ds).seen.contains e ↔ e ∈ ds ∨ s.seen.contains e := by
  induction ds generalizing s with
  | nil => simp
  | cons d ds ih =>
    rw [acceptAll_cons, ih, contains_seen_accept, List.mem_cons, Bool.or_eq_true, beq_iff_eq,
      or_left_comm, or_assoc, eq_comm]

/-! ## Offers that may fail -/

/-- Adding a diagnostic that can be recorded tells whether it is new. -/
theorem add_of_isRecordable (h : d.isRecordable) :
    s.add d = .ok (s.accept d, !s.seen.contains d) := by
  have hd : d.category.isRecordable = true := h
  unfold add accept
  by_cases hs : s.seen.contains d <;> simp [hd, hs]

/-- A diagnostic whose category is no single name cannot be added. -/
theorem add_of_not_isRecordable (h : ¬ d.isRecordable) :
    s.add d = .error .compositeCategory := by
  have hd : d.category.isRecordable = false := by simpa [Diagnostic.isRecordable] using h
  simp [add, hd]

/-- Diagnostics are recorded up to the first that cannot be. -/
theorem extend_eq (s : Sink) (ds : List Diagnostic) :
    s.extend ds = (s.acceptAll (ds.takeWhile Diagnostic.isRecordable),
      if ds.all Diagnostic.isRecordable then .ok () else .error .compositeCategory) := by
  induction ds generalizing s with
  | nil => rfl
  | cons d ds ih =>
    by_cases h : d.isRecordable
    · rw [extend, add_of_isRecordable h, List.takeWhile_cons_of_pos h]
      simp [ih, h]
    · rw [extend, add_of_not_isRecordable h, List.takeWhile_cons_of_neg h]
      simp [h]

theorem extend_of_isRecordable (h : ∀ d ∈ ds, d.isRecordable) :
    s.extend ds = (s.acceptAll ds, .ok ()) := by
  have hall : ds.all Diagnostic.isRecordable = true := List.all_eq_true.mpr h
  rw [extend_eq, List.takeWhile_eq_self_iff.mpr h, if_pos hall]

/-! ## Coherent sinks -/

/-- The seen diagnostics are the recorded ones; none is recorded twice, and all could be. -/
structure Coherent (s : Sink) : Prop where
  contains_seen : ∀ d, s.seen.contains d ↔ d ∈ s.diagnostics
  nodup : s.diagnostics.Nodup
  isRecordable : ∀ d ∈ s.diagnostics, d.isRecordable

theorem coherent_empty : empty.Coherent where
  contains_seen := by simp [empty]
  nodup := List.nodup_nil
  isRecordable := by simp [empty]

namespace Coherent

/-- A coherent sink keeps the first occurrences of what it has and of what it is offered. -/
theorem diagnostics_acceptAll (hs : s.Coherent) (ds : List Diagnostic) :
    (s.acceptAll ds).diagnostics = (s.diagnostics ++ ds).eraseDups := by
  have hnew : ds.removeAll s.diagnostics = ds.filter fun d => !s.seen.contains d := by
    refine List.filter_congr fun d _ => congrArg not ?_
    rw [Bool.eq_iff_iff, hs.contains_seen, List.elem_iff]
  rw [Sink.diagnostics_acceptAll, List.eraseDups_append, eraseDups_of_nodup hs.nodup, hnew]

theorem mem_acceptAll (hs : s.Coherent) :
    d ∈ (s.acceptAll ds).diagnostics ↔ d ∈ s.diagnostics ∨ d ∈ ds := by
  rw [hs.diagnostics_acceptAll, List.mem_eraseDups, List.mem_append]

/-- A coherent sink stays coherent, whatever it accepts that can be recorded. -/
theorem acceptAll (hs : s.Coherent) (hds : ∀ d ∈ ds, d.isRecordable) :
    (s.acceptAll ds).Coherent where
  contains_seen d := by
    rw [contains_seen_acceptAll, hs.contains_seen, hs.mem_acceptAll, or_comm]
  nodup := by
    rw [hs.diagnostics_acceptAll]
    exact nodup_eraseDups _
  isRecordable d hd := by
    rcases hs.mem_acceptAll.mp hd with h | h
    · exact hs.isRecordable d h
    · exact hds d h

end Coherent

/-! ## The exit code -/

/-- The exit code tells whether a recorded diagnostic is denied. -/
theorem exitCode_eq (s : Sink) :
    s.exitCode = if ∃ d ∈ s.diagnostics, d.severity = .deny then 2 else 0 := by
  unfold exitCode
  induction s.diagnostics using List.reverseRecOn with
  | nil => rfl
  | append_singleton ds d ih =>
    rw [List.map_append, List.foldl_append, ih]
    cases hd : d.severity with
    | deny =>
      have hdeny : ∃ e ∈ ds ++ [d], e.severity = .deny := ⟨d, by simp, hd⟩
      rw [if_pos hdeny]
      split <;> simp [hd, Severity.exitPriority]
    | warn => simp [hd, Severity.exitPriority]

end Sink

end TreeLint
