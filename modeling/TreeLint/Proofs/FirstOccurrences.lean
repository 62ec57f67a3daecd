import Mathlib.Data.List.Induction

/-!
# First occurrences

`List.eraseDups` keeps the first occurrence of every member of a list. Keeping first occurrences
commutes with filtering, and with any map that does not merge members of the list.

## Main results

* `nodup_eraseDups`: no member is kept twice
* `eraseDups_filter`, `eraseDups_map`: filtering and mapping commute with `List.eraseDups`
* `eraseDups_flatMap_eraseDups`: duplicates may be dropped from the parts of a list beforehand
-/

namespace TreeLint

variable {α β : Type} [DecidableEq α] [DecidableEq β]

/-- A new last element is kept unless it occurred before. -/
theorem eraseDups_concat (xs : List α) (x : α) :
    (xs ++ [x]).eraseDups = if x ∈ xs then xs.eraseDups else xs.eraseDups ++ [x] := by
  rw [List.eraseDups_append, List.cons_removeAll]
  by_cases h : x ∈ xs <;> simp [h, List.eraseDups_cons]

theorem nodup_eraseDups (xs : List α) : xs.eraseDups.Nodup := by
  induction xs using List.reverseRecOn with
  | nil => simp
  | append_singleton xs x ih =>
    rw [eraseDups_concat]
    split
    case isTrue => exact ih
    case isFalse h =>
      rw [List.nodup_append]
      refine ⟨ih, List.pairwise_singleton _ x, ?_⟩
      rintro y hy _ hx rfl
      rw [List.mem_singleton.mp hx, List.mem_eraseDups] at hy
      exact h hy

theorem eraseDups_of_nodup {xs : List α} (h : xs.Nodup) : xs.eraseDups = xs := by
  induction xs using List.reverseRecOn with
  | nil => rfl
  | append_singleton xs x ih =>
    obtain ⟨hxs, -, hne⟩ := List.nodup_append.mp h
    have hx : x ∉ xs := fun hx => hne x hx x (List.mem_singleton_self x) rfl
    rw [eraseDups_concat, if_neg hx, ih hxs]

theorem eraseDups_filter (p : α → Bool) (xs : List α) :
    (xs.filter p).eraseDups = xs.eraseDups.filter p := by
  induction xs using List.reverseRecOn with
  | nil => rfl
  | append_singleton xs x ih =>
    rw [eraseDups_concat, List.filter_append]
    by_cases hp : p x
    · rw [List.filter_cons_of_pos hp, List.filter_nil, eraseDups_concat, ih]
      by_cases hx : x ∈ xs <;> simp [hx, hp]
    · rw [List.filter_cons_of_neg hp, List.filter_nil, List.append_nil, ih]
      split <;> simp [hp]

/-- A map that does not merge members of the list commutes with keeping first occurrences. -/
theorem eraseDups_map {f : α → β} {xs : List α} (hf : ∀ a ∈ xs, ∀ b ∈ xs, f a = f b → a = b) :
    (xs.map f).eraseDups = xs.eraseDups.map f := by
  induction xs using List.reverseRecOn with
  | nil => rfl
  | append_singleton xs x ih =>
    have hmem : f x ∈ xs.map f ↔ x ∈ xs := by
      refine ⟨fun h => ?_, List.mem_map_of_mem⟩
      obtain ⟨y, hy, hyx⟩ := List.mem_map.mp h
      rwa [← hf y (by simp [hy]) x (by simp) hyx]
    rw [List.map_append, List.map_singleton, eraseDups_concat, eraseDups_concat,
      ih fun a ha b hb => hf a (by simp [ha]) b (by simp [hb])]
    by_cases hx : x ∈ xs
    · rw [if_pos (hmem.mpr hx), if_pos hx]
    · rw [if_neg (hmem.not.mpr hx), if_neg hx, List.map_append, List.map_singleton]

/-- The first occurrences of two lists in sequence are determined by those of each list. -/
theorem eraseDups_append_congr {xs xs' ys ys' : List α} (hx : xs.eraseDups = xs'.eraseDups)
    (hy : ys.eraseDups = ys'.eraseDups) : (xs ++ ys).eraseDups = (xs' ++ ys').eraseDups := by
  have hmem : ∀ a, a ∈ xs ↔ a ∈ xs' := by
    intro a
    rw [← List.mem_eraseDups, hx, List.mem_eraseDups]
  have hnew : ∀ zs : List α, zs.removeAll xs = zs.removeAll xs' := by
    intro zs
    refine List.filter_congr fun a _ => congrArg not ?_
    rw [Bool.eq_iff_iff, List.elem_iff, List.elem_iff, hmem]
  have hrest : (ys.removeAll xs').eraseDups = (ys'.removeAll xs').eraseDups := by
    rw [List.removeAll, List.removeAll, eraseDups_filter, eraseDups_filter, hy]
  rw [List.eraseDups_append, List.eraseDups_append, hx, hnew, hrest]

/-- Repetitions inside the parts of a list do not matter to its first occurrences. -/
theorem eraseDups_flatMap_eraseDups {γ : Type} (f : γ → List α) (xs : List γ) :
    (xs.flatMap fun x => (f x).eraseDups).eraseDups = (xs.flatMap f).eraseDups := by
  induction xs with
  | nil => rfl
  | cons x xs ih =>
    have hhead : (f x).eraseDups.eraseDups = (f x).eraseDups :=
      eraseDups_of_nodup (nodup_eraseDups (f x))
    rw [List.flatMap_cons, List.flatMap_cons]
    exact eraseDups_append_congr hhead ih

end TreeLint
