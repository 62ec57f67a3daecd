import Mathlib.Data.List.Forall2

/-!
# Loops that may fail

A loop over a list ends with the first failure. So it succeeds if every element does, and when the
failures do not depend on the state of the loop they can be looked for first.

## Main results

* `mapM_eq_ok_iff`: a loop succeeds if every element does
* `mapM_of_first`: a loop ends with the first failure
* `foldlM_map_eq`: a loop with a state whose failures do not depend on it
-/

namespace TreeLint.Loops

variable {α β ε : Type}

@[simp]
theorem ok_bind (a : α) (f : α → Except ε β) : (Except.ok a >>= f) = f a := rfl

@[simp]
theorem error_bind (fault : ε) (f : α → Except ε β) :
    (Except.error fault >>= f) = .error fault := rfl

/-- A loop whose failures do not depend on its state can look for them first. -/
theorem foldlM_map_eq {γ : Type} (load : α → Except ε γ) (use : β → γ → β) (b : β)
    (as : List α) :
    as.foldlM (fun b a => (load a).map (use b)) b =
      (as.mapM load).map fun loaded => loaded.foldl use b := by
  induction as generalizing b with
  | nil => rfl
  | cons a as ih =>
    rw [List.foldlM_cons, List.mapM_cons]
    cases load a with
    | error fault => rfl
    | ok loaded =>
      refine (ih (use b loaded)).trans ?_
      cases as.mapM load <;> rfl

/-- A loop succeeds if every element does. -/
theorem mapM_eq_ok_iff {load : α → Except ε β} {as : List α} {bs : List β} :
    as.mapM load = .ok bs ↔ List.Forall₂ (fun a b => load a = .ok b) as bs := by
  induction as generalizing bs with
  | nil =>
    rw [List.mapM_nil, List.forall₂_nil_left_iff]
    exact ⟨fun h => (Except.ok.inj h).symm, fun h => h ▸ rfl⟩
  | cons a as ih =>
    rw [List.mapM_cons, List.forall₂_cons_left_iff]
    cases ha : load a with
    | error fault =>
      refine iff_of_false nofun ?_
      rintro ⟨b, rest, hb, -⟩
      cases hb
    | ok b =>
      rw [ok_bind]
      constructor
      · intro h
        cases hrest : as.mapM load with
        | error fault =>
          rw [hrest] at h
          cases h
        | ok rest =>
          rw [hrest] at h
          cases h
          exact ⟨b, rest, rfl, ih.mp hrest, rfl⟩
      · rintro ⟨_, rest, hb, hrest, rfl⟩
        cases hb
        rw [ih.mpr hrest]
        rfl

theorem exists_of_forall₂ {R : α → β → Prop} {as : List α} {bs : List β}
    (h : List.Forall₂ R as bs) {a : α} (ha : a ∈ as) : ∃ b ∈ bs, R a b := by
  induction h with
  | nil => cases ha
  | cons hhead _ ih =>
    rcases List.mem_cons.mp ha with rfl | htail
    · exact ⟨_, List.mem_cons_self, hhead⟩
    · obtain ⟨b, hb, hR⟩ := ih htail
      exact ⟨b, List.mem_cons_of_mem _ hb, hR⟩

/-- The results of a loop can be changed after it or in it. -/
theorem map_mapM {γ : Type} (load : α → Except ε β) (f : β → γ) (as : List α) :
    (as.mapM load).map (List.map f) = as.mapM fun a => (load a).map f := by
  induction as with
  | nil => rfl
  | cons a as ih =>
    rw [List.mapM_cons, List.mapM_cons, ← ih]
    cases load a with
    | error fault => rfl
    | ok b => cases as.mapM load <;> rfl

/-- A loop ends with the first failure. -/
theorem mapM_of_first {load : α → Except ε β} {before after : List α} {a : α}
    {fault : ε} (hbefore : ∀ x ∈ before, ∃ y, load x = .ok y) (ha : load a = .error fault) :
    (before ++ a :: after).mapM load = .error fault := by
  induction before with
  | nil =>
    rw [List.nil_append, List.mapM_cons, ha]
    rfl
  | cons x before ih =>
    obtain ⟨y, hy⟩ := hbefore x List.mem_cons_self
    have hrest := ih fun x hx => hbefore x (List.mem_cons_of_mem _ hx)
    rw [List.cons_append, List.mapM_cons, hy, hrest]
    rfl

theorem exists_of_mapM_eq_error {load : α → Except ε β} {as : List α} {fault : ε}
    (h : as.mapM load = .error fault) : ∃ a ∈ as, load a = .error fault := by
  induction as with
  | nil => cases h
  | cons a as ih =>
    rw [List.mapM_cons] at h
    cases ha : load a with
    | error other =>
      rw [ha, error_bind] at h
      cases h
      exact ⟨a, List.mem_cons_self, ha⟩
    | ok b =>
      cases has : as.mapM load with
      | ok bs =>
        rw [ha, has] at h
        cases h
      | error other =>
        rw [ha, has, ok_bind, error_bind] at h
        cases h
        obtain ⟨x, hx, hload⟩ := ih has
        exact ⟨x, List.mem_cons_of_mem a hx, hload⟩

end TreeLint.Loops
