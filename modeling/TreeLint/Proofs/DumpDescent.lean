import TreeLint.Proofs.DumpSteps

/-!
# Reading a dump goes down

The steps of a document lead to parts of it: to smaller documents, or to texts that are characters
of a text or keys of an object. From a text no step leads further. So an argument about a document
may go from the parts that are read of it, in whatever positions, to the document itself.

## Main definitions

* `Step.Inside`: a step leads to a part of an object, if it leads anywhere

## Main results

* `Position.inside_steps`: all steps of an object lead to parts of it
* `Position.exists_obj_of_visit`: only of objects are parts read
* `Position.steps_induction`: induction along the steps
-/

namespace TreeLint.Dump

open Step (check required given elements sequence)

variable {α : Type} {d : Document} {fs : List (String × Document)}

/-- A step leads to a part of an object, if it leads anywhere: to a smaller document, or to a text
that is a character or a key of one. -/
def Step.Inside (fs : List (String × Document)) : Step → Prop
  | fault _ => True
  | visit _ x => (∃ s, x = .str s) ∨ sizeOf x < sizeOf (Document.obj fs)

theorem sizeOf_lt_of_lookup {key : String} (h : fs.lookup key = some d) :
    sizeOf d < sizeOf (Document.obj fs) := by
  have hmem := List.sizeOf_lt_of_mem (mem_of_lookup h)
  rw [Prod.mk.sizeOf_spec] at hmem
  rw [Document.obj.sizeOf_spec]
  omega

section Inside

variable {key : String} {position : Position}

theorem inside_check (result : Except Fault α) : ∀ step ∈ check result, step.Inside fs := by
  intro step hstep
  obtain ⟨own, -, rfl⟩ := Step.mem_check.mp hstep
  trivial

/-- A field that has to be there is a part of its object, and its absence leads nowhere. -/
theorem inside_required {steps : Document → List Step}
    (h : ∀ d, fs.lookup key = some d → ∀ step ∈ steps d, step.Inside fs) :
    ∀ step ∈ required fs key steps, step.Inside fs := by
  unfold required
  split
  · exact h _ ‹_›
  · exact List.forall_mem_singleton.mpr trivial

theorem inside_get : ∀ step ∈ required fs key fun d => [.visit position d], step.Inside fs :=
  inside_required fun _ hd => List.forall_mem_singleton.mpr (.inr (sizeOf_lt_of_lookup hd))

theorem inside_text : ∀ step ∈ required fs key fun _ => [], step.Inside fs :=
  inside_required fun _ _ => List.forall_mem_nil _

theorem inside_given : ∀ step ∈ given fs key position, step.Inside fs := by
  intro step hstep
  obtain ⟨d, hd, rfl⟩ := List.mem_map.mp hstep
  obtain ⟨hd, -⟩ := Option.filter_eq_some_iff.mp (Option.mem_toList.mp hd)
  exact .inr (sizeOf_lt_of_lookup hd)

/-- The elements of a part are parts. Characters and keys stand in for those of a text and of an
object. -/
theorem inside_elements (hd : sizeOf d < sizeOf (Document.obj fs)) :
    ∀ step ∈ elements position d, step.Inside fs := by
  intro step hstep
  rcases Step.mem_elements hstep with rfl | ⟨x, rfl, htext | ⟨ds, rfl, hx⟩⟩
  · trivial
  · exact .inl htext
  · have hlt := List.sizeOf_lt_of_mem hx
    rw [Document.arr.sizeOf_spec] at hd
    exact .inr (by omega)

theorem inside_sequence : ∀ step ∈ sequence fs key position, step.Inside fs := by
  intro step hstep
  obtain ⟨d, hd, hstep⟩ := List.mem_flatMap.mp hstep
  exact inside_elements (sizeOf_lt_of_lookup (Option.mem_toList.mp hd)) step hstep

theorem inside_consult (c : Consult) : ∀ step ∈ c.steps fs, step.Inside fs := by
  cases c with
  | plain key => exact List.forall_mem_nil _
  | safety => exact List.forall_mem_nil _
  | text key => exact inside_text
  | span => exact inside_get
  | pattern => exact inside_get
  | params => exact inside_sequence
  | typeRef => exact inside_given
  | traitRef => exact inside_given
  | segments =>
    rw [Consult.steps]
    split
    · exact inside_check _
    · exact inside_text
  | closureKind => exact inside_check _
  | blockMode => exact inside_check _
  | hold holding =>
    cases holding with
    | one key slot => exact inside_get
    | optional key slot => exact inside_given
    | many key sort => exact inside_sequence

/-- The names of lang items are checked, but no part of them is visited. -/
theorem inside_langItemSteps : ∀ step ∈ langItemSteps d, step.Inside fs := by
  unfold langItemSteps
  split
  · intro step hstep
    obtain ⟨entry, -, hstep⟩ := List.mem_flatMap.mp hstep
    exact inside_check _ step hstep
  · exact List.forall_mem_singleton.mpr trivial

theorem inside_spanSteps : ∀ step ∈ spanSteps (.obj fs), step.Inside fs := by
  simp only [spanSteps, List.forall_mem_append]
  refine ⟨⟨⟨⟨?_, ?_⟩, inside_check _⟩, inside_check _⟩, ?_⟩
  · exact inside_required fun _ _ => inside_check _
  · exact inside_required fun _ _ => inside_check _
  · intro step hstep
    obtain ⟨d, hd, rfl⟩ := List.mem_map.mp hstep
    exact .inr (sizeOf_lt_of_lookup (Option.mem_toList.mp hd))

theorem inside_originSteps : ∀ step ∈ originSteps (.obj fs), step.Inside fs := by
  rw [originSteps]
  split
  · exact inside_get
  · exact List.forall_mem_append.mpr ⟨inside_required fun _ _ => inside_check _, inside_given⟩
  · exact List.forall_mem_singleton.mpr trivial

/-- A parameter leads to its own parts, and to the span of its type, which is a part of a part. -/
theorem inside_paramSteps : ∀ step ∈ paramSteps fs, step.Inside fs := by
  simp only [paramSteps]
  split
  case h_1 span hspan =>
    obtain ⟨hspan, -⟩ := Option.filter_eq_some_iff.mp hspan
    refine List.forall_mem_append.mpr ⟨inside_get, List.forall_mem_singleton.mpr ?_⟩
    exact .inr (sizeOf_lt_of_lookup hspan)
  case h_2 =>
    split
    case h_1 type htype =>
      obtain ⟨htype, -⟩ := Option.filter_eq_some_iff.mp htype
      have hlt := sizeOf_lt_of_lookup htype
      have hwider : ∀ step : Step, step.Inside type → step.Inside fs := by
        rintro (_ | ⟨_, x⟩) hstep
        · trivial
        · rcases hstep with htext | hsize
          · exact .inl htext
          · exact .inr (hsize.trans hlt)
      rw [List.forall_mem_append, List.forall_mem_append]
      refine ⟨⟨fun step hstep => hwider step (inside_text step hstep), inside_get⟩, ?_⟩
      exact fun step hstep => hwider step (inside_given step hstep)
    case h_2 => exact List.forall_mem_cons.mpr ⟨trivial, inside_get⟩
    case h_3 => exact inside_get

/-- All steps of an object lead to parts of it. -/
theorem Position.inside_steps (position : Position) :
    ∀ step ∈ position.steps (.obj fs), step.Inside fs := by
  have hconsults : ∀ kind, ∀ step ∈ (consults kind).flatMap (Consult.steps fs),
      step.Inside fs := by
    intro kind step hstep
    obtain ⟨c, -, hstep⟩ := List.mem_flatMap.mp hstep
    exact inside_consult c step hstep
  cases position with
  | dump =>
    rw [steps, dumpSteps, List.forall_mem_append, List.forall_mem_append]
    refine ⟨⟨inside_langItemSteps, inside_elements ?_⟩, inside_check _⟩
    cases hitems : fs.lookup "items" with
    | none =>
      -- Null stands in for missing items; it is no part of the object, but small enough.
      rw [Option.getD_none, Document.null.sizeOf_spec, Document.obj.sizeOf_spec]
      rcases fs with _ | ⟨field, fs⟩
      · decide
      · rw [List.cons.sizeOf_spec]
        omega
    | some items => exact sizeOf_lt_of_lookup hitems
  | span => exact inside_spanSteps
  | origin => exact inside_originSteps
  | typeRef => exact List.forall_mem_append.mpr ⟨inside_text, inside_get⟩
  | traitRef => exact List.forall_mem_append.mpr ⟨inside_text, inside_get⟩
  | pattern =>
    simp only [steps, List.forall_mem_append]
    exact ⟨⟨inside_check _, inside_get⟩, inside_sequence⟩
  | param => exact inside_paramSteps
  | slot s =>
    cases s with
    | block => exact hconsults .block
    | node sort =>
      rw [steps]
      split
      · exact hconsults _
      · exact List.forall_mem_singleton.mpr trivial

end Inside

theorem visit_not_mem_check {p : Position} {x : Document} (result : Except Fault α) :
    .visit p x ∉ check result := by
  intro h
  obtain ⟨own, -, hvisit⟩ := Step.mem_check.mp h
  cases hvisit

/-- Only of objects are parts read. -/
theorem Position.exists_obj_of_visit {position p : Position} {x : Document}
    (h : .visit p x ∈ position.steps d) : ∃ fs, d = .obj fs := by
  cases position with
  | span =>
    rw [steps] at h
    unfold spanSteps at h
    split at h
    · simp [visit_not_mem_check] at h
    · exact ⟨_, rfl⟩
    · cases List.mem_singleton.mp h
  | origin =>
    rw [steps] at h
    unfold originSteps at h
    split at h
    · cases h
    · cases h
    · exact ⟨_, rfl⟩
    · cases List.mem_singleton.mp h
  | slot s =>
    cases d with
    | obj fs => exact ⟨fs, rfl⟩
    | _ => cases s <;> cases List.mem_singleton.mp h
  | _ =>
    cases d with
    | obj fs => exact ⟨fs, rfl⟩
    | _ => cases List.mem_singleton.mp h

/-- What holds of a document if it holds of all parts that are read of it, in whatever position,
holds of every document. -/
theorem Position.steps_induction {motive : Document → Prop}
    (h : ∀ d, (∀ (position p : Position) x, .visit p x ∈ position.steps d → motive x) → motive d)
    (d : Document) : motive d := by
  -- Nothing is read of a text, so the texts that are read need no bound on their size.
  have htext : ∀ s, motive (.str s) := by
    intro s
    refine h (.str s) fun position p x hx => ?_
    obtain ⟨fs, hfs⟩ := exists_obj_of_visit hx
    cases hfs
  induction hsize : sizeOf d using Nat.strong_induction_on generalizing d with
  | _ size ih =>
    refine h d fun position p x hx => ?_
    obtain ⟨fs, rfl⟩ := exists_obj_of_visit hx
    rcases position.inside_steps _ hx with ⟨s, rfl⟩ | hlt
    · exact htext s
    · exact ih (sizeOf x) (hsize ▸ hlt) x rfl

end TreeLint.Dump
