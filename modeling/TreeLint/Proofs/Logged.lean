import TreeLint.Event

/-!
# Computations that note events

The value and the events of a loop whose body notes events. When the events of the body do not
depend on the state of the loop, those of the loop are the events of its rounds in sequence.

## Main results

* `Logged.value_foldlM`: the value of a loop is that of the loop without events
* `Logged.map_events_foldlM`, `Logged.events_foldlM`: the events of a loop
* `Logged.value_mapM`, `Logged.events_mapM`: the value and the events of a map
-/

namespace TreeLint.Logged

variable {α β : Type}

@[ext]
theorem ext {x y : Logged α} (hvalue : x.value = y.value) (hevents : x.events = y.events) :
    x = y := by
  cases x
  cases y
  simp_all

instance : LawfulMonad Logged := LawfulMonad.mk' Logged
  (by
    intro α x
    apply ext
    · rfl
    · exact List.append_nil _)
  (by
    intro α β a f
    apply ext <;> rfl)
  (by
    intro α β γ x f g
    apply ext
    · rfl
    · simp)

@[simp]
theorem value_map (f : α → β) (x : Logged α) : (f <$> x).value = f x.value := rfl

@[simp]
theorem events_map (f : α → β) (x : Logged α) : (f <$> x).events = x.events :=
  List.append_nil _

theorem value_foldlM (f : β → α → Logged β) (b : β) (xs : List α) :
    (xs.foldlM f b).value = xs.foldl (fun b a => (f b a).value) b := by
  induction xs generalizing b with
  | nil => rfl
  | cons a xs ih => rw [List.foldlM_cons, value_bind, ih, List.foldl_cons]

/-- The events of a loop, seen through a function, when those of its body do not depend on the
state. -/
theorem map_events_foldlM {γ : Type} {view : Event → γ} {f : β → α → Logged β}
    {noted : α → List γ} (hf : ∀ b a, (f b a).events.map view = noted a) (b : β) (xs : List α) :
    (xs.foldlM f b).events.map view = xs.flatMap noted := by
  induction xs generalizing b with
  | nil => rfl
  | cons a xs ih =>
    rw [List.foldlM_cons, events_bind, List.map_append, hf, ih, List.flatMap_cons]

/-- A loop notes the events of its rounds in sequence, where they do not depend on what is
accumulated. -/
theorem events_foldlM {f : β → α → Logged β} {noted : α → List Event}
    (hf : ∀ b a, (f b a).events = noted a) (b : β) (xs : List α) :
    (xs.foldlM f b).events = xs.flatMap noted := by
  have h : (xs.foldlM f b).events.map id = xs.flatMap noted :=
    map_events_foldlM (fun b a => (List.map_id _).trans (hf b a)) b xs
  rwa [List.map_id] at h

@[simp]
theorem value_mapM (f : α → Logged β) (xs : List α) :
    (xs.mapM f).value = xs.map fun a => (f a).value := by
  induction xs with
  | nil => rfl
  | cons a xs ih => simp [List.mapM_cons, ih]

/-- Elements are treated in order, and so are their events noted. -/
@[simp]
theorem events_mapM (f : α → Logged β) (xs : List α) :
    (xs.mapM f).events = xs.flatMap fun a => (f a).events := by
  induction xs with
  | nil => rfl
  | cons a xs ih => simp [List.mapM_cons, ih]

end TreeLint.Logged
