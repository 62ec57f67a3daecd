import TreeLint.Rule.PanicProne

/-!
# Backends named by paths

A path names the backend of the first signature in the table that occurs in it. What decides is the
place in the table, not the offset in the path: other signatures may occur before it, overlap with
it, or come about only where two texts are joined. So to qualify a path can change the backend that
it names, but only to one with an earlier signature.

## Main definitions

* `Text.OccursAt`: a text stands in another at an offset
* `PanicBackend.signature`, `PanicBackend.place`: the signature of a backend and its place
* `PanicBackend.Signs`: the signature of a backend occurs in a path

## Main results

* `Text.occursIn_iff_exists_occursAt`: the search finds an occurrence at any offset
* `find?_eq_some_iff_of_ranked`: a search in a ranked list finds what has the least rank
* `PanicBackend.ofPath?_by_first_signature`: which backend a path names, and a qualified path
-/

namespace TreeLint

/-! ## Occurrences -/

namespace Text

/-- A text stands in another at an offset, character by character. -/
def OccursAt (needle hay : String) (offset : Nat) : Prop :=
  needle.toList.length + offset ≤ hay.toList.length ∧
    ∀ i (h : i < needle.toList.length), hay.toList[i + offset]? = some needle.toList[i]

variable {needle hay : String}

theorem occursIn_iff_exists_occursAt :
    occursIn needle.toList hay.toList ↔ ∃ offset, OccursAt needle hay offset :=
  occursIn_iff_isInfix.trans List.infix_iff_getElem?

/-- An occurrence moves with the text around it. -/
theorem OccursAt.qualify {offset : Nat} (h : OccursAt needle hay offset) (before after : String) :
    OccursAt needle (before ++ hay ++ after) (offset + before.toList.length) := by
  obtain ⟨hfits, hsame⟩ := h
  rw [OccursAt, String.toList_append, String.toList_append, List.append_assoc]
  constructor
  · simp only [List.length_append]
    omega
  · intro i hi
    rw [← Nat.add_assoc, List.getElem?_append_right (Nat.le_add_left _ _), Nat.add_sub_cancel,
      List.getElem?_append_left (by omega)]
    exact hsame i hi

end Text

/-! ## Searching by rank -/

/-- A search in a list that is strictly ranked finds what has the least rank. -/
theorem find?_eq_some_iff_of_ranked {α : Type} {rank : α → Nat} {p : α → Bool} {xs : List α}
    (hranked : xs.Pairwise fun a b => rank a < rank b) {a : α} :
    xs.find? p = some a ↔ a ∈ xs ∧ p a ∧ ∀ b ∈ xs, rank b < rank a → ¬ p b := by
  induction xs with
  | nil => simp
  | cons x xs ih =>
    obtain ⟨hfirst, hrest⟩ := List.pairwise_cons.mp hranked
    by_cases hx : p x
    · rw [List.find?_cons_of_pos hx]
      constructor
      · rintro ⟨⟩
        refine ⟨List.mem_cons_self, hx, fun b hb hlt => ?_⟩
        rcases List.mem_cons.mp hb with rfl | hb
        · exact absurd hlt (Nat.lt_irrefl _)
        · exact absurd hlt (Nat.lt_asymm (hfirst b hb))
      · rintro ⟨ha, -, hleast⟩
        rcases List.mem_cons.mp ha with rfl | ha
        · rfl
        · exact absurd hx (hleast x List.mem_cons_self (hfirst a ha))
    · rw [List.find?_cons_of_neg hx, ih hrest]
      constructor
      · rintro ⟨ha, hpa, hleast⟩
        refine ⟨List.mem_cons_of_mem x ha, hpa, fun b hb hlt => ?_⟩
        rcases List.mem_cons.mp hb with rfl | hb
        · exact hx
        · exact hleast b hb hlt
      · rintro ⟨ha, hpa, hleast⟩
        rcases List.mem_cons.mp ha with rfl | ha
        · exact absurd hpa hx
        · exact ⟨ha, hpa, fun b hb => hleast b (List.mem_cons_of_mem x hb)⟩

/-! ## Backends -/

namespace PanicBackend

/-- The signature of a backend. -/
def signature : PanicBackend → String
  | .panickingModule => "panicking::"
  | .panicFmt => "panic_fmt"
  | .panicDisplay => "panic_display"
  | .assertFailed => "assert_failed"
  | .beginPanic => "begin_panic"

/-- The place of the signature of a backend in the table. -/
def place : PanicBackend → Nat
  | .panickingModule => 0
  | .panicFmt => 1
  | .panicDisplay => 2
  | .assertFailed => 3
  | .beginPanic => 4

/-- The signature of a backend occurs in a path, at whatever offset. -/
def Signs (b : PanicBackend) (path : String) : Prop :=
  ∃ offset, Text.OccursAt b.signature path offset

/-- The backends in the order of their places. -/
def ranking : List PanicBackend :=
  [.panickingModule, .panicFmt, .panicDisplay, .assertFailed, .beginPanic]

variable {path : String} {b : PanicBackend}

theorem mem_ranking (b : PanicBackend) : b ∈ ranking := by
  cases b <;> decide

theorem pairwise_ranking : ranking.Pairwise fun a b => a.place < b.place := by
  decide

theorem signatures_eq_map : signatures = ranking.map fun b => (b.signature, b) := rfl

/-- The place of a backend is that of its signature in the table. -/
theorem getElem?_signatures (b : PanicBackend) :
    signatures[b.place]? = some (b.signature, b) := by
  cases b <;> rfl

theorem Signs.qualify (h : b.Signs path) (before after : String) :
    b.Signs (before ++ path ++ after) := by
  obtain ⟨offset, hoffset⟩ := h
  exact ⟨_, hoffset.qualify before after⟩

/-- The backend of a path is the first in the ranking whose signature occurs in it. -/
theorem ofPath?_eq_find? (path : String) :
    ofPath? path =
      ranking.find? fun b => Text.occursIn b.signature.toList path.toList := by
  rw [ofPath?, signatures_eq_map, List.find?_map, Option.map_map]
  exact Option.map_id' ..

theorem ofPath?_eq_none_iff : ofPath? path = none ↔ ∀ b : PanicBackend, ¬ b.Signs path := by
  rw [ofPath?_eq_find?, List.find?_eq_none]
  simp only [Text.occursIn_iff_exists_occursAt]
  exact ⟨fun h b => h b (mem_ranking b), fun h b _ => h b⟩

/-- A path names the backend with the least place among those that sign it. -/
theorem ofPath?_eq_some_iff_signs :
    ofPath? path = some b ↔
      b.Signs path ∧ ∀ c : PanicBackend, c.place < b.place → ¬ c.Signs path := by
  rw [ofPath?_eq_find?, find?_eq_some_iff_of_ranked pairwise_ranking]
  simp only [Text.occursIn_iff_exists_occursAt]
  constructor
  · rintro ⟨-, hsigns, hleast⟩
    exact ⟨hsigns, fun c => hleast c (mem_ranking c)⟩
  · rintro ⟨hsigns, hleast⟩
    exact ⟨mem_ranking b, hsigns, fun c _ => hleast c⟩

/-- A path that a backend signs names a backend whose place is no later. -/
theorem Signs.exists_ofPath? (h : b.Signs path) :
    ∃ c, ofPath? path = some c ∧ c.place ≤ b.place := by
  cases hpath : ofPath? path with
  | none => exact absurd h (ofPath?_eq_none_iff.mp hpath b)
  | some c =>
    refine ⟨c, rfl, Nat.le_of_not_lt fun hlt => ?_⟩
    exact (ofPath?_eq_some_iff_signs.mp hpath).2 b hlt h

/-- **A path names the backend of the first signature that occurs in it.** The table has the
signature of every backend at its place, and no other. A path names no backend if and only if none
of the signatures occurs in it, at any offset, and a backend if and only if its signature occurs in
the path and none from an earlier place does, wherever the others occur. If a path names a backend,
then with any texts before and after it, it names one again, whose signature is at the same place or
an earlier one. -/
theorem ofPath?_by_first_signature :
    (signatures.length = 5 ∧ ∀ b : PanicBackend, signatures[b.place]? = some (b.signature, b)) ∧
    (∀ path, ofPath? path = none ↔ ∀ b : PanicBackend, ¬ b.Signs path) ∧
    (∀ path b, ofPath? path = some b ↔
      b.Signs path ∧ ∀ c : PanicBackend, c.place < b.place → ¬ c.Signs path) ∧
    ∀ before path after b, ofPath? path = some b →
      ∃ c, ofPath? (before ++ path ++ after) = some c ∧ c.place ≤ b.place := by
  refine ⟨⟨rfl, getElem?_signatures⟩, fun path => ofPath?_eq_none_iff,
    fun path b => ofPath?_eq_some_iff_signs, fun before path after b hpath => ?_⟩
  have hsigns := (ofPath?_eq_some_iff_signs.mp hpath).1
  exact (hsigns.qualify before after).exists_ofPath?

/-- A signature that comes about where the texts are joined takes the place of the one that the path
has by itself, and the one that is added after it does not. -/
theorem ofPath?_joined :
    ofPath? ":panic_fmt" = some .panicFmt ∧
    (∃ c, ofPath? ("core::panicking:" ++ ":panic_fmt" ++ "::begin_panic") = some c ∧
      c.place ≤ panicFmt.place) ∧
    panickingModule.Signs ("core::panicking:" ++ ":panic_fmt" ++ "::begin_panic") := by
  have hpath : ofPath? ":panic_fmt" = some .panicFmt := by decide
  have hjoined : ofPath? ("core::panicking:" ++ ":panic_fmt" ++ "::begin_panic") =
      some .panickingModule := by
    decide
  obtain ⟨-, -, hnamed, hqualified⟩ := ofPath?_by_first_signature
  exact ⟨hpath, hqualified _ _ _ _ hpath, ((hnamed _ _).mp hjoined).1⟩

end PanicBackend

end TreeLint
