import TreeLint.Proofs.Fields
import TreeLint.Tree.Walk

/-!
# The walk is the pre-order

The walk with a stack ends, and it visits what the recursive pre-order lists. Its generalised form
speaks of any stack: what is visited from it are the pre-orders of its pending nodes.

A position is a path through the tree: the index of a root, then at each level the index of a node
among those that the node above holds. The pre-order goes through the positions of a forest in
lexicographic order, so the walk comes to every position once and leaves none out.

## Main definitions

* `Stack.Visits`: a finished run of the loop with the nodes that it visits
* `nodeAt?`: the node at a position of a forest
* `positions`: the positions of a forest in lexicographic order

## Main results

* `Stack.visited_eq_flatMap`: the nodes visited from any stack
* `mem_walk`: the walk visits the nodes at the positions of the forest
* `walk_visits_each_position_once`: the walk ends, is the pre-order, and visits each position once
-/

namespace TreeLint

/-! ## Runs of the loop -/

namespace Stack

/-- A finished run of the loop: it visits the nodes, one in each step, until the stack is empty. -/
inductive Visits : Stack → List Node → Prop
  | done {s : Stack} : s.visit? = none → Visits s []
  | step {s rest : Stack} {n : Node} {ns : List Node} :
      s.visit? = some (n, rest) → Visits rest ns → Visits s (n :: ns)

@[simp]
theorem pending_ofRoots (roots : List Node) : (ofRoots roots).pending = roots := by
  simp [ofRoots, pending]

theorem pending_of_visit?_eq_none {s : Stack} (h : s.visit? = none) : s.pending = [] := by
  simpa [visit?, pending] using h

/-- What is visited from a stack are the pre-orders of its pending nodes. -/
theorem Visits.eq_flatMap {s : Stack} {ns : List Node} (h : s.Visits ns) :
    ns = s.pending.flatMap Node.preorder := by
  induction h with
  | done hnone => simp [pending_of_visit?_eq_none hnone]
  | @step s rest n ns hsome _ ih =>
    obtain ⟨later, hs, hrest⟩ := pending_of_visit? hsome
    rw [ih, hs, hrest, List.flatMap_cons, List.flatMap_append, Node.preorder_eq n]
    simp

/-- The loop ends from every stack. -/
theorem visits_visited (s : Stack) : s.Visits s.visited := by
  fun_induction visited s with
  | case1 s hnone => exact .done hnone
  | case2 s n rest hsome ih => exact .step hsome ih

/-- The loop visits the pre-orders of the nodes on the stack, from the top. -/
theorem visited_eq_flatMap (s : Stack) : s.visited = s.pending.flatMap Node.preorder :=
  s.visits_visited.eq_flatMap

end Stack

/-- The walk visits the pre-orders of the roots, in their order. -/
theorem walk_eq_flatMap (roots : List Node) : walk roots = roots.flatMap Node.preorder := by
  rw [walk, Stack.visited_eq_flatMap, Stack.pending_ofRoots]

/-! ## Positions -/

/-- The node that a path of indices leads to, each the index of a held node. -/
def Node.at? (n : Node) : List Nat → Option Node
  | [] => some n
  | i :: path => n.held[i]?.bind fun m => m.at? path

/-- The node at a position of a forest, of which the first index picks a root. -/
def nodeAt? (roots : List Node) : List Nat → Option Node
  | [] => none
  | i :: path => roots[i]?.bind fun n => n.at? path

/-- The positions of a forest. -/
def positions : List Node → List (List Nat)
  | [] => []
  | n :: ns =>
    ([] :: positions n.held).map (0 :: ·) ++ (positions ns).map (List.modifyHead (· + 1))
termination_by ns => (ns.flatMap Node.preorder).length
decreasing_by
  all_goals
    rw [List.flatMap_cons, Node.preorder_eq_held, List.cons_append, List.length_cons,
      List.length_append]
    omega

section Positions

variable {n : Node} {ns roots : List Node} {p : List Nat}

theorem Node.at?_of_ne_nil (hp : p ≠ []) : n.at? p = nodeAt? n.held p := by
  cases p with
  | nil => exact absurd rfl hp
  | cons i path => rfl

@[simp]
theorem nodeAt?_cons_zero : nodeAt? (n :: ns) (0 :: p) = n.at? p := by
  simp [nodeAt?]

@[simp]
theorem nodeAt?_cons_modifyHead :
    nodeAt? (n :: ns) (p.modifyHead (· + 1)) = nodeAt? ns p := by
  cases p <;> simp [nodeAt?]

theorem ne_nil_of_mem_positions (hp : p ∈ positions roots) : p ≠ [] := by
  fun_induction positions roots generalizing p with
  | case1 => simp at hp
  | case2 n ns _ ihTail =>
    rcases List.mem_append.mp hp with h | h
    · obtain ⟨q, -, rfl⟩ := List.mem_map.mp h
      simp
    · obtain ⟨q, hq, rfl⟩ := List.mem_map.mp h
      simpa using ihTail hq

/-- The nodes at the positions of a forest are those of its pre-order. -/
theorem map_nodeAt?_positions (roots : List Node) :
    (positions roots).map (nodeAt? roots) = (roots.flatMap Node.preorder).map some := by
  fun_induction positions roots with
  | case1 => rfl
  | case2 n ns ihHeld ihTail =>
    have hHeld : (positions n.held).map n.at? = (n.held.flatMap Node.preorder).map some := by
      rw [← ihHeld]
      exact List.map_congr_left fun p hp => Node.at?_of_ne_nil (ne_nil_of_mem_positions hp)
    rw [List.flatMap_cons, Node.preorder_eq_held]
    simp [Function.comp_def, Node.at?, hHeld, ihTail]

/-- The positions of a forest are the paths that lead to a node. -/
theorem mem_positions : p ∈ positions roots ↔ (nodeAt? roots p).isSome := by
  constructor
  · intro hp
    have hmem : nodeAt? roots p ∈ (roots.flatMap Node.preorder).map some :=
      map_nodeAt?_positions roots ▸ List.mem_map_of_mem hp
    obtain ⟨n, -, hn⟩ := List.mem_map.mp hmem
    rw [← hn]
    rfl
  · fun_induction positions roots generalizing p with
    | case1 => cases p <;> simp [nodeAt?]
    | case2 n ns ihHeld ihTail =>
      intro hp
      rcases p with _ | ⟨_ | i, path⟩
      · simp [nodeAt?] at hp
      · refine List.mem_append_left _ (List.mem_map_of_mem ?_)
        rw [nodeAt?_cons_zero] at hp
        by_cases hpath : path = []
        · rw [hpath]
          exact List.mem_cons_self
        · rw [Node.at?_of_ne_nil hpath] at hp
          exact List.mem_cons_of_mem _ (ihHeld hp)
      · refine List.mem_append_right _ (List.mem_map.mpr ⟨i :: path, ?_, rfl⟩)
        exact ihTail (by simpa [nodeAt?] using hp)

theorem modifyHead_lt_modifyHead {q : List Nat} :
    p.modifyHead (· + 1) < q.modifyHead (· + 1) ↔ p < q := by
  cases p <;> cases q <;> simp [List.cons_lt_cons_iff]

/-- The positions are in lexicographic order, so none is listed twice. -/
theorem pairwise_lt_positions (roots : List Node) : (positions roots).Pairwise (· < ·) := by
  fun_induction positions roots with
  | case1 => exact .nil
  | case2 n ns ihHeld ihTail =>
    rw [List.pairwise_append]
    refine ⟨?_, ?_, ?_⟩
    -- A node comes before what it holds, and the first root with all below it before the others.
    · rw [List.pairwise_map, List.pairwise_cons]
      constructor
      · intro p hp
        obtain ⟨i, path, rfl⟩ := List.exists_cons_of_ne_nil (ne_nil_of_mem_positions hp)
        simp
      · exact ihHeld.imp fun h => by simpa [List.cons_lt_cons_iff] using h
    · rw [List.pairwise_map]
      exact ihTail.imp modifyHead_lt_modifyHead.mpr
    · rintro _ ha _ hb
      obtain ⟨p, -, rfl⟩ := List.mem_map.mp ha
      obtain ⟨q, hq, rfl⟩ := List.mem_map.mp hb
      obtain ⟨i, path, rfl⟩ := List.exists_cons_of_ne_nil (ne_nil_of_mem_positions hq)
      simp [List.cons_lt_cons_iff]

end Positions

/-- The walk visits the nodes at the positions of the forest. -/
theorem mem_walk {roots : List Node} {n : Node} :
    n ∈ walk roots ↔ ∃ p, nodeAt? roots p = some n := by
  rw [walk_eq_flatMap]
  constructor
  · intro hn
    have hmem : some n ∈ (positions roots).map (nodeAt? roots) := by
      rw [map_nodeAt?_positions]
      exact List.mem_map_of_mem hn
    obtain ⟨p, -, hp⟩ := List.mem_map.mp hmem
    exact ⟨p, hp⟩
  · rintro ⟨p, hp⟩
    have hmem : nodeAt? roots p ∈ (positions roots).map (nodeAt? roots) :=
      List.mem_map_of_mem (mem_positions.mpr (by rw [hp]; rfl))
    rw [map_nodeAt?_positions, hp] at hmem
    simpa using hmem

/-- **The walk is the pre-order.** The loop ends on every forest and visits what the recursive
pre-order lists, in which a node is followed by the pre-orders of all nodes that its fields hold.
The fields leave nothing of a node out, and a foreign node holds nothing. The walk goes through the
positions of the forest in lexicographic order, so it visits each of them exactly once. -/
theorem walk_visits_each_position_once (roots : List Node) :
    ((Stack.ofRoots roots).Visits (walk roots) ∧
      ∀ ns, (Stack.ofRoots roots).Visits ns → ns = walk roots) ∧
    (walk roots = roots.flatMap Node.preorder ∧
      (∀ n : Node, n.preorder = n :: n.held.flatMap Node.preorder) ∧
      (∀ m n : Node, m.kindName = n.kindName → m.fields = n.fields → m = n) ∧
      ∀ n : Node, n.isForeign → n.held = []) ∧
    ((positions roots).Pairwise (· < ·) ∧
      (∀ p, p ∈ positions roots ↔ (nodeAt? roots p).isSome) ∧
      (positions roots).map (nodeAt? roots) = (walk roots).map some) := by
  refine ⟨⟨Stack.visits_visited _, fun ns hns => ?_⟩, ⟨walk_eq_flatMap roots,
    Node.preorder_eq_held, fun _ _ => Node.eq_of_fields, ?_⟩, pairwise_lt_positions roots,
    fun p => mem_positions, ?_⟩
  · rw [hns.eq_flatMap, Stack.pending_ofRoots, walk_eq_flatMap]
  · intro n hn
    obtain ⟨kindName, span, rfl | rfl | rfl⟩ := Node.exists_of_isForeign hn <;> rfl
  · rw [map_nodeAt?_positions, walk_eq_flatMap]

end TreeLint
