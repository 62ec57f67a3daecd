import TreeLint.Tree.Preorder

/-!
# Walking the tree

The nodes of a unit are visited with a stack whose top is its end: the node on top is visited and
replaced by its children, which are put there in reverse so that the first of them comes next. A
visit takes one node off the pre-order of the stack, so the walk ends.

## Main definitions

* `Stack`: the nodes still to visit
* `Stack.visit?`: one visit
* `walk`: the nodes visited from a list of roots

## Main results

* `Stack.pending_of_visit?`: a visit takes the first pending node and puts its children first
-/

namespace TreeLint

/-- The nodes still to visit. The last one comes next. -/
abbrev Stack := Array Node

namespace Stack

/-- The stack on which the first of the nodes comes next. -/
def ofRoots (roots : List Node) : Stack :=
  roots.reverse.toArray

/-- Takes the node on top off the stack and puts its children there. -/
def visit? (s : Stack) : Option (Node × Stack) :=
  s.back?.map fun n => (n, s.pop ++ n.children.reverse.toArray)

/-- The nodes of a stack in the order in which they come. -/
def pending (s : Stack) : List Node :=
  s.toList.reverse

theorem pending_of_visit? {s rest : Stack} {n : Node} (h : s.visit? = some (n, rest)) :
    ∃ later, s.pending = n :: later ∧ rest.pending = n.children ++ later := by
  obtain ⟨m, hm, he⟩ := Option.map_eq_some_iff.mp h
  obtain ⟨below, rfl⟩ := Array.back?_eq_some_iff.mp hm
  obtain ⟨rfl, rfl⟩ := Prod.mk.inj he
  exact ⟨below.toList.reverse, by simp [pending], by simp [pending]⟩

/-- The nodes visited from a stack. -/
def visited (s : Stack) : List Node :=
  match _next : s.visit? with
  | none => []
  | some (n, rest) => n :: rest.visited
termination_by (s.pending.flatMap Node.preorder).length
decreasing_by
  obtain ⟨later, hs, hrest⟩ := pending_of_visit? _next
  rw [hs, hrest, List.flatMap_cons, Node.preorder_eq]
  simp

end Stack

/-- The nodes visited from the roots. -/
def walk (roots : List Node) : List Node :=
  (Stack.ofRoots roots).visited

end TreeLint
