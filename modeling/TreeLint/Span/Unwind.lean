import TreeLint.Span

/-!
# Unwinding chains of call sites

The user-visible site of a span is the last one of its chain of call sites. A walk along the chain
keeps the spans that it has not met yet. It ends at a span that is its own call site, and it fails
at a span whose call site was met before, or when it has made more hops than are allowed. The test
for a cycle comes before the test of the depth.

The walk works for any function that gives call sites. It is used for spans, whose chains are
finite, and for graphs of spans, in which chains may be cyclic.

## Main definitions

* `UnwindFault`: why a chain cannot be unwound
* `unwindFrom`: the walk along the call sites
* `Span.unwind`, `SpanGraph.unwind`: the end of a chain
* `Span.userSite`, `SpanGraph.userSite`: the end of a chain, or its start if it has none
-/

namespace TreeLint

/-- Why a chain of call sites cannot be unwound. -/
inductive UnwindFault (α : Type) where
  /-- The call site of `last` was met before. -/
  | cyclic (last : α)
  /-- The chain of `start` makes more than `limit` hops. -/
  | tooDeep (start : α) (limit : Int)
  deriving DecidableEq, Repr

namespace UnwindFault

variable {α β : Type}

/-- The fault with other names for the spans. -/
def map (f : α → β) : UnwindFault α → UnwindFault β
  | .cyclic last => .cyclic (f last)
  | .tooDeep start limit => .tooDeep (f start) limit

/-- The wording of a fault. -/
def message : UnwindFault Region → String
  | .cyclic last => "cyclic expansion chain at " ++ last.location
  | .tooDeep start limit =>
    "expansion chain of " ++ start.location ++ " deeper than " ++ toString limit

end UnwindFault

section Walk

variable {α : Type} [DecidableEq α]

/-- The limit that a number of hops exceeds, if it exceeds one. -/
def exceeded? (limit : Option Int) (hops : Nat) : Option Int :=
  limit.filter fun depth => depth < hops

/-- The end of the chain of `start`, when the walk stands at `current` after `hops` hops and the
spans in `unseen` are those not met yet. -/
def unwindFrom (callSite : α → α) (limit : Option Int) (start : α) (unseen : List α)
    (hops : Nat) (current : α) : Except (UnwindFault α) α :=
  if callSite current = current then .ok current
  else if _isNew : callSite current ∈ unseen then
    match exceeded? limit (hops + 1) with
    | some depth => .error (.tooDeep start depth)
    | none =>
      unwindFrom callSite limit start (unseen.erase (callSite current)) (hops + 1)
        (callSite current)
  else .error (.cyclic current)
termination_by unseen.length
decreasing_by
  have := List.length_erase_of_mem _isNew
  have := List.length_pos_of_mem _isNew
  omega

end Walk

namespace Span

/-- The last span of the chain of call sites. -/
def unwind (limit : Option Int) (s : Span) : Except (UnwindFault Span) Span :=
  unwindFrom callSite limit s (s.chain.erase s) 0 s

/-- The user-visible site of a span: the last one of its chain, or the span itself and the fault
when the chain cannot be unwound. -/
def userSite (limit : Option Int) (s : Span) : Span × Option (UnwindFault Span) :=
  match s.unwind limit with
  | .ok site => (site, none)
  | .error fault => (s, some fault)

end Span

/-- A finite graph of spans: each has a region and an origin, whose call site may be any span. -/
structure SpanGraph (n : Nat) where
  region : Fin n → Region
  origin : Fin n → Origin (Fin n)

namespace SpanGraph

variable {n : Nat} (g : SpanGraph n)

/-- The immediate call site; a span without one is its own. -/
def callSite (i : Fin n) : Fin n :=
  (g.origin i).callSite?.getD i

/-- The last span of the chain of call sites. -/
def unwind (limit : Option Int) (i : Fin n) : Except (UnwindFault (Fin n)) (Fin n) :=
  unwindFrom g.callSite limit i ((List.finRange n).erase i) 0 i

/-- The user-visible site of a span: the last one of its chain, or the span itself and the fault
when the chain cannot be unwound. -/
def userSite (limit : Option Int) (i : Fin n) : Fin n × Option (UnwindFault (Fin n)) :=
  match g.unwind limit i with
  | .ok site => (site, none)
  | .error fault => (i, some fault)

end SpanGraph

end TreeLint
