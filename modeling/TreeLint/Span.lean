import TreeLint.Text

/-!
# Spans

A span is a region of a source file together with the origin of that region: written by the user,
produced by expanding a macro, or produced by a lowering of the compiler. The call sites of a span
form a chain, which ends at a span without a call site.

## Main definitions

* `Region`: a file with a start and an end position
* `Desugaring`: the lowerings of the compiler
* `Origin`: where a region comes from, over any type of call sites
* `Span`: a region with its chain of call sites
* `Span.ofOrigin`, `Span.region`, `Span.origin`: a span is a region and an origin
* `Span.callSite`, `Span.chain`: the next span of the chain, and all of them

## Main results

* `Span.ofOrigin_region_origin`: every span is built from its region and its origin
-/

namespace TreeLint

/-- A region of a source file. -/
structure Region where
  file : String
  line : Int
  column : Int
  endLine : Int
  endColumn : Int
  deriving DecidableEq, Hashable, Repr

namespace Region

/-- Whether the region ends where it starts. -/
def isEmpty (r : Region) : Bool :=
  r.line == r.endLine && r.column == r.endColumn

/-- The file and the start position, as messages show them. -/
def location (r : Region) : String :=
  r.file ++ ":" ++ toString r.line ++ ":" ++ toString r.column

end Region

/-- Lowerings of the compiler that produce regions of their own. -/
inductive Desugaring where
  | forLoop
  | questionMark
  | async
  | await
  | whileLoop
  | opaqueType
  | formatLiteral
  | rangeExpr
  deriving DecidableEq, Hashable, Repr

/-- The word for a lowering. -/
def Desugaring.name : Desugaring → String
  | .forLoop => "for_loop"
  | .questionMark => "question_mark"
  | .async => "async"
  | .await => "await"
  | .whileLoop => "while_loop"
  | .opaqueType => "opaque_ty"
  | .formatLiteral => "format_literal"
  | .rangeExpr => "range_expr"

instance : Vocabulary Desugaring :=
  ⟨"DesugaringKind",
    [.forLoop, .questionMark, .async, .await, .whileLoop, .opaqueType, .formatLiteral, .rangeExpr],
    Desugaring.name⟩

/-- The three kinds of origin. -/
inductive OriginKind where
  | direct
  | expansion
  | desugared
  deriving DecidableEq, Repr

/-- The word for a kind of origin. -/
def OriginKind.name : OriginKind → String
  | .direct => "direct"
  | .expansion => "macro_expansion"
  | .desugared => "desugared"

/-- Where a region comes from. Call sites are members of `σ`. -/
inductive Origin (σ : Type) where
  /-- The user wrote the region. -/
  | direct
  /-- A macro was expanded at the call site. -/
  | expansion (callSite : σ) (macroName : String)
  /-- The compiler lowered a construct, perhaps at a known call site. -/
  | desugared (kind : Desugaring) (callSite : Option σ)
  deriving DecidableEq, Repr

namespace Origin

variable {σ τ : Type}

/-- The kind of an origin. -/
def kind : Origin σ → OriginKind
  | .direct => .direct
  | .expansion .. => .expansion
  | .desugared .. => .desugared

/-- Whether the region comes from a macro. -/
def isExpansion (o : Origin σ) : Bool :=
  o.kind == .expansion

/-- The lowering that produced the region, if one did. -/
def desugaring? : Origin σ → Option Desugaring
  | .desugared kind _ => some kind
  | _ => none

/-- The call site, if there is one. -/
def callSite? : Origin σ → Option σ
  | .direct => none
  | .expansion site _ => some site
  | .desugared _ site => site

end Origin

/-- A region with its chain of call sites. -/
inductive Span where
  /-- The user wrote the region. -/
  | written (region : Region)
  /-- A macro expanded at the call site produced the region. -/
  | expanded (region : Region) (macroName : String) (callSite : Span)
  /-- A lowering without a call site produced the region. -/
  | lowered (region : Region) (kind : Desugaring)
  /-- A lowering at the call site produced the region. -/
  | loweredAt (region : Region) (kind : Desugaring) (callSite : Span)
  deriving DecidableEq, Hashable, Repr

namespace Span

/-- The region of a span. -/
def region : Span → Region
  | .written r => r
  | .expanded r _ _ => r
  | .lowered r _ => r
  | .loweredAt r _ _ => r

/-- The origin of a span. -/
def origin : Span → Origin Span
  | .written _ => .direct
  | .expanded _ name site => .expansion site name
  | .lowered _ kind => .desugared kind none
  | .loweredAt _ kind site => .desugared kind (some site)

/-- The span with a region and an origin. -/
def ofOrigin (r : Region) : Origin Span → Span
  | .direct => .written r
  | .expansion site name => .expanded r name site
  | .desugared kind none => .lowered r kind
  | .desugared kind (some site) => .loweredAt r kind site

@[simp]
theorem region_ofOrigin (r : Region) (o : Origin Span) : (ofOrigin r o).region = r := by
  rcases o with _ | _ | ⟨_, _ | _⟩ <;> rfl

@[simp]
theorem origin_ofOrigin (r : Region) (o : Origin Span) : (ofOrigin r o).origin = o := by
  rcases o with _ | _ | ⟨_, _ | _⟩ <;> rfl

@[simp]
theorem ofOrigin_region_origin (s : Span) : ofOrigin s.region s.origin = s := by
  cases s <;> rfl

/-- The immediate call site; a span without one is its own. -/
def callSite : Span → Span
  | .written r => .written r
  | .expanded _ _ site => site
  | .lowered r kind => .lowered r kind
  | .loweredAt _ _ site => site

/-- The span and its call sites, from the inside out. -/
def chain : Span → List Span
  | .written r => [.written r]
  | .expanded r name site => .expanded r name site :: site.chain
  | .lowered r kind => [.lowered r kind]
  | .loweredAt r kind site => .loweredAt r kind site :: site.chain

/-- The region alone, as written by the user. -/
def plain (s : Span) : Span :=
  .written s.region

/-- The file and the start position of the region, as messages show them. -/
def location (s : Span) : String :=
  s.region.location

end Span

end TreeLint
