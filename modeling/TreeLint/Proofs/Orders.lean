import Mathlib.Data.List.Lex
import Mathlib.Data.Prod.Lex
import TreeLint.Discovery
import TreeLint.Proofs.StableSort

/-!
# The orders of diagnostics and of paths

Diagnostics and paths are sorted by comparisons that are put together from those of their parts. In
the end all of them are lexicographic: a name stands for its code points, a diagnostic for its file,
line, column and rule, and a path for its names.

## Main definitions

* `codePoints`: the code points of a text
* `Diagnostic.siteKey`: what the order of sites compares, in lexicographic order

## Main results

* `compare_eq_lt_iff`, `isLE_compare_iff`: texts are ordered by code points
* `Diagnostic.isLE_compareSite_iff`: diagnostics are ordered by their keys
* `comparePaths_eq_compareLex`: paths are compared name by name
-/

namespace TreeLint

/-! ## Texts -/

/-- The code points of a text. -/
def codePoints (s : String) : List Nat :=
  s.toList.map Char.toNat

section Texts

variable {s t : String}

theorem codePoints_inj : codePoints s = codePoints t ↔ s = t := by
  rw [codePoints, codePoints, List.map_inj_right fun _ _ => Char.toNat_inj.mp, String.toList_inj]

theorem map_toNat_lt_iff {cs ds : List Char} :
    cs.map Char.toNat < ds.map Char.toNat ↔ cs < ds := by
  induction cs generalizing ds with
  | nil => cases ds <;> simp
  | cons c cs ih =>
    cases ds with
    | nil => simp
    | cons d ds =>
      have hhead : c.toNat < d.toNat ↔ c < d := Iff.rfl
      simp only [List.map_cons, List.cons_lt_cons_iff, ih, Char.toNat_inj, hhead]

/-- Texts are compared by their code points. -/
theorem compare_eq_lt_iff : compare s t = .lt ↔ codePoints s < codePoints t := by
  have hlt : s < t ↔ codePoints s < codePoints t := map_toNat_lt_iff.symm
  exact compareOfLessAndEq_eq_lt.trans hlt

theorem isLE_compare_iff : (compare s t).isLE ↔ codePoints s ≤ codePoints t := by
  rw [← not_lt, ← compare_eq_lt_iff, ← Std.OrientedCmp.gt_iff_lt, Ordering.isLE_iff_ne_gt]

end Texts

/-! ## Diagnostics -/

namespace Diagnostic

/-- What the order of sites compares: file, line, column and rule, the first that differs deciding,
and texts by their code points. -/
def siteKey (d : Diagnostic) : List Nat ×ₗ Int ×ₗ Int ×ₗ List Nat :=
  toLex (codePoints d.span.region.file, toLex (d.span.region.line,
    toLex (d.span.region.column, codePoints d.rule)))

variable {a b : Diagnostic}

/-- The order of sites is the lexicographic order of file, line, column and rule. -/
theorem isLE_compareSite_iff : (compareSite a b).isLE ↔ a.siteKey ≤ b.siteKey := by
  simp only [compareSite, compareLex, compareOn, siteKey, Ordering.isLE_then_iff_or,
    Prod.Lex.toLex_le_toLex, compare_eq_lt_iff, Std.compare_eq_lt, Std.compare_eq_iff_eq,
    isLE_compare_iff, codePoints_inj]

/-- Diagnostics tie exactly if file, line, column and rule are the same. -/
theorem compareSite_eq_iff_siteKey : compareSite a b = .eq ↔ a.siteKey = b.siteKey := by
  simp [compareSite, compareLex, compareOn, siteKey, Ordering.then_eq_eq, codePoints_inj]

end Diagnostic

/-! ## Paths -/

/-- Paths are compared name by name, so a directory comes before what is beneath it. -/
theorem comparePaths_eq_compareLex : comparePaths = List.compareLex compare := by
  funext as bs
  induction as generalizing bs with
  | nil => cases bs <;> rfl
  | cons a as ih =>
    cases bs with
    | nil => rfl
    | cons b bs => rw [comparePaths, ih, List.compareLex_cons_cons]

instance transCmp_comparePaths : Std.TransCmp comparePaths := by
  rw [comparePaths_eq_compareLex]
  infer_instance

instance lawfulEqCmp_comparePaths : Std.LawfulEqCmp comparePaths := by
  rw [comparePaths_eq_compareLex]
  infer_instance

/-- What paths lead to is compared by the paths. -/
instance transCmp_comparePaths_fst {α : Type} :
    Std.TransCmp fun a b : List String × α => comparePaths a.1 b.1 where
  eq_swap := Std.OrientedCmp.eq_swap
  isLE_trans := Std.TransCmp.isLE_trans

theorem comparePaths_cons_self (name : String) (as bs : List String) :
    comparePaths (name :: as) (name :: bs) = comparePaths as bs := by
  simp [comparePaths]

end TreeLint
