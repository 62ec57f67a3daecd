import TreeLint.Proofs.ReadingsAlike
import TreeLint.Proofs.Unwinding

/-!
# Regions lie in their own file or in that of the dump

The file of a dump is handed down to all regions that do not state one. To see that nothing else
depends on it, and that no region gets its file from elsewhere, a document is read in two files. The
two readings fail together, with the same fault, or give the same nodes up to the files of spans;
and every span, down to the last call site, is read from a part of the document that states its
file, for both readings, or that states none, and then lies in the file of each reading.

## Main definitions

* `Document.Contains`: the parts of a document
* `Span.withoutFiles`: a span with all files left out
* `Dump.SameSource`, `Dump.Located`: spans that two readings give for parts of a document

## Main results

* `Dump.related_readSpanFields`, `Dump.related_readSpan_arr`: what a part that is read twice has in
  common as a span
* `Dump.Reading.alike_read`: a document that is read twice is read alike
* `Dump.items_alike_up_to_files`: what two files make of one document
-/

namespace TreeLint

/-! ## Where spans come from -/

/-- The second document is a part of the first, at any depth. -/
inductive Document.Contains (d : Document) : Document → Prop
  | self : Contains d d
  | element {ds : List Document} {x : Document} (h : Contains d (.arr ds)) (hx : x ∈ ds) :
      Contains d x
  | field {fs : List (String × Document)} {f : String × Document} (h : Contains d (.obj fs))
      (hf : f ∈ fs) : Contains d f.2

/-- The span with all files left out, its own and those of its call sites. -/
def Span.withoutFiles : Span → Span
  | .written r => .written { r with file := "" }
  | .expanded r name site => .expanded { r with file := "" } name site.withoutFiles
  | .lowered r kind => .lowered { r with file := "" } kind
  | .loweredAt r kind site => .loweredAt { r with file := "" } kind site.withoutFiles

namespace Dump

/-- The file that the document of a span states. -/
def statedFile? : Document → Option String
  | .obj fs => (Document.field? fs "file").map Document.text
  | _ => none

/-- Two spans are what one part of a document is read as in two files. Both lie in the file that
the part states, or each lies in the file in which it is read. -/
def SameSource (d : Document) (f g : String) (s s' : Span) : Prop :=
  ∃ x, d.Contains x ∧ (read f x).span = .ok s ∧ (read g x).span = .ok s' ∧
    s.region.file = (statedFile? x).getD f ∧ s'.region.file = (statedFile? x).getD g

/-- Two spans differ in their files only, and they and all of their call sites come from parts of a
document that is read in two files. -/
structure Located (d : Document) (f g : String) (s s' : Span) : Prop where
  same : s.withoutFiles = s'.withoutFiles
  sources : List.Forall₂ (SameSource d f g) s.chain s'.chain

variable {d x : Document} {f g file : String} {s s' : Span}

/-- What two readings of one part have in common as spans, before it is known that they are the
results: they differ in files only, the files are those of the part, and the call sites are
located. -/
structure Stated (d x : Document) (f g : String) (s s' : Span) : Prop where
  same : s.withoutFiles = s'.withoutFiles
  file : s.region.file = (statedFile? x).getD f
  file' : s'.region.file = (statedFile? x).getD g
  callSites : List.Forall₂ (SameSource d f g) s.chain.tail s'.chain.tail

/-- What two readings of one part have in common makes their spans located, once they are known to
be the results. -/
theorem Stated.located (h : Stated d x f g s s') (hx : d.Contains x)
    (hs : (read f x).span = .ok s) (hs' : (read g x).span = .ok s') : Located d f g s s' := by
  refine ⟨h.same, ?_⟩
  rw [s.chain_eq, s'.chain_eq]
  refine .cons ⟨x, hx, hs, hs', h.file, h.file'⟩ ?_
  have hsites := h.callSites
  rw [s.chain_eq, s'.chain_eq] at hsites
  exact hsites

/-- Spans in alike origins are located if their regions are stated. -/
theorem stated_ofOrigin {o o' : Origin Span} (ho : Origin.Alike (Located d f g) o o')
    {file file' : String} {line column endLine endColumn : Int}
    (hfile : file = (statedFile? x).getD f) (hfile' : file' = (statedFile? x).getD g) :
    Stated d x f g (.ofOrigin ⟨file, line, column, endLine, endColumn⟩ o)
      (.ofOrigin ⟨file', line, column, endLine, endColumn⟩ o') := by
  cases ho with
  | direct => exact ⟨rfl, hfile, hfile', .nil⟩
  | expansion hsite hname =>
    subst hname
    refine ⟨?_, hfile, hfile', hsite.sources⟩
    simp only [Span.ofOrigin, Span.withoutFiles, hsite.same]
  | desugared hsite =>
    cases hsite with
    | none => exact ⟨rfl, hfile, hfile', .nil⟩
    | some hsite =>
      refine ⟨?_, hfile, hfile', hsite.sources⟩
      simp only [Span.ofOrigin, Span.withoutFiles, hsite.same]

/-- The file of a span is the one that it states, or else that of the dump. -/
theorem text_valueOr_file (fs : List (String × Document)) :
    ((readFields file fs).valueOr "file" (.str file)).text =
      (statedFile? (.obj fs)).getD file := by
  rw [valueOr_readFields, statedFile?, Document.field?]
  cases fs.lookup "file" <;> rfl

theorem related_readSpanFields {fs : List (String × Document)}
    (h : Fields.Alike (Located d f g) (readFields f fs) (readFields g fs)) :
    Related (Stated d (.obj fs) f g) (readSpanFields f (readFields f fs))
      (readSpanFields g (readFields g fs)) := by
  have horigin := h.lookup "origin"
  unfold readSpanFields
  simp only [text_valueOr_file, h.valueOr "end_line", h.valueOr "end_column"]
  refine (h.require "line").bind fun line line' hline => ?_
  rw [hline.document]
  refine (Related.of_eq rfl).bind fun lineNumber _ hnumber => ?_
  subst hnumber
  refine (h.require "column").bind fun column column' hcolumn => ?_
  rw [hcolumn.document]
  refine (Related.of_eq rfl).bind fun columnNumber _ hnumber => ?_
  subst hnumber
  refine (Related.of_eq rfl).bind fun endLine _ hend => ?_
  subst hend
  refine (Related.of_eq rfl).bind fun endColumn _ hend => ?_
  subst hend
  generalize (readFields f fs).lookup "origin" = part, (readFields g fs).lookup "origin" = part'
    at horigin ⊢
  cases horigin with
  | none => exact stated_ofOrigin .direct rfl rfl
  | some hpart => exact hpart.reading.origin.bind fun _ _ ho => stated_ofOrigin ho rfl rfl

/-- Four positions lie in the file in which they are read. -/
theorem related_readSpan_arr (ds : List Document) :
    Related (Stated d (.arr ds) f g) (readSpan f (.arr ds) []) (readSpan g (.arr ds) []) := by
  unfold readSpan
  split
  · refine (Related.of_eq rfl).bind fun line _ hline => ?_
    subst hline
    refine (Related.of_eq rfl).bind fun column _ hcolumn => ?_
    subst hcolumn
    refine (Related.of_eq rfl).bind fun endLine _ hend => ?_
    subst hend
    refine (Related.of_eq rfl).bind fun endColumn _ hend => ?_
    subst hend
    exact ⟨rfl, rfl, rfl, .nil⟩
  · next hds => cases hds
  · rfl

mutual

/-- **A document that is read twice is read alike.** Its spans are located in any document that it
is a part of. -/
theorem Reading.alike_read (d : Document) (f g : String) :
    ∀ x, d.Contains x → (read f x).Alike (Located d f g) (read g x)
  | .arr ds, hx => by
    have hspan : Related (Located d f g) (read f (.arr ds)).span (read g (.arr ds)).span := by
      refine Related.imp ?_ fun s s' hs hs' h => Stated.located h hx hs hs'
      rw [read, read]
      exact related_readSpan_arr ds
    have hparts := alike_readAll d f g ds fun x => hx.element
    rw [read, read] at hspan ⊢
    exact Reading.alike_ofParts hspan hparts .nil
  | .obj fs, hx => by
    have hfields := alike_readFields d f g fs fun x => hx.field
    have hspan : Related (Located d f g) (read f (.obj fs)).span (read g (.obj fs)).span := by
      refine Related.imp ?_ fun s s' hs hs' h => Stated.located h hx hs hs'
      rw [read, read]
      exact related_readSpanFields hfields
    rw [read, read] at hspan ⊢
    exact Reading.alike_ofParts hspan .nil hfields
  | .null, _ => by
    rw [read, read]
    exact Reading.alike_ofParts rfl .nil .nil
  | .bool _, _ => by
    rw [read, read]
    exact Reading.alike_ofParts rfl .nil .nil
  | .int _, _ => by
    rw [read, read]
    exact Reading.alike_ofParts rfl .nil .nil
  | .real _, _ => by
    rw [read, read]
    exact Reading.alike_ofParts rfl .nil .nil
  | .str _, _ => by
    rw [read, read]
    exact Reading.alike_ofParts rfl .nil .nil

theorem alike_readAll (d : Document) (f g : String) :
    ∀ ds : List Document, (∀ x ∈ ds, d.Contains x) →
      List.Forall₂ (Part.Alike (Located d f g)) (readAll f ds) (readAll g ds)
  | [], _ => by
    rw [readAll, readAll]
    exact .nil
  | x :: ds, h => by
    rw [List.forall_mem_cons] at h
    rw [readAll, readAll]
    exact .cons ⟨rfl, Reading.alike_read d f g x h.1⟩ (alike_readAll d f g ds h.2)

theorem alike_readFields (d : Document) (f g : String) :
    ∀ fs : List (String × Document), (∀ field ∈ fs, d.Contains field.2) →
      Fields.Alike (Located d f g) (readFields f fs) (readFields g fs)
  | [], _ => by
    rw [readFields, readFields]
    exact .nil
  | (key, x) :: fs, h => by
    rw [List.forall_mem_cons] at h
    rw [readFields, readFields]
    exact .cons ⟨rfl, rfl, Reading.alike_read d f g x h.1⟩ (alike_readFields d f g fs h.2)

end

/-- **Files are inherited uniformly.** Read as the items of a dump in two files, a document fails
with one fault in both, or it gives items in both that are equal up to located spans: these differ
in nothing but files, and each of them, down to the last call site, comes from a part of the
document that states its file, for both readings, or that leaves it to each of them. -/
theorem items_alike_up_to_files (d : Document) (f g : String) :
    (∃ fault, (read f d).items = .error fault ∧ (read g d).items = .error fault) ∨
      ∃ items items', (read f d).items = .ok items ∧ (read g d).items = .ok items' ∧
        List.Forall₂ (fun i i' => Node.Alike (Located d f g) (.item i) (.item i')) items items' :=
  (Reading.alike_read d f g d .self).items.cases

end Dump

end TreeLint
