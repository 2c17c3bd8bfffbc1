import Mathlib.Data.List.Infix
import PixelPipeline.Proofs.Outcome

namespace PixelPipeline

open Outcome Text

theorem Text.contains_mono {part whole word : String} (inside : part.toList <:+: whole.toList)
    (known : contains part word) : contains whole word :=
  contains_iff.mpr ((contains_iff.mp known).trans inside)

namespace Environment

theorem contains_linkageMark (unit : String) : contains (withLinkage unit) linkageMark := by
  unfold withLinkage
  split
  · assumption
  · refine contains_iff.mpr (List.IsPrefix.isInfix ?_)
    rw [String.append_assoc, String.append_assoc, String.toList_append]
    exact List.prefix_append _ _

theorem withLinkage_withLinkage (unit : String) : withLinkage (withLinkage unit) = withLinkage unit :=
  if_pos (contains_linkageMark unit)

theorem link_link (e : Environment) (unit : String) : e.link (e.link unit) = e.link unit := by
  cases e with
  | cuda => exact withLinkage_withLinkage unit
  | openCL | glsl => rfl

theorem infix_link (e : Environment) (unit : String) : unit.toList <:+: (e.link unit).toList := by
  cases e with
  | openCL | glsl => exact List.infix_rfl
  | cuda =>
    rw [link, withLinkage]
    split
    · exact List.infix_rfl
    · rw [String.toList_append, String.toList_append]
      exact List.infix_append _ _ _

/-- A unit that is compiled as it stands. -/
structure IsFinal (e : Environment) (unit : String) : Prop where
  complete : e.isCompleteUnit unit
  linked : e.link unit = unit

theorem isFinal_link {e : Environment} {unit : String} (complete : e.isCompleteUnit unit) : e.IsFinal (e.link unit) :=
  ⟨contains_mono (e.infix_link unit) complete, e.link_link unit⟩

end Environment

theorem Dialect.infix_prologue {d : Dialect} {mark rest : String} (entry : d.entry = mark ++ rest) (s : Signature) :
    mark.toList <:+: (d.prologue s).toList := by
  simp only [prologue, entry, String.append_assoc]
  rw [String.toList_append]
  exact (List.prefix_append _ _).isInfix

namespace Scaffold

variable (s : Signature) (e : Environment)

theorem isCompleteUnit_prologue : e.isCompleteUnit (ofSignature s e).prologue := by
  refine contains_iff.mpr ?_
  cases e with
  | openCL =>
    have entry : Dialect.openCL.entry = Environment.openCL.entryMark ++ " void" := by decide
    exact Dialect.infix_prologue entry s
  | cuda =>
    have entry : Dialect.cuda.entry = Environment.cuda.entryMark ++ " void" := by decide
    exact Dialect.infix_prologue entry s
  | glsl =>
    have entry : "void main()\n\x7b\n" = Environment.glsl.entryMark ++ "()\n\x7b\n" := by decide
    change _ <:+: (Fragment.prologue s).toList
    unfold Fragment.prologue
    rw [entry, ← String.append_assoc, String.toList_append, String.toList_append]
    exact List.infix_append _ _ _

theorem isCompleteUnit_wrap (fragment : String) : e.isCompleteUnit ((ofSignature s e).wrap fragment) := by
  refine contains_mono (List.IsPrefix.isInfix ?_) (isCompleteUnit_prologue s e)
  rw [wrap, String.append_assoc, String.toList_append]
  exact List.prefix_append _ _

theorem isCompleteUnit_boilerplate : e.isCompleteUnit (ofSignature s e).boilerplate := by
  refine contains_mono (List.IsPrefix.isInfix ?_) (isCompleteUnit_prologue s e)
  rw [boilerplate, String.append_assoc, String.toList_append]
  exact List.prefix_append _ _

end Scaffold

namespace Kernel

open Environment

variable {k : Kernel} {r : Registry} {e : Environment} {unit : String}

theorem assemble_complete (complete : e.isCompleteUnit unit) :
    (k.setSource unit).assemble r e = .ok (e.link unit) :=
  if_pos complete

theorem isFinal_of_assemble (assembled : k.assemble r e = .ok unit) : e.IsFinal unit := by
  unfold assemble at assembled
  split at assembled
  · rename_i complete
    cases assembled
    exact isFinal_link complete
  · obtain ⟨scaffold, described, made⟩ := bind_eq_ok.mp assembled
    obtain ⟨s, -, same⟩ := bind_eq_ok.mp described
    cases same
    cases made
    exact isFinal_link (Scaffold.isCompleteUnit_wrap s e k.source)

/-- A unit is assembled from itself. The boilerplate of a kernel is a unit, which is compiled verbatim, or with C
linkage, which it is given once. -/
theorem assemble_assembled (k : Kernel) (r : Registry) (e : Environment) :
    (∀ unit, k.assemble r e = .ok unit → (k.setSource unit).assemble r e = .ok unit) ∧
    ∀ s, Scaffold.ofKernel k r e = .ok s →
      (k.setSource s.boilerplate).assemble r e =
        .ok (if e = .cuda then withLinkage s.boilerplate else s.boilerplate) ∧
      withLinkage (withLinkage s.boilerplate) = withLinkage s.boilerplate := by
  constructor
  · intro unit assembled
    obtain ⟨complete, linked⟩ := isFinal_of_assemble assembled
    rw [assemble_complete complete, linked]
  · intro scaffold described
    obtain ⟨s, -, same⟩ := bind_eq_ok.mp described
    cases same
    refine ⟨?_, withLinkage_withLinkage _⟩
    rw [assemble_complete (Scaffold.isCompleteUnit_boilerplate s e)]
    cases e <;> rfl

end Kernel

end PixelPipeline
