import PixelPipeline.Proofs.Execution
import PixelPipeline.Proofs.Publication

namespace PixelPipeline

open Outcome

variable {W : Type}

namespace PipelineFile

variable {f : PipelineFile} {files : Files Id} {e : Environment} {storage : List DeviceBuffer}
  {programs : List Program} {trace : List Access} {done : Bool}

/-- A kernel with the unit that is compiled for it: its source file as it is if that is complete, or else between
the prologue and the closing brace of its scaffold. -/
def IsUnitOf (f : PipelineFile) (files : Files Id) (e : Environment) (k : KernelDeclaration)
    (unit : String × String) : Prop :=
  unit.1 = k.name ∧ ∃ path text, k.source = some path ∧ files.readText (f.resolve path) = .ok text ∧
    unit.2 = e.link (if e.isCompleteUnit text then text
      else (f.scaffold e k).prologue ++ Scaffold.closeLine text ++ "\x7d")

structure Compiled (f : PipelineFile) (files : Files Id) (e : Environment) (units : List (String × String))
    (done : Prop) : Prop where
  each : List.Forall₂ (f.IsUnitOf files e) (f.pipeline.kernels.take units.length) units
  whole : done → units.length = f.pipeline.kernels.length

end PipelineFile

variable {σ : Type}

end PixelPipeline
