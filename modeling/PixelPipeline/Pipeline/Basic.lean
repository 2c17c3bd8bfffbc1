import PixelPipeline.Parameter
import PixelPipeline.Pipeline.Failure

namespace PixelPipeline

inductive Initial where
  | file (path : Path)
  | fill (value : Single)
  deriving DecidableEq

structure BufferDeclaration where
  name : String
  channels : UInt32
  input : Option Path
  fill : Option Single
  output : Option Path
  deriving DecidableEq

structure BindingDeclaration where
  name : String
  buffer : String
  deriving DecidableEq

structure ParameterDeclaration where
  name : String
  int : Option Int32
  float : Option Single
  deriving DecidableEq

structure KernelDeclaration where
  name : String
  source : Option Path
  inputs : List BindingDeclaration
  outputs : List BindingDeclaration
  params : List ParameterDeclaration
  deriving DecidableEq

structure Pipeline where
  environment : Option String
  width : UInt32
  height : UInt32
  buffers : List BufferDeclaration
  kernels : List KernelDeclaration
  deriving DecidableEq

def BufferDeclaration.initial (b : BufferDeclaration) : Option Initial :=
  match b.input, b.fill with
  | some path, _ => some (.file path)
  | none, some value => some (.fill value)
  | none, none => none

def ParameterDeclaration.parameter (d : ParameterDeclaration) : Except Cause Parameter :=
  match d.int, d.float with
  | some n, none => .ok ⟨d.name, .int n⟩
  | none, some x => .ok ⟨d.name, .float x⟩
  | _, _ => .error (.parameterChoice d.name)

def KernelDeclaration.parameters (k : KernelDeclaration) : List Parameter :=
  k.params.filterMap (·.parameter.toOption)

def BufferDeclaration.check (b : BufferDeclaration) : Except Cause Unit :=
  if b.input.isSome && b.fill.isSome then .error (.inputAndFill b.name) else .ok ()

def KernelDeclaration.check (k : KernelDeclaration) : Except Cause Unit :=
  k.params.forM fun d => d.parameter.map fun _ => ()

/-- Contradictions in a description; one in a buffer is reported before any in a kernel. -/
def Pipeline.check (p : Pipeline) : Except Cause Unit := do
  p.buffers.forM (·.check)
  p.kernels.forM (·.check)

def Pipeline.environmentOr (p : Pipeline) (given : Option Environment) : Except Cause Environment :=
  match given, p.environment with
  | some e, _ => .ok e
  | none, some name => (Environment.ofText name).mapError .rejected
  | none, none => .error .environmentMissing

structure PipelineFile where
  pipeline : Pipeline
  directory : Path
  deriving DecidableEq

def PipelineFile.resolve (f : PipelineFile) (path : Path) : Path := f.directory.join path

end PixelPipeline
