import PixelPipeline.Pipeline.Basic
import PixelPipeline.Processor.Basic

/-!
Declaring the buffers and kernels of a pipeline on a graph, in the order of the file. What was declared
before a failure stays.
-/
namespace PixelPipeline

abbrev Declaring (α : Type) : Type := ExceptT Failure (StateM Graph) α

abbrev SourceText : Type := Path → Except FileError String

structure Declared where
  buffers : List BufferId
  kernels : List KernelId
  deriving DecidableEq

namespace Declaring

def step {α : Type} (change : Graph → Except Error (α × Graph)) : Declaring α := fun g =>
  match change g with
  | .ok (a, g) => (.ok a, g)
  | .error e => (.error (.ofError e), g)

def onKernel (id : KernelId) (change : Kernel → Except Error Kernel) : Declaring Unit :=
  step fun g => (g.modifyKernel id change).map ((), ·)

end Declaring

namespace PipelineFile

/-- The handle of the buffer that the file declares first under a name. -/
def bufferNamed (f : PipelineFile) (ids : List BufferId) (name : String) : Declaring BufferId :=
  match (f.pipeline.buffers.findIdx? (·.name == name)).bind (ids[·]?) with
  | some id => return id
  | none => throw (.ofCause (.unknownBuffer name))

def sourceOf (f : PipelineFile) (source : Option SourceText) (k : KernelDeclaration) :
    Declaring (Option String) :=
  match source, k.source with
  | some source, some path =>
    match source (f.resolve path) with
    | .ok text => return some text
    | .error e => throw (.during (.readSource k.name (f.resolve path)) (.file e))
  | _, _ => return none

def setParameter (id : KernelId) (d : ParameterDeclaration) : Declaring Unit :=
  match d.parameter with
  | .ok p => Declaring.onKernel id (·.setParameter p)
  | .error cause => throw (.ofCause cause)

def declareKernel (f : PipelineFile) (ids : List BufferId) (source : Option SourceText)
    (k : KernelDeclaration) : Declaring KernelId := do
  let id ← Declaring.step (·.createKernel k.name)
  let text ← f.sourceOf source k
  k.inputs.forM fun b => do
    let buffer ← f.bufferNamed ids b.buffer
    Declaring.onKernel id (·.bindInput b.name buffer)
  k.outputs.forM fun b => do
    let buffer ← f.bufferNamed ids b.buffer
    Declaring.onKernel id (·.bindOutput b.name buffer)
  k.params.forM (setParameter id)
  match text with
  | some text => Declaring.onKernel id fun k => .ok (k.setSource text)
  | none => pure ()
  return id

def declareContents (f : PipelineFile) (source : Option SourceText) : Declaring Declared := do
  let buffers ← f.pipeline.buffers.mapM fun b => Declaring.step (·.createBuffer b.name b.channels)
  let kernels ← f.pipeline.kernels.mapM (f.declareKernel buffers source)
  return { buffers, kernels }

def declare (f : PipelineFile) (source : Option SourceText) : Declaring Declared := do
  Declaring.step fun g => (g.setDimensions f.pipeline.width f.pipeline.height).map ((), ·)
  f.declareContents source

end PipelineFile

/-- A declaration on the graph of a processor, whose dimensions may be fixed by its stage. -/
def Processor.declare {σ : Type} (f : PipelineFile) (source : Option SourceText) (p : Processor σ) :
    Except Failure Declared × Processor σ :=
  match p.setDimensions f.pipeline.width f.pipeline.height with
  | (.error e, p) => (.error (.ofError e), p)
  | (.ok (), p) =>
    let (result, graph) := f.declareContents source p.graph
    (result, { p with graph })

end PixelPipeline
