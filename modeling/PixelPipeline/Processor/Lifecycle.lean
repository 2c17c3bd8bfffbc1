import PixelPipeline.Processor.Basic
import PixelPipeline.Scaffold.Assembly

namespace PixelPipeline.Processor

variable {σ : Type}

def descriptions (g : Graph) : List BufferDescription := g.registry.buffers.map .ofBuffer

/-- Reserves storage for every buffer. A failure leaves no storage and no program. -/
def allocate : Operation σ Unit := fun p =>
  let (result, memory) := p.adapter.allocate (descriptions p.graph) p.memory
  match result with
  | .ok storage =>
    let stage := if p.stage = .created then .allocated else p.stage
    (.ok (), { p with memory, storage, stage })
  | .error e => (.error e, { releasePrograms { p with memory, storage := [] } with stage := .created })

structure SourceUnit where
  id : KernelId
  kernel : Kernel
  source : String
  deriving DecidableEq

def checkBindings (p : Processor σ) : List Binding → Except Error Unit
  | [] => .ok ()
  | b :: rest => do
    let _ ← p.requireStorage b.buffer
    p.checkBindings rest

def prepare (p : Processor σ) (id : KernelId) (k : Kernel) : Except Error SourceUnit := do
  k.validate
  p.checkBindings k.bindings
  let source ← k.assemble p.graph.registry p.graph.environment
  return ⟨id, k, source⟩

def prepareAll (p : Processor σ) : List (KernelId × Kernel) → Except Error (List SourceUnit)
  | [] => .ok []
  | (id, k) :: rest => do
    let u ← p.prepare id k
    let rest ← p.prepareAll rest
    return u :: rest

def SourceUnit.compiled (u : SourceUnit) (program : Program) : CompiledKernel where
  kernel := u.id
  program
  inputs := u.kernel.inputs
  outputs := u.kernel.outputs
  parameters := u.kernel.parameters.signatureOrder.map (·.name)

/-- Compiles one unit after another. At the first failure the programs `done` so far are released. -/
def compileAll (adapter : Adapter σ) (done : List CompiledKernel) :
    List SourceUnit → Call σ (List CompiledKernel)
  | [], memory => (.ok done, memory)
  | u :: rest, memory =>
    let (result, memory) := adapter.compile u.kernel.name u.source memory
    match result with
    | .ok program => compileAll adapter (done ++ [u.compiled program]) rest memory
    | .error e => (.error e, releaseAll adapter done memory)

/-- Replaces the last build by a new one, or keeps it if any kernel fails. -/
def build : Operation σ Unit := fun p =>
  if p.stage = .created then (.error (.misuse .buildBeforeAllocate), p)
  else
    match p.prepareAll p.graph.kernelEntries with
    | .error e => (.error e, p)
    | .ok units =>
      let (result, memory) := compileAll p.adapter [] units p.memory
      match result with
      | .error e => (.error e, { p with memory })
      | .ok compiled => (.ok (), { releasePrograms { p with memory } with compiled, stage := .built })

def resolveBindings (g : Graph) (storage : List DeviceBuffer) :
    List Binding → Except Error (List (String × DeviceBuffer))
  | [] => .ok []
  | b :: rest => do
    let d ← deviceBuffer g storage b.buffer
    let rest ← resolveBindings g storage rest
    return (b.name, d) :: rest

def resolveParameters (k : Kernel) : List String → Except Error (List Parameter)
  | [] => .ok []
  | name :: rest => do
    let some p := k.parameters.find? name | throw (.notFound .parameter name)
    let rest ← resolveParameters k rest
    return p :: rest

/-- The launch of a compiled kernel: bindings and parameter names as compiled, values as they are now. -/
def launch (g : Graph) (storage : List DeviceBuffer) (c : CompiledKernel) : Except Error Launch := do
  let k ← g.kernel c.kernel
  let inputs ← resolveBindings g storage c.inputs
  let outputs ← resolveBindings g storage c.outputs
  let parameters ← resolveParameters k c.parameters
  let (width, height) := g.dimensions
  return ⟨k.name, c.program, inputs, outputs, parameters, width, height⟩

def dispatchAll (adapter : Adapter σ) (g : Graph) (storage : List DeviceBuffer) :
    List CompiledKernel → Call σ Unit
  | [], memory => (.ok (), memory)
  | c :: rest, memory =>
    match launch g storage c with
    | .error e => (.error e, memory)
    | .ok l =>
      let (result, memory) := adapter.dispatch l memory
      match result with
      | .error e => (.error e, memory)
      | .ok () => dispatchAll adapter g storage rest memory

def run : Operation σ Unit := fun p =>
  if p.stage = .created || p.stage = .allocated then (.error (.misuse .runBeforeBuild), p)
  else
    let (result, memory) := dispatchAll p.adapter p.graph p.storage p.compiled p.memory
    match result with
    | .error e => (.error e, { p with memory })
    | .ok () => (.ok (), { p with memory, stage := .ready })

def upload (id : BufferId) : Operation σ Unit := fun p =>
  match (do return (← p.requireStorage id, ← p.graph.buffer id)) with
  | .error e => (.error e, p)
  | .ok (d, b) =>
    let (result, memory) := p.adapter.upload d b.data p.memory
    (result, { p with memory })

def download (id : BufferId) : Operation σ Unit := fun p =>
  match (do return (← p.requireStorage id, ← p.graph.buffer id)) with
  | .error e => (.error e, p)
  | .ok (d, b) =>
    let (result, data, memory) := p.adapter.download d b.data.toVector p.memory
    let buffers := p.graph.registry.buffers.set id.index { b with data := data.toArray }
    (result, { p with memory, graph := { p.graph with registry := { p.graph.registry with buffers } } })

end PixelPipeline.Processor
