import PixelPipeline.Device.Adapter

/-!
A pipeline bound to one device: what it remembers between operations.

```text
created ── allocate ──> allocated ── build ──> built ── run ──> ready
```

A repeated `allocate` keeps the stage, a repeated `build` goes back to `built`, and an `allocate` that
fails goes back to `created`.
-/
namespace PixelPipeline

inductive Stage where
  | created
  | allocated
  | built
  /-- A run has completed since the last build. -/
  | ready
  deriving DecidableEq, Repr

def Stage.label : Stage → String
  | created => "Created"
  | allocated => "Allocated"
  | built => "Built"
  | ready => "Ready"

structure CompiledKernel where
  kernel : KernelId
  program : Program
  inputs : List Binding
  outputs : List Binding
  parameters : List String
  deriving DecidableEq, Repr

structure Processor (σ : Type) where
  adapter : Adapter σ
  memory : σ
  graph : Graph
  stage : Stage
  /-- Device storage by buffer index, as of the last allocation. -/
  storage : List DeviceBuffer
  compiled : List CompiledKernel

/-- A processor operation. The processor is kept when the operation fails. -/
abbrev Operation (σ α : Type) : Type := Processor σ → Except Error α × Processor σ

namespace Processor

variable {σ : Type}

def create (adapter : Adapter σ) (memory : σ) (owner : Owner) : Processor σ :=
  ⟨adapter, memory, .empty adapter.environment owner, .created, [], []⟩

/-- An operation on the graph alone; a graph that refuses it stays as it is. -/
def onGraph {α : Type} (edit : Graph → Except Error (α × Graph)) : Operation σ α := fun p =>
  match edit p.graph with
  | .ok (a, graph) => (.ok a, { p with graph })
  | .error e => (.error e, p)

def setDimensions (width height : UInt32) : Operation σ Unit := fun p =>
  if p.stage = .created then p.onGraph fun g => (g.setDimensions width height).map ((), ·)
  else (.error (.misuse .dimensionsAfterAllocate), p)

def buffer (id : BufferId) : Operation σ Buffer := fun p => (p.graph.buffer id, p)

def modifyBuffer (id : BufferId) (edit : Buffer → Except Error Buffer) : Operation σ Unit :=
  onGraph fun g => (g.modifyBuffer id edit).map ((), ·)

def deviceBuffer (g : Graph) (storage : List DeviceBuffer) (id : BufferId) : Except Error DeviceBuffer := do
  let b ← g.buffer id
  match storage[id.index]? with
  | some d => .ok d
  | none => .error (.misuse (.noStorage b.name))

def requireStorage (p : Processor σ) (id : BufferId) : Except Error DeviceBuffer :=
  if p.stage = .created then .error (.misuse .transferBeforeAllocate)
  else deviceBuffer p.graph p.storage id

def releaseAll (adapter : Adapter σ) (compiled : List CompiledKernel) (memory : σ) : σ :=
  compiled.foldl (fun m c => adapter.release c.program m) memory

def releasePrograms (p : Processor σ) : Processor σ :=
  { p with memory := releaseAll p.adapter p.compiled p.memory, compiled := [] }

def drop (p : Processor σ) : σ := p.releasePrograms.memory

def summary (p : Processor σ) : String :=
  let (width, height) := p.graph.dimensions
  s!"ImageProcessor \x7b environment: {p.graph.environment.label}, device: {Text.quoted p.adapter.name}, state: {p.stage.label}, dimensions: ({width}, {height}), buffers: {p.graph.registry.size}, kernels: {p.compiled.length} \x7d"

end Processor

end PixelPipeline
