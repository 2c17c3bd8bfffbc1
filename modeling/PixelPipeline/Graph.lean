import PixelPipeline.Environment
import PixelPipeline.Kernel
import PixelPipeline.Registry

namespace PixelPipeline

structure Graph where
  environment : Environment
  registry : Registry
  kernels : List Kernel
  deriving DecidableEq

namespace Graph

def empty (environment : Environment) (owner : Owner) : Graph := ⟨environment, .empty owner, []⟩

def owner (g : Graph) : Owner := g.registry.owner

def dimensions (g : Graph) : UInt32 × UInt32 := g.registry.dimensions

/-- Kernels receive the dimensions as signed 32-bit integers. -/
def largestDimension : UInt32 := 0x7FFFFFFF

def setDimensions (g : Graph) (width height : UInt32) : Except Error Graph := do
  if width = 0 || height = 0 || largestDimension < width || largestDimension < height then
    throw (.invalidDimensions width height)
  let registry ← g.registry.setDimensions width height
  return { g with registry }

def createBuffer (g : Graph) (name : String) (channels : UInt32) : Except Error (BufferId × Graph) := do
  let (id, registry) ← g.registry.create name channels
  return (id, { g with registry })

def buffer (g : Graph) (id : BufferId) : Except Error Buffer := g.registry.get id

def modifyBuffer (g : Graph) (id : BufferId) (edit : Buffer → Except Error Buffer) : Except Error Graph := do
  let registry ← g.registry.modify id edit
  return { g with registry }

def bufferNamed (g : Graph) (name : String) : Except Error BufferId := g.registry.idOf name

def createKernel (g : Graph) (name : String) : Except Error (KernelId × Graph) :=
  if g.kernels.any (·.name == name) then .error (.duplicateName .kernel name)
  else .ok (⟨g.owner, g.kernels.length⟩, { g with kernels := g.kernels ++ [.empty name g.owner] })

def kernel (g : Graph) (id : KernelId) : Except Error Kernel :=
  if id.owner = g.owner then
    match g.kernels[id.index]? with
    | some k => .ok k
    | none => .error (.foreign .kernel id.index)
  else .error (.foreign .kernel id.index)

def modifyKernel (g : Graph) (id : KernelId) (edit : Kernel → Except Error Kernel) : Except Error Graph := do
  let k ← g.kernel id
  let k ← edit k
  return { g with kernels := g.kernels.set id.index k }

def kernelNamed (g : Graph) (name : String) : Except Error KernelId :=
  match g.kernels.findIdx? (·.name == name) with
  | some index => .ok ⟨g.owner, index⟩
  | none => .error (.notFound .kernel name)

/-- Handles with their kernels, in declaration order, which is the order of execution. -/
def kernelEntries (g : Graph) : List (KernelId × Kernel) :=
  g.kernels.mapIdx fun index k => (⟨g.owner, index⟩, k)

end Graph

end PixelPipeline
