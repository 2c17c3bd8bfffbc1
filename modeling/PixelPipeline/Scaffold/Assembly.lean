import PixelPipeline.Scaffold.Compute
import PixelPipeline.Scaffold.Fragment

namespace PixelPipeline

def Scaffold.ofSignature (s : Signature) : Environment → Scaffold
  | .openCL => Dialect.openCL.scaffold s
  | .cuda => Dialect.cuda.scaffold s
  | .glsl => Fragment.scaffold s

def Scaffold.ofKernel (k : Kernel) (r : Registry) (e : Environment) : Except Error Scaffold := do
  let s ← Signature.ofKernel k r
  return .ofSignature s e

namespace Environment

/-- The word by which a source declares an entry point of its own. -/
def entryMark : Environment → String
  | openCL => "__kernel"
  | cuda => "__global__"
  | glsl => "void main"

/-- A complete unit, as opposed to the body of one. -/
def isCompleteUnit (e : Environment) (source : String) : Bool := Text.contains source e.entryMark

def linkageMark : String := "extern \"C\""

/-- Gives a unit C linkage unless it speaks of it already. -/
def withLinkage (unit : String) : String :=
  if Text.contains unit linkageMark then unit else linkageMark ++ " \x7b\n" ++ unit ++ "\n\x7d\n"

/-- The last step before a unit is compiled. CUDA units have C linkage, so that the entry point keeps the
name of the kernel. -/
def link : Environment → String → String
  | cuda, unit => withLinkage unit
  | _, unit => unit

end Environment

/-- The unit compiled for a kernel: a complete source as it is, a fragment inside the scaffold. -/
def Kernel.assemble (k : Kernel) (r : Registry) (e : Environment) : Except Error String :=
  if e.isCompleteUnit k.source then .ok (e.link k.source)
  else do
    let s ← Scaffold.ofKernel k r e
    return e.link (s.wrap k.source)

def Graph.boilerplate (g : Graph) (id : KernelId) : Except Error String := do
  let k ← g.kernel id
  let s ← Scaffold.ofKernel k g.registry g.environment
  return s.boilerplate

end PixelPipeline
