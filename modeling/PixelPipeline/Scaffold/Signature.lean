import PixelPipeline.Graph

namespace PixelPipeline

structure Argument where
  name : String
  channels : UInt32
  deriving DecidableEq, Repr

structure Signature where
  kernel : String
  inputs : List Argument
  outputs : List Argument
  ints : List String
  floats : List String
  deriving DecidableEq, Repr

namespace Signature

def resolve (r : Registry) : List Binding → Except Error (List Argument)
  | [] => .ok []
  | b :: rest => do
    let buffer ← r.get b.buffer
    let rest ← resolve r rest
    return ⟨b.name, buffer.channels⟩ :: rest

def ofKernel (k : Kernel) (r : Registry) : Except Error Signature := do
  let inputs ← resolve r k.inputs
  let outputs ← resolve r k.outputs
  return ⟨k.name, inputs, outputs, k.parameters.ints.map (·.1), k.parameters.floats.map (·.1)⟩

end Signature

end PixelPipeline
