import PixelPipeline.Buffer
import PixelPipeline.Parameter
import PixelPipeline.Text.Blank

namespace PixelPipeline

structure KernelId where
  owner : Owner
  index : Nat
  deriving DecidableEq, Repr

structure Binding where
  name : String
  buffer : BufferId
  deriving DecidableEq, Repr

/-- Inputs, outputs and parameters have their names in one namespace. The source is a complete unit or
the body of one. -/
structure Kernel where
  name : String
  owner : Owner
  source : String
  inputs : List Binding
  outputs : List Binding
  parameters : ParameterSet
  deriving DecidableEq

namespace Kernel

def empty (name : String) (owner : Owner) : Kernel := ⟨name, owner, "", [], [], ∅⟩

def bindings (k : Kernel) : List Binding := k.inputs ++ k.outputs

def isBound (k : Kernel) (name : String) : Bool := k.bindings.any (·.name == name)

def checkBinding (k : Kernel) (name : String) (buffer : BufferId) : Except Error Unit :=
  if buffer.owner ≠ k.owner then .error (.foreignBinding buffer.index name)
  else if k.isBound name || (k.parameters.find? name).isSome then .error (.duplicateBinding k.name name)
  else .ok ()

def bindInput (k : Kernel) (name : String) (buffer : BufferId) : Except Error Kernel := do
  k.checkBinding name buffer
  return { k with inputs := k.inputs ++ [⟨name, buffer⟩] }

def bindOutput (k : Kernel) (name : String) (buffer : BufferId) : Except Error Kernel := do
  k.checkBinding name buffer
  return { k with outputs := k.outputs ++ [⟨name, buffer⟩] }

def setParameter (k : Kernel) (p : Parameter) : Except Error Kernel := do
  if k.isBound p.name then throw (.duplicateBinding k.name p.name)
  let parameters ← k.parameters.set p
  return { k with parameters }

def setSource (k : Kernel) (source : String) : Kernel := { k with source }

def validate (k : Kernel) : Except Error Unit :=
  if Text.isBlankText k.source then .error (.incomplete k.name .blankSource)
  else if k.outputs.isEmpty then .error (.incomplete k.name .noOutput)
  else .ok ()

end Kernel

end PixelPipeline
