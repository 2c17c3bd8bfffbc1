import PixelPipeline.Parameter

namespace PixelPipeline

structure Operands where
  inputs : List (String × Array Single)
  outputs : List (String × Array Single)
  parameters : List Parameter

namespace Operands

def lookup (name : String) (bound : List (String × Array Single)) (i : Nat) : Single :=
  (((bound.lookup name).bind (·[i]?)).getD .zero)

def int (o : Operands) (name : String) : Int32 :=
  ((o.parameters.findSome? fun p => match p.value with
    | .int n => if p.name == name then some n else none
    | .float _ => none).getD 0)

def float (o : Operands) (name : String) : Single :=
  ((o.parameters.findSome? fun p => match p.value with
    | .int _ => none
    | .float x => if p.name == name then some x else none).getD .zero)

end Operands

abbrev Routine : Type := Operands → List (String × Array Single)

inductive Expression where
  | input (name : String)
  | output (name : String)
  | int (name : String)
  | float (name : String)
  | constant (value : Single)
  | place
  | add (a b : Expression)
  | sub (a b : Expression)
  | mul (a b : Expression)

namespace Expression

def eval (o : Operands) (i : Nat) : Expression → Single
  | input name => Operands.lookup name o.inputs i
  | output name => Operands.lookup name o.outputs i
  | int name => Single.ofInt (o.int name).toInt
  | float name => o.float name
  | constant value => value
  | place => Single.ofInt i
  | add a b => a.eval o i + b.eval o i
  | sub a b => a.eval o i - b.eval o i
  | mul a b => a.eval o i * b.eval o i

end Expression

structure Assignment where
  output : String
  value : Expression

namespace Assignment

/-- The outputs after one assignment; that of an unbound output does nothing. -/
def apply (a : Assignment) (o : Operands) : Operands :=
  { o with outputs := o.outputs.map fun (name, data) =>
      if name == a.output then (name, data.mapIdx fun i _ => a.value.eval o i) else (name, data) }

end Assignment

def Routine.ofAssignments (steps : List Assignment) : Routine := fun o =>
  (steps.foldl (fun o a => a.apply o) o).outputs

end PixelPipeline
