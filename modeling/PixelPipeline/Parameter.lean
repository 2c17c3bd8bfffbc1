import PixelPipeline.Error

namespace PixelPipeline

structure Parameter where
  name : String
  value : Scalar
  deriving DecidableEq

structure ParameterSet where
  entries : List Parameter
  deriving DecidableEq

namespace ParameterSet

def empty : ParameterSet := ⟨[]⟩

instance : EmptyCollection ParameterSet := ⟨empty⟩

def find? (s : ParameterSet) (name : String) : Option Parameter :=
  s.entries.find? (·.name == name)

def replaceFirst (p : Parameter) : List Parameter → List Parameter
  | [] => []
  | q :: rest => if q.name == p.name then p :: rest else q :: replaceFirst p rest

/-- Adds a parameter at the end or replaces the value of an existing one, which keeps its place.
A parameter keeps its type for good. -/
def set (s : ParameterSet) (p : Parameter) : Except Error ParameterSet :=
  match s.find? p.name with
  | none => .ok ⟨s.entries ++ [p]⟩
  | some existing =>
    if existing.value.type = p.value.type then .ok ⟨replaceFirst p s.entries⟩
    else .error (.typeMismatch p.name existing.value.type p.value.type)

def ints (s : ParameterSet) : List (String × Int32) :=
  s.entries.filterMap fun p =>
    match p.value with
    | .int n => some (p.name, n)
    | .float _ => none

def floats (s : ParameterSet) : List (String × Single) :=
  s.entries.filterMap fun p =>
    match p.value with
    | .int _ => none
    | .float x => some (p.name, x)

/-- The order of arguments: all integers, then all floats. -/
def signatureOrder (s : ParameterSet) : List Parameter :=
  s.entries.filter (·.value.type = .int) ++ s.entries.filter (·.value.type = .float)

def size (s : ParameterSet) : Nat := s.entries.length

def isEmpty (s : ParameterSet) : Bool := s.entries.isEmpty

end ParameterSet

end PixelPipeline
