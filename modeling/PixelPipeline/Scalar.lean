import PixelPipeline.Number.Single

namespace PixelPipeline

inductive ScalarType where
  | int
  | float
  deriving DecidableEq, Repr

def ScalarType.name : ScalarType → String
  | int => "int"
  | float => "float"

inductive Scalar where
  | int (value : Int32)
  | float (value : Single)
  deriving DecidableEq

def Scalar.type : Scalar → ScalarType
  | int _ => .int
  | float _ => .float

end PixelPipeline
