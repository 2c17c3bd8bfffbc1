import PixelPipeline.Scaffold.Basic
import PixelPipeline.Scaffold.Signature

namespace PixelPipeline

structure Dialect where
  entry : String
  inputQualifier : String
  outputQualifier : String
  column : String
  row : String
  zeroOpening : String
  zeroMiddle : String
  deriving DecidableEq, Repr

namespace Dialect

def openCL : Dialect where
  entry := "__kernel void"
  inputQualifier := "__global const "
  outputQualifier := "__global "
  column := "const int x = get_global_id(0);"
  row := "const int y = get_global_id(1);"
  zeroOpening := "(float"
  zeroMiddle := ")("

def cuda : Dialect where
  entry := "__global__ void"
  inputQualifier := "const "
  outputQualifier := ""
  column := "const int x = blockIdx.x * blockDim.x + threadIdx.x;"
  row := "const int y = blockIdx.y * blockDim.y + threadIdx.y;"
  zeroOpening := "make_float"
  zeroMiddle := "("

def floatType (channels : UInt32) : String :=
  if channels = 1 then "float" else "float" ++ toString channels

def zero (d : Dialect) (channels : UInt32) : String :=
  if channels = 1 then "0"
  else
    d.zeroOpening ++ toString channels ++ d.zeroMiddle ++
      ", ".intercalate (List.replicate channels.toNat "0") ++ ")"

def arguments (d : Dialect) (s : Signature) : List String :=
  s.inputs.map (fun a => d.inputQualifier ++ floatType a.channels ++ " * " ++ a.name) ++
    s.outputs.map (fun a => d.outputQualifier ++ floatType a.channels ++ " * " ++ a.name) ++
    s.ints.map ("const int " ++ ·) ++
    s.floats.map ("const float " ++ ·) ++
    ["const int width", "const int height"]

/-- Arguments stand below each other. The kernel name is measured in bytes of UTF-8. -/
def separator (kernel : String) : String :=
  ",\n" ++ String.ofList (List.replicate (kernel.utf8ByteSize + 1) ' ')

def preamble (d : Dialect) : String :=
  "    " ++ d.column ++ "\n" ++
  "    " ++ d.row ++ "\n\n" ++
  "    // array index\n" ++
  "    const int idx = x + width * y;\n\n" ++
  "    // inside image bounds check\n" ++
  "    if (x >= width || y >= height) \x7b\n" ++
  "        return;\n" ++
  "    \x7d\n\n" ++
  "    // kernel code\n"

def prologue (d : Dialect) (s : Signature) : String :=
  d.entry ++ "\n" ++ s.kernel ++ "(" ++ (separator s.kernel).intercalate (d.arguments s) ++ ")\n\x7b\n" ++ d.preamble

def zeroBody (d : Dialect) (s : Signature) : String :=
  String.join (s.outputs.map fun a => "    " ++ a.name ++ "[idx] = " ++ d.zero a.channels ++ ";\n")

def scaffold (d : Dialect) (s : Signature) : Scaffold := ⟨d.prologue s, d.zeroBody s, "\x7d"⟩

end Dialect

end PixelPipeline
