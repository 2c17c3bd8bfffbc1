import PixelPipeline.Scaffold.Basic
import PixelPipeline.Scaffold.Signature

/-!
Scaffolds of fragment shaders: inputs are samplers, outputs are attachments in binding order, `x` holds
the texture coordinate and `dx` one texel.
-/
namespace PixelPipeline.Fragment

def uniform (type name : String) : String := "uniform " ++ type ++ " " ++ name ++ ";\n"

def prologue (s : Signature) : String :=
  "#version 120\n" ++
  String.join (s.inputs.map fun a => uniform "sampler2D" a.name) ++
  String.join (s.ints.map (uniform "int")) ++
  String.join (s.floats.map (uniform "float")) ++
  "varying vec2 x; // texture coordinates\n" ++
  "uniform float dx; // delta\n" ++
  "\n" ++
  "void main()\n\x7b\n"

def zeroOutput (position : Nat) (a : Argument) : String :=
  "    // gl_FragData[" ++ toString position ++ "] is buffer " ++ a.name ++ "\n" ++
  "    gl_FragData[" ++ toString position ++ "] = vec4(0,0,0,1);\n"

def zeroBody (s : Signature) : String := "\n".intercalate (s.outputs.mapIdx zeroOutput)

def scaffold (s : Signature) : Scaffold := ⟨prologue s, zeroBody s, "\x7d"⟩

end PixelPipeline.Fragment
