import PixelPipeline.Error

namespace PixelPipeline

inductive Environment where
  | openCL
  | cuda
  | glsl
  deriving DecidableEq, Repr

namespace Environment

def all : List Environment := [openCL, cuda, glsl]

def name : Environment → String
  | openCL => "opencl"
  | cuda => "cuda"
  | glsl => "glsl"

def title : Environment → String
  | openCL => "OpenCL"
  | cuda => "CUDA"
  | glsl => "GLSL"

def label : Environment → String
  | openCL => "OpenCL"
  | cuda => "Cuda"
  | glsl => "Glsl"

def description : Environment → String
  | openCL => "OpenCL C kernels (ocl)"
  | cuda => "NVIDIA GPU via NVRTC (cudarc)"
  | glsl => "GLSL 1.20 fragment shaders (headless EGL)"

def sourceExtension : Environment → String
  | openCL => "cl"
  | cuda => "cu"
  | glsl => "glsl"

def ofText (text : String) : Except Error Environment :=
  match String.ofList (text.toList.map Char.toLower) with
  | "opencl" | "cl" => .ok openCL
  | "cuda" => .ok cuda
  | "glsl" | "gl" => .ok glsl
  | _ => .error (.notFound .environment text)

end Environment

end PixelPipeline
