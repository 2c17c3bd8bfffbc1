import PixelPipeline.Pipeline.Loading
import PixelPipeline.Yaml.Decoder

namespace PixelPipeline.Pipeline

open Yaml

def pathDecoder : Decoder Path := fun n => return ⟨← Decoder.text n⟩

def bindingDecoder : Decoder BindingDeclaration := fun n => do
  let fields ← Decoder.fields ["binding", "buffer"] n
  let name ← Decoder.required fields "binding" Decoder.text
  let buffer ← Decoder.required fields "buffer" Decoder.text
  return { name, buffer }

def parameterDecoder : Decoder ParameterDeclaration := fun n => do
  let fields ← Decoder.fields ["name", "int", "float"] n
  let name ← Decoder.required fields "name" Decoder.text
  let int ← Decoder.defaulted fields "int" (Decoder.option Decoder.signed) none
  let float ← Decoder.defaulted fields "float" (Decoder.option Decoder.float) none
  return { name, int, float }

def bufferDecoder : Decoder BufferDeclaration := fun n => do
  let fields ← Decoder.fields ["name", "channels", "input", "fill", "output"] n
  let name ← Decoder.required fields "name" Decoder.text
  let channels ← Decoder.defaulted fields "channels" Decoder.unsigned 1
  let input ← Decoder.defaulted fields "input" (Decoder.option pathDecoder) none
  let fill ← Decoder.defaulted fields "fill" (Decoder.option Decoder.float) none
  let output ← Decoder.defaulted fields "output" (Decoder.option pathDecoder) none
  return { name, channels, input, fill, output }

def kernelDecoder : Decoder KernelDeclaration := fun n => do
  let fields ← Decoder.fields ["name", "source", "inputs", "outputs", "params"] n
  let name ← Decoder.required fields "name" Decoder.text
  let source ← Decoder.defaulted fields "source" (Decoder.option pathDecoder) none
  let inputs ← Decoder.defaulted fields "inputs" (Decoder.list bindingDecoder) []
  let outputs ← Decoder.defaulted fields "outputs" (Decoder.list bindingDecoder) []
  let params ← Decoder.defaulted fields "params" (Decoder.list parameterDecoder) []
  return { name, source, inputs, outputs, params }

def decoder : Decoder Pipeline := fun n => do
  let fields ← Decoder.fields ["environment", "width", "height", "buffers", "kernels"] n
  let environment ← Decoder.defaulted fields "environment" (Decoder.option Decoder.text) none
  let width ← Decoder.required fields "width" Decoder.unsigned
  let height ← Decoder.required fields "height" Decoder.unsigned
  let buffers ← Decoder.defaulted fields "buffers" (Decoder.list bufferDecoder) []
  let kernels ← Decoder.defaulted fields "kernels" (Decoder.list kernelDecoder) []
  return { environment, width, height, buffers, kernels }

def yaml : Format := fun text => (Node.ofText text >>= decoder.run).mapError (·.message)

end PixelPipeline.Pipeline
