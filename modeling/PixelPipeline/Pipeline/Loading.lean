import PixelPipeline.Files.RawFloats
import PixelPipeline.Pipeline.Basic

namespace PixelPipeline

variable {m : Type → Type} [Monad m]

abbrev Pipeline.Format : Type := String → Except String Pipeline

def Pipeline.parse (format : Format) (text : String) : Except Cause Pipeline :=
  match format text with
  | .error fault => .error (.malformed fault)
  | .ok p => p.check.map fun () => p

namespace PipelineFile

def load (format : Pipeline.Format) (files : Files m) (path : Path) : m (Except Failure PipelineFile) := do
  match ← files.readText path with
  | .error e => return .error (.during (.readPipeline path) (.file e))
  | .ok text =>
    match Pipeline.parse format text with
    | .error cause => return .error (.during (.checkPipeline path) cause)
    | .ok pipeline => return .ok ⟨pipeline, path.parent?.getD ⟨""⟩⟩

def readSources (f : PipelineFile) (files : Files m) : m (Path → Except FileError String) := do
  let paths := f.pipeline.kernels.filterMap fun k => k.source.map f.resolve
  let texts ← paths.mapM fun path => return (path, ← files.readText path)
  return fun path => (texts.lookup path).getD (.error .notFound)

end PipelineFile

namespace RawFloats

def load (files : Files m) (path : Path) (count : Nat) : m (Except Failure (Array Single)) := do
  match ← files.read path with
  | .error e => return .error (.during (.read path) (.file e))
  | .ok bytes =>
    match read? bytes count with
    | some data => return .ok data
    | none => return .error (.ofCause (.wrongSize path count bytes.size))

def save (files : Files m) (path : Path) (data : Array Single) : m (Except Failure Unit) := do
  match ← files.write path (encode data) with
  | .error e => return .error (.during (.write path) (.file e))
  | .ok () => return .ok ()

end RawFloats

end PixelPipeline
