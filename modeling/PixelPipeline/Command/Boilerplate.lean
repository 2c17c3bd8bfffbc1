import PixelPipeline.Command.Arguments
import PixelPipeline.Command.Shell
import PixelPipeline.Pipeline.Declaration
import PixelPipeline.Pipeline.Loading
import PixelPipeline.Scaffold.Assembly

namespace PixelPipeline.Boilerplate

variable {m : Type → Type} [Monad m]

structure Sheet where
  kernel : String
  code : String
  deriving DecidableEq

def sheet (g : Graph) (id : KernelId) : Except Error Sheet := do
  return ⟨(← g.kernel id).name, ← g.boilerplate id⟩

def selected (g : Graph) (declared : Declared) (kernel : Option String) : Except Error (List KernelId) :=
  match kernel with
  | some name => do return [← g.kernelNamed name]
  | none => .ok declared.kernels

def select (f : PipelineFile) (e : Environment) (kernel : Option String) :
    Except Failure (Graph × List KernelId) :=
  match f.declare none (.empty e ⟨0⟩) with
  | (.error failure, _) => .error failure
  | (.ok declared, g) =>
    match selected g declared kernel with
    | .error error => .error (.ofError error)
    | .ok ids => .ok (g, ids)

def Sheet.path (s : Sheet) (e : Environment) (directory : Path) : Path :=
  directory.join ⟨s!"{s.kernel}.{e.sourceExtension}"⟩

def Sheet.text (s : Sheet) (e : Environment) (several first : Bool) : String :=
  let gap := if several && !first then "\n" else ""
  let heading := if several then s!"// {s.kernel} ({e.name})\n" else ""
  gap ++ heading ++ s.code ++ "\n"

def writeSheet (shell : Shell m) (verbose : Bool) (e : Environment) (directory : Path) (s : Sheet) :
    ExceptT Failure m Unit := do
  let path := s.path e directory
  match ← shell.files.writeText path (s.code ++ "\n") with
  | .error error => throw (.during (.write path) (.file error))
  | .ok () => if verbose then shell.print s!"{path.text}\n"

def emit (shell : Shell m) (verbose : Bool) (e : Environment) (directory : Option Path) (several first : Bool)
    (s : Sheet) : ExceptT Failure m Unit :=
  match directory with
  | some directory => writeSheet shell verbose e directory s
  | none => shell.print (s.text e several first)

def emitAll (shell : Shell m) (verbose : Bool) (g : Graph) (directory : Option Path) (several : Bool) :
    (first : Bool) → List KernelId → ExceptT Failure m Unit
  | _, [] => return
  | first, id :: rest => do
    match sheet g id with
    | .error error => throw (.ofError error)
    | .ok s => emit shell verbose g.environment directory several first s
    emitAll shell verbose g directory several false rest

def prepareDirectory (shell : Shell m) : Option Path → ExceptT Failure m Unit
  | none => return
  | some directory => do
    match ← shell.files.createDirectories directory with
    | .error error => throw (.during (.createDirectory directory) (.file error))
    | .ok () => return

def execute (format : Pipeline.Format) (shell : Shell m) (verbose : Bool) (request : BoilerplateRequest) :
    ExceptT Failure m Unit := do
  let file ← ExceptT.mk (PipelineFile.load format shell.files request.pipeline)
  let e ← ExceptT.mk (pure ((file.pipeline.environmentOr request.environment).mapError Failure.ofCause))
  let (g, ids) ← ExceptT.mk (pure (select file e request.kernel))
  prepareDirectory shell request.outputDirectory
  emitAll shell verbose g request.outputDirectory (1 < ids.length) true ids

end PixelPipeline.Boilerplate
