import PixelPipeline.Command.Arguments
import PixelPipeline.Command.Shell
import PixelPipeline.Pipeline.Declaration
import PixelPipeline.Pipeline.Loading
import PixelPipeline.Processor.Lifecycle

/-!
Executing a pipeline: allocate, upload, build, run, download. The first failure ends it, and the device gives
up its programs in any case.
-/
namespace PixelPipeline.Run

variable {m : Type → Type} [Monad m] {σ : Type}

abbrev Running (σ : Type) (m : Type → Type) (α : Type) : Type := ExceptT Failure (StateT (Processor σ) m) α

def perform {α : Type} (activity : Option Activity) (operation : Operation σ α) : Running σ m α := fun p =>
  let (result, p) := operation p
  pure (result.mapError fun e => ⟨activity, .rejected e⟩, p)

def outside {α : Type} (action : m (Except Failure α)) : Running σ m α := fun p => do
  return (← action, p)

def declare (file : PipelineFile) (source : SourceText) : Running σ m Declared := fun p =>
  pure (p.declare file (some source))

def supply (shell : Shell m) (file : PipelineFile) (b : BufferDeclaration) (id : BufferId) :
    Running σ m Unit := do
  match b.initial with
  | none => return
  | some (.file path) =>
    let size := (← perform none (Processor.buffer id)).size
    let data ← outside (RawFloats.load shell.files (file.resolve path) size)
    perform none (Processor.modifyBuffer id (·.setData data))
    perform (some (.upload b.name)) (Processor.upload id)
  | some (.fill value) =>
    perform none (Processor.modifyBuffer id fun b => .ok (b.fill value))
    perform (some (.upload b.name)) (Processor.upload id)

def deliver (shell : Shell m) (verbose : Bool) (file : PipelineFile) (b : BufferDeclaration) (id : BufferId) :
    Running σ m Unit := do
  match b.output with
  | none => return
  | some path =>
    perform (some (.download b.name)) (Processor.download id)
    let buffer ← perform none (Processor.buffer id)
    outside (RawFloats.save shell.files (file.resolve path) buffer.data)
    if verbose then outside do
      shell.print s!"{b.name} -> {(file.resolve path).text}\n"
      return .ok ()

def lap (shell : Shell m) : Running σ m String := outside do return .ok (← shell.lap)

def steps (shell : Shell m) (verbose : Bool) (file : PipelineFile) (source : SourceText) :
    Running σ m Unit := do
  let declared ← declare file source
  perform (some .allocate) Processor.allocate
  let buffers := file.pipeline.buffers.zip declared.buffers
  buffers.forM fun (b, id) => supply shell file b id
  let _ ← lap shell
  perform (some .build) Processor.build
  let built ← lap shell
  perform (some .run) Processor.run
  let ran ← lap shell
  buffers.forM fun (b, id) => deliver shell verbose file b id
  if verbose then
    let name := (← get).adapter.name
    outside do
      shell.print s!"build {built}, run {ran} on {name}\n"
      return .ok ()

def onDevice (shell : Shell m) (verbose : Bool) (file : PipelineFile) (adapter : Adapter σ) (memory : σ) :
    m (Except Failure Unit × σ) := do
  let source ← file.readSources shell.files
  let (result, p) ← steps shell verbose file source (Processor.create adapter memory ⟨0⟩)
  return (result, p.drop)

def execute (format : Pipeline.Format) (shell : Shell m) (platform : Platform σ) (verbose : Bool)
    (request : RunRequest) :
    m (Except Failure Unit × Option σ) := do
  match ← PipelineFile.load format shell.files request.pipeline with
  | .error failure => return (.error failure, none)
  | .ok file =>
    match file.pipeline.environmentOr request.environment with
    | .error cause => return (.error (.ofCause cause), none)
    | .ok environment =>
      match platform.openDevice { environment, device := request.device, block := request.block } with
      | (.error e, memory) => return (.error (.during (.openDevice environment) (.rejected e)), some memory)
      | (.ok adapter, memory) =>
        let (result, memory) ← onDevice shell verbose file adapter memory
        return (result, some memory)

end PixelPipeline.Run
