import PixelPipeline.Command.Boilerplate
import PixelPipeline.Command.Run

namespace PixelPipeline

def versionText : String := "gpuip 0.1.0\n"

def usageText : String :=
  "Usage: gpuip [OPTIONS] <COMMAND>\n\n" ++
  "Commands:\n" ++
  "  probe, p                    List compute environments and whether they can be created\n" ++
  "  boilerplate, bp <PIPELINE>  Print generated kernel boilerplate for a pipeline\n" ++
  "      -k, --kernel <KERNEL>          Only this kernel\n" ++
  "      -e, --env <ENV>                Override the pipeline's environment (opencl, cuda, glsl)\n" ++
  "      -o, --output-dir <DIR>         Write one file per kernel into this directory\n" ++
  "  run, r <PIPELINE>           Execute a pipeline\n" ++
  "      -e, --env <ENV>                Override the pipeline's environment (opencl, cuda, glsl)\n" ++
  "      -d, --device <DEVICE>          Device ordinal\n" ++
  "      --cuda-block <BLOCK>           CUDA block edge [default: 16]\n\n" ++
  "Options:\n" ++
  "  -v, --verbose  Verbose output\n" ++
  "  -h, --help     Print help\n" ++
  "  -V, --version  Print version\n"

/-- How a command ended: its exit code, the report of a failure and what a device remembers. -/
structure Ending (σ : Type) where
  code : UInt32
  report : String
  device : Option σ

namespace Ending

def success {σ : Type} : Ending σ := ⟨0, "", none⟩

def ofResult {σ : Type} (result : Except Failure Unit) (device : Option σ) : Ending σ :=
  match result with
  | .ok () => ⟨0, "", device⟩
  | .error failure => ⟨failure.code, failure.report, device⟩

end Ending

namespace Command

variable {m : Type → Type} [Monad m] {σ : Type}

def execute (format : Pipeline.Format) (shell : Shell m) (platform : Platform σ) (verbose : Bool) :
    Command → m (Ending σ)
  | probe => do
    shell.print platform.report
    if verbose then shell.print platform.deviceReport
    return .success
  | boilerplate request => do
    return .ofResult (← Boilerplate.execute format shell verbose request) none
  | run request => do
    let (result, device) ← Run.execute format shell platform verbose request
    return .ofResult result device

end Command

def Invocation.execute {m : Type → Type} [Monad m] {σ : Type} (format : Pipeline.Format) (shell : Shell m)
    (platform : Platform σ) (words : List String) : m (Ending σ) := do
  match Invocation.ofWords? words with
  | none => return ⟨2, "error: invalid command line\n\n" ++ usageText, none⟩
  | some .help =>
    shell.print usageText
    return .success
  | some .version =>
    shell.print versionText
    return .success
  | some (.command verbose c) => c.execute format shell platform verbose

end PixelPipeline
