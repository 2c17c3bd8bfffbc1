import PixelPipeline.Command.Execution
import PixelPipeline.Pipeline.Text
import PixelPipeline.Text.Elapsed

namespace PixelPipeline

def FileError.ofSystem (e : IO.Error) : FileError :=
  match e with
  | .noFileOrDirectory .. => .notFound
  | .alreadyExists .. => .exists
  | .inappropriateType _ code _ => if code = 20 then .notDirectory else .isDirectory
  | e => .other e.toString

def attemptSystem {α : Type} (action : IO α) : IO (Except FileError α) := do
  match ← action.toBaseIO with
  | .ok a => return .ok a
  | .error e => return .error (.ofSystem e)

def systemFiles : Files IO where
  read path := attemptSystem (IO.FS.readBinFile path.text)
  write path bytes := attemptSystem (IO.FS.writeBinFile path.text bytes)
  createDirectory path := attemptSystem (IO.FS.createDir path.text)
  isDirectory path := do
    match ← (IO.FS.realPath path.text).toBaseIO with
    | .ok p => p.isDir
    | .error _ => return false

def lapSince (clock : IO.Ref Nat) : IO String := do
  let now ← IO.monoNanosNow
  let before ← clock.swap now
  return Text.elapsed (now - before)

end PixelPipeline

open PixelPipeline in
def main (words : List String) : IO UInt32 := do
  let clock ← IO.mkRef (← IO.monoNanosNow)
  let shell : Shell IO := ⟨systemFiles, fun text => IO.print text, lapSince clock⟩
  let ending ← Invocation.execute Pipeline.yaml shell Platform.bare words
  IO.eprint ending.report
  return ending.code
