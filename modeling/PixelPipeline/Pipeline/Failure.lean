import PixelPipeline.Environment
import PixelPipeline.Files.Basic

namespace PixelPipeline

inductive Cause where
  | malformed (fault : String)
  | rejected (e : Error)
  | file (e : FileError)
  | inputAndFill (buffer : String)
  | parameterChoice (parameter : String)
  | environmentMissing
  | unknownBuffer (name : String)
  | wrongSize (path : Path) (floats bytes : Nat)
  /-- A panic. -/
  | overflow
  deriving DecidableEq

def Cause.message : Cause → String
  | malformed fault => fault
  | rejected e => e.message
  | file e => e.message
  | inputAndFill buffer => s!"buffer '{buffer}' has both `input` and `fill`"
  | parameterChoice parameter => s!"parameter '{parameter}' needs exactly one of `int` or `float`"
  | environmentMissing => "no environment in pipeline file, pass --env"
  | unknownBuffer name => s!"unknown buffer '{name}'"
  | wrongSize path floats bytes =>
    s!"{path.text}: expected {floats * Single.byteCount} bytes ({floats} floats), got {bytes}"
  | overflow => Error.overflow.message

inductive Activity where
  | readPipeline (path : Path)
  | checkPipeline (path : Path)
  | readSource (kernel : String) (path : Path)
  | read (path : Path)
  | write (path : Path)
  | createDirectory (path : Path)
  | openDevice (environment : Environment)
  | allocate
  | upload (buffer : String)
  | build
  | run
  | download (buffer : String)
  deriving DecidableEq

def Activity.message : Activity → String
  | readPipeline path => s!"Failed to read pipeline: {path.text}"
  | checkPipeline path => s!"Invalid pipeline: {path.text}"
  | readSource kernel path => s!"Failed to read source of '{kernel}': {path.text}"
  | read path => s!"Failed to read: {path.text}"
  | write path => s!"Failed to write: {path.text}"
  | createDirectory path => s!"Failed to create: {path.text}"
  | openDevice environment => s!"Failed to create {environment.name} processor"
  | allocate => "Allocate failed"
  | upload buffer => s!"Upload of '{buffer}' failed"
  | build => "Build failed"
  | run => "Run failed"
  | download buffer => s!"Download of '{buffer}' failed"

structure Failure where
  activity : Option Activity
  cause : Cause
  deriving DecidableEq

namespace Failure

def ofCause (cause : Cause) : Failure := ⟨none, cause⟩

def ofError : Error → Failure
  | .overflow => ⟨none, .overflow⟩
  | e => ⟨none, .rejected e⟩

def during (activity : Activity) (cause : Cause) : Failure := ⟨some activity, cause⟩

def message (f : Failure) : String :=
  match f.activity with
  | some activity => s!"{activity.message}: {f.cause.message}"
  | none => f.cause.message

def indented (text : String) : String :=
  "    " ++ String.ofList (text.toList.flatMap fun c => if c = '\n' then "\n    ".toList else [c])

/-- The exit code: that of a panic, or else that of an error. -/
def code (f : Failure) : UInt32 := if f.cause = .overflow then 101 else 1

theorem code_ne_zero (f : Failure) : f.code ≠ 0 := by
  unfold code
  split <;> decide

def report (f : Failure) : String :=
  if f.cause = .overflow then s!"{f.cause.message}\n"
  else
    match f.activity with
    | some activity => s!"Error: {activity.message}\n\nCaused by:\n{indented f.cause.message}\n"
    | none => s!"Error: {f.cause.message}\n"

end Failure

end PixelPipeline
