import PixelPipeline.Scalar

namespace PixelPipeline

inductive Subject where
  | buffer
  | kernel
  | environment
  | parameter
  | other (word : String)
  deriving DecidableEq

def Subject.word : Subject → String
  | buffer => "buffer"
  | kernel => "kernel"
  | environment => "environment"
  | parameter => "parameter"
  | other word => word

inductive Misuse where
  | dimensionsAfterAllocate
  | dimensionsFixed
  | dimensionsUnset
  | buildBeforeAllocate
  | runBeforeBuild
  | transferBeforeAllocate
  | noStorage (buffer : String)
  | other (text : String)
  deriving DecidableEq

def Misuse.message : Misuse → String
  | dimensionsAfterAllocate => "set_dimensions() after allocate()"
  | dimensionsFixed => "dimensions are fixed once a buffer has been created"
  | dimensionsUnset => "set_dimensions() must be called before creating buffers"
  | buildBeforeAllocate => "build() before allocate()"
  | runBeforeBuild => "run() before build()"
  | transferBeforeAllocate => "buffer transfer before allocate()"
  | noStorage buffer => s!"buffer '{buffer}' has no device storage, call allocate() after creating it"
  | other text => text

inductive Gap where
  | blankSource
  | noOutput
  | other (text : String)
  deriving DecidableEq

def Gap.message : Gap → String
  | blankSource => "source is empty"
  | noOutput => "no output buffer bound"
  | other text => text

inductive Error where
  | duplicateName (subject : Subject) (name : String)
  | duplicateBinding (kernel binding : String)
  | notFound (subject : Subject) (name : String)
  /-- A handle that another graph issued, or one out of range. -/
  | foreign (subject : Subject) (index : Nat)
  | foreignBinding (index : Nat) (binding : String)
  | misuse (fault : Misuse)
  | incomplete (kernel : String) (gap : Gap)
  | typeMismatch (parameter : String) (existing requested : ScalarType)
  | device (text : String)
  | compile (kernel log : String)
  | unavailable (text : String)
  | invalidDimensions (width height : UInt32)
  | invalidChannels (channels : UInt32)
  | sizeMismatch (expected actual : Nat)
  /-- More bytes than one allocation can have. The program does not return this: it panics. -/
  | overflow
  deriving DecidableEq

inductive ErrorKind where
  | duplicateName
  | notFound
  | state
  | incomplete
  | device
  | compile
  | invalidArgument
  | panic
  deriving DecidableEq, Repr

namespace Error

def kind : Error → ErrorKind
  | duplicateName .. | duplicateBinding .. => .duplicateName
  | notFound .. | foreign .. | foreignBinding .. => .notFound
  | misuse _ => .state
  | incomplete .. => .incomplete
  | device _ | unavailable _ => .device
  | compile .. => .compile
  | typeMismatch .. | invalidDimensions .. | invalidChannels _ | sizeMismatch .. => .invalidArgument
  | overflow => .panic

def message : Error → String
  | duplicateName subject name => s!"{subject.word} '{name}' already exists"
  | duplicateBinding kernel binding => s!"binding '{binding}' is already used on kernel '{kernel}'"
  | notFound subject name => s!"{subject.word} '{name}' not found"
  | foreign subject index => s!"{subject.word} '#{index} (not owned by this processor)' not found"
  | foreignBinding index binding =>
    s!"buffer '#{index} bound to '{binding}' (not owned by this processor)' not found"
  | misuse fault => s!"invalid state: {fault.message}"
  | incomplete kernel gap => s!"kernel '{kernel}' is incomplete: {gap.message}"
  | typeMismatch parameter existing requested =>
    s!"parameter '{parameter}' is {existing.name}, cannot replace it with {requested.name}"
  | device text => s!"device error: {text}"
  | compile kernel log => s!"failed to compile kernel '{kernel}':\n{log}"
  | unavailable text => s!"backend not available: {text}"
  | invalidDimensions width height => s!"invalid dimensions: {width}x{height}"
  | invalidChannels channels => s!"invalid channel count {channels}, expected 1 to 4"
  | sizeMismatch expected actual => s!"buffer size mismatch: expected {expected}, got {actual}"
  | overflow => "capacity overflow"

end Error

def diagnostic {α : Type} : Except Error α → String
  | .ok _ => ""
  | .error e => e.message

end PixelPipeline
