import PixelPipeline.Device.Platform
import PixelPipeline.Files.Path

namespace PixelPipeline

structure BoilerplateRequest where
  pipeline : Path
  kernel : Option String
  environment : Option Environment
  outputDirectory : Option Path
  deriving DecidableEq

structure RunRequest where
  pipeline : Path
  environment : Option Environment
  device : DeviceChoice
  block : UInt32
  deriving DecidableEq

inductive Command where
  | probe
  | boilerplate (request : BoilerplateRequest)
  | run (request : RunRequest)
  deriving DecidableEq

inductive Invocation where
  | help
  | version
  | command (verbose : Bool) (command : Command)
  deriving DecidableEq

namespace Arguments

inductive OptionName where
  | verbose
  | help
  | version
  | kernel
  | environment
  | outputDirectory
  | device
  | block
  deriving DecidableEq, Repr

namespace OptionName

def long : OptionName → String
  | verbose => "verbose"
  | help => "help"
  | version => "version"
  | kernel => "kernel"
  | environment => "env"
  | outputDirectory => "output-dir"
  | device => "device"
  | block => "cuda-block"

def short? : OptionName → Option Char
  | verbose => some 'v'
  | help => some 'h'
  | version => some 'V'
  | kernel => some 'k'
  | environment => some 'e'
  | outputDirectory => some 'o'
  | device => some 'd'
  | block => none

def takesValue : OptionName → Bool
  | verbose | help | version => false
  | _ => true

end OptionName

inductive Item where
  | option (name : OptionName) (value : String)
  | operand (text : String)
  | unreadable
  deriving DecidableEq

/-- A dash alone is an operand. -/
def isOption (word : String) : Bool :=
  match word.toList with
  | '-' :: _ :: _ => true
  | _ => false

def readLong (known : List OptionName) (text : List Char) (next : List String) : Item × List String :=
  let (name, rest) := text.span (· ≠ '=')
  match known.find? (·.long.toList = name), rest with
  | none, _ => (.unreadable, next)
  | some o, '=' :: value => (if o.takesValue then .option o (String.ofList value) else .unreadable, next)
  | some o, _ =>
    if !o.takesValue then (.option o "", next)
    else
      match next with
      | value :: next => if isOption value then (.unreadable, next) else (.option o value, next)
      | [] => (.unreadable, [])

/-- A row of short options. One that takes a value takes the rest of the row, after an equals sign if there
is one, or else the next word. -/
def readShort (known : List OptionName) (next : List String) : List Char → List Item × List String
  | [] => ([], next)
  | c :: row =>
    match known.find? (·.short? = some c) with
    | none => ([.unreadable], next)
    | some o =>
      if !o.takesValue then
        let (items, next) := readShort known next row
        (.option o "" :: items, next)
      else
        match row, next with
        | '=' :: value, _ => ([.option o (String.ofList value)], next)
        | _ :: _, _ => ([.option o (String.ofList row)], next)
        | [], value :: next => if isOption value then ([.unreadable], next) else ([.option o value], next)
        | [], [] => ([.unreadable], [])

def readHead (known : List OptionName) (word : String) (next : List String) : List Item × List String :=
  match word.toList with
  | '-' :: '-' :: text =>
    let (item, next) := readLong known text next
    ([item], next)
  | '-' :: c :: row => readShort known next (c :: row)
  | _ => ([.operand word], next)

/-- All items of at most `fuel` words. After two dashes there are only operands. -/
def readItems (known : List OptionName) : (fuel : Nat) → List String → List Item
  | 0, _ => []
  | _ + 1, [] => []
  | fuel + 1, word :: next =>
    if word = "--" then next.map .operand
    else
      let (items, next) := readHead known word next
      items ++ readItems known fuel next

inductive Stop where
  | help
  | version
  | misuse
  deriving DecidableEq

structure Found where
  options : List (OptionName × String) := []
  operands : List String := []

namespace Found

def value? (f : Found) (o : OptionName) : Option String := f.options.lookup o

def isVerbose (f : Found) : Bool := (f.value? .verbose).isSome

end Found

def number? (bound : Nat) (text : String) : Option Nat :=
  let digits := match text.toList with
    | '+' :: rest => rest
    | rest => rest
  if digits.isEmpty || !digits.all Char.isDigit then none
  else
    let n := digits.foldl (fun n c => 10 * n + (c.toNat - '0'.toNat)) 0
    if n ≤ bound then some n else none

def largestOrdinal : Nat := 0xFFFFFFFFFFFFFFFF

def largestBlock : Nat := 0xFFFFFFFF

def isValid (o : OptionName) (value : String) : Bool :=
  match o with
  | .environment => (Environment.ofText value).isOk
  | .outputDirectory => !value.isEmpty
  | .device => (number? largestOrdinal value).isSome
  | .block => (number? largestBlock value).isSome
  | _ => true

/-- Takes items in order up to one that stops. An option is given once, and there is one operand at most. -/
def collect (maxOperands : Nat) (found : Found) : List Item → Except Stop Found
  | [] => .ok found
  | .unreadable :: _ => .error .misuse
  | .operand text :: rest =>
    if text.isEmpty || maxOperands ≤ found.operands.length then .error .misuse
    else collect maxOperands { found with operands := found.operands ++ [text] } rest
  | .option .help _ :: _ => .error .help
  | .option .version _ :: _ => .error .version
  | .option o value :: rest =>
    if (found.value? o).isSome || !isValid o value then .error .misuse
    else collect maxOperands { found with options := (o, value) :: found.options } rest

def environment? (f : Found) : Option Environment :=
  (f.value? .environment).bind fun text => (Environment.ofText text).toOption

def deviceChoice (f : Found) : DeviceChoice :=
  match (f.value? .device).bind (number? largestOrdinal) with
  | some n => .index n
  | none => .auto

def block (f : Found) : UInt32 :=
  match (f.value? .block).bind (number? largestBlock) with
  | some n => UInt32.ofNat n
  | none => 16

def read (known : List OptionName) (maxOperands : Nat) (words : List String) : Except Stop Found :=
  collect maxOperands {} (readItems known (words.length + 1) words)

def readCommand (name : String) (words : List String) : Except Stop (Bool × Command) := do
  match name with
  | "probe" | "p" =>
    let found ← read [.verbose, .help] 0 words
    return (found.isVerbose, .probe)
  | "boilerplate" | "bp" =>
    let found ← read [.verbose, .help, .kernel, .environment, .outputDirectory] 1 words
    let some pipeline := found.operands.head? | throw .misuse
    return (found.isVerbose, .boilerplate {
      pipeline := ⟨pipeline⟩, kernel := found.value? .kernel, environment := environment? found,
      outputDirectory := (found.value? .outputDirectory).map Path.mk })
  | "run" | "r" =>
    let found ← read [.verbose, .help, .environment, .device, .block] 1 words
    let some pipeline := found.operands.head? | throw .misuse
    return (found.isVerbose, .run {
      pipeline := ⟨pipeline⟩, environment := environment? found, device := deviceChoice found,
      block := block found })
  | "help" => if words.length ≤ 1 && words.all isCommand then throw .help else throw .misuse
  | _ => throw .misuse
where
  isCommand (word : String) : Bool :=
    ["probe", "p", "boilerplate", "bp", "run", "r", "help"].contains word

def readWords : List String → Except Stop (Bool × Command)
  | words => do
    let (front, rest) := words.span isOption
    let found ← read [.verbose, .help, .version] 0 front
    match rest with
    | [] => throw .misuse
    | name :: words =>
      if front.contains "--" then throw .misuse
      let (verbose, command) ← readCommand name words
      return (found.isVerbose || verbose, command)

end Arguments

def Invocation.ofWords? (words : List String) : Option Invocation :=
  match Arguments.readWords words with
  | .ok (verbose, c) => some (.command verbose c)
  | .error .help => some .help
  | .error .version => some .version
  | .error .misuse => none

end PixelPipeline
