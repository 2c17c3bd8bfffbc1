import PixelPipeline.Proofs.Words
import PixelPipeline.Scaffold.Compute

/-!
The statements before the code of a generated CUDA kernel, read from its text and executed in words of 32 bits. Main
statement: what a thread has in its coordinates and its index where the code starts, if it comes there.
-/
namespace PixelPipeline

open Text

theorem Dialect.prologue_opens (d : Dialect) (s : Signature) :
    ∃ header, (d.prologue s).toList = header ++ '\n' :: '\x7b' :: '\n' :: d.preamble.toList := by
  refine ⟨(d.entry ++ "\n" ++ s.kernel ++ "(" ++ (separator s.kernel).intercalate (d.arguments s) ++ ")").toList, ?_⟩
  simp [prologue]

inductive Statement where
  /-- Declares an `int`, whose value is a sum of products of names. -/
  | declare (name : String) (value : List (List String))
  | guard (bounds : List (String × String))
  deriving DecidableEq, Repr

namespace Statement

def product? (words : List String) : Option (List String) :=
  (words.splitOn "*").mapM fun
    | [name] => some name
    | _ => none

def sum? (words : List String) : Option (List (List String)) := (words.splitOn "+").mapM product?

def bounds? (words : List String) : Option (List (String × String)) :=
  (words.splitOn "||").mapM fun
    | [name, ">=", limit] => some (name, limit)
    | _ => none

def ofLines? : List (List String) → Option (List Statement)
  | [] => some []
  | ("const" :: "int" :: name :: "=" :: value) :: rest => do
    let value ← sum? value
    let rest ← ofLines? rest
    return .declare name value :: rest
  | ("if" :: condition) :: ["return"] :: ["\x7d"] :: rest => do
    let bounds ← bounds? (condition.takeWhile (· ≠ "\x7b"))
    let rest ← ofLines? rest
    return .guard bounds :: rest
  | _ => none

def lineWords (line : List Char) : List String :=
  words (line.map fun c => if c = '(' ∨ c = ')' ∨ c = ';' then ' ' else c)

def inside (text : List Char) : List (List Char) :=
  ((text.splitOn '\n').reverse.takeWhile (· ≠ ['\x7b'])).reverse

def read (lines : List (List Char)) : Option (List Statement) :=
  ofLines? ((lines.map lineWords).filter fun line => line ≠ [] ∧ line.head? ≠ some "//")

def cuda : List Statement :=
  [.declare "x" [["blockIdx.x", "blockDim.x"], ["threadIdx.x"]],
    .declare "y" [["blockIdx.y", "blockDim.y"], ["threadIdx.y"]],
    .declare "idx" [["x"], ["width", "y"]],
    .guard [("x", "width"), ("y", "height")]]

theorem inside_after_opening (before : List Char) {after : List Char} (clean : ['\x7b'] ∉ after.splitOn '\n') :
    inside (before ++ '\n' :: '\x7b' :: '\n' :: after) = after.splitOn '\n' := by
  have split : (before ++ '\n' :: '\x7b' :: '\n' :: after).splitOn '\n' =
      before.splitOn '\n' ++ ['\x7b'] :: after.splitOn '\n' := by
    calc (before ++ '\n' :: (['\x7b'] ++ '\n' :: after)).splitOn '\n'
        = before.splitOn '\n' ++ (['\x7b'] ++ '\n' :: after).splitOn '\n' := splitOn_append '\n' before _
      _ = before.splitOn '\n' ++ ['\x7b'] :: after.splitOn '\n' := by rw [splitOn_append_mark (by decide)]
  have clean : ['\x7b'] ∉ (after.splitOn '\n').reverse := mt List.mem_reverse.mp clean
  rw [inside, split, List.reverse_append, List.reverse_cons, List.append_assoc, List.singleton_append,
    takeWhile_mark clean, List.reverse_reverse]

theorem read_preamble : ['\x7b'] ∉ Dialect.cuda.preamble.toList.splitOn '\n' ∧
    read (Dialect.cuda.preamble.toList.splitOn '\n') = some cuda := by
  delta Dialect.preamble Dialect.cuda
  simp only [String.toList_append, String.reduceToList]
  decide +kernel

theorem read_prologue (s : Signature) : read (inside (Dialect.cuda.prologue s).toList) = some cuda := by
  obtain ⟨header, opened⟩ := Dialect.prologue_opens .cuda s
  rw [opened, inside_after_opening header read_preamble.1, read_preamble.2]

end Statement

/-- A word of 32 bits as a signed or an unsigned number. -/
structure Word where
  bits : UInt32
  signed : Bool
  deriving DecidableEq, Repr

namespace Word

def int (bits : UInt32) : Word := ⟨bits, true⟩

def unsigned (bits : UInt32) : Word := ⟨bits, false⟩

/-- The sum of a signed and an unsigned number is unsigned. -/
def add (a b : Word) : Word := ⟨a.bits + b.bits, a.signed && b.signed⟩

def mul (a b : Word) : Word := ⟨a.bits * b.bits, a.signed && b.signed⟩

/-- Two signed numbers are compared as signed ones, others as unsigned ones. -/
def below (a b : Word) : Bool :=
  if a.signed && b.signed then a.bits.toInt32 < b.bits.toInt32 else a.bits < b.bits

end Word

abbrev Scope := List (String × Word)

def Scope.word? (scope : Scope) (name : String) : Option Word := List.lookup name scope

def Scope.int? (scope : Scope) (name : String) : Option Int := (scope.word? name).map (·.bits.toInt32.toInt)

/-- A thread leaves the kernel, or comes to its code with some names in scope. -/
inductive Passage where
  | left
  | code (scope : Scope)
  deriving DecidableEq, Repr

namespace Statement

def combine (operation : Word → Word → Word) (words : List Word) : Option Word :=
  match words with
  | [] => none
  | first :: rest => some (rest.foldl operation first)

def value? (scope : Scope) (value : List (List String)) : Option Word := do
  let summands ← value.mapM fun factors => do combine .mul (← factors.mapM scope.word?)
  combine .add summands

def inBounds? (scope : Scope) (bounds : List (String × String)) : Option Bool := do
  let each ← bounds.mapM fun (name, limit) => do return (← scope.word? name).below (← scope.word? limit)
  return each.all id

def execute (scope : Scope) : List Statement → Option Passage
  | [] => some (.code scope)
  | .declare name value :: rest => do
    let word ← value? scope value
    execute ((name, .int word.bits) :: scope) rest
  | .guard bounds :: rest => do
    let inside ← inBounds? scope bounds
    if inside then execute scope rest else return .left

section

variable {scope : Scope} {rest : List Statement}

theorem execute_declare {name : String} {value : List (List String)} {bits : UInt32} {signed : Bool}
    (known : value? scope value = some ⟨bits, signed⟩) :
    execute scope (.declare name value :: rest) = execute ((name, .int bits) :: scope) rest := by
  rw [execute, known]
  rfl

theorem execute_guard {bounds : List (String × String)} {inside : Bool}
    (known : inBounds? scope bounds = some inside) :
    execute scope (.guard bounds :: rest) = if inside then execute scope rest else some .left := by
  rw [execute, known]
  rfl

end

end Statement

/-- A thread by its place in a grid of square blocks. -/
structure Thread where
  blockX : UInt32
  blockY : UInt32
  threadX : UInt32
  threadY : UInt32
  deriving DecidableEq, Repr

namespace Thread

def scope (i : Thread) (edge width height : UInt32) : Scope :=
  [("blockIdx.x", .unsigned i.blockX), ("blockIdx.y", .unsigned i.blockY), ("blockDim.x", .unsigned edge),
    ("blockDim.y", .unsigned edge), ("threadIdx.x", .unsigned i.threadX), ("threadIdx.y", .unsigned i.threadY),
    ("width", .int width), ("height", .int height)]

def passage (i : Thread) (prologue : String) (edge width height : UInt32) : Option Passage := do
  Statement.execute (i.scope edge width height) (← Statement.read (Statement.inside prologue.toList))

/-- The thread comes to the code of the kernel, with some values of its coordinates and its index. -/
def Survives (i : Thread) (prologue : String) (edge width height : UInt32) (x y idx : Int) : Prop :=
  ∃ scope, i.passage prologue edge width height = some (.code scope) ∧
    scope.int? "x" = some x ∧ scope.int? "y" = some y ∧ scope.int? "idx" = some idx

theorem passage_cuda (i : Thread) (s : Signature) (edge width height : UInt32) :
    let x := i.blockX * edge + i.threadX
    let y := i.blockY * edge + i.threadY
    i.passage (Dialect.cuda.prologue s) edge width height =
      some (if x.toInt32 < width.toInt32 ∧ y.toInt32 < height.toInt32 then
        .code (("idx", .int (x + width * y)) :: ("y", .int y) :: ("x", .int x) :: i.scope edge width height)
      else .left) := by
  intro x y
  let first : Scope := ("x", .int x) :: i.scope edge width height
  let second : Scope := ("y", .int y) :: first
  let third : Scope := ("idx", .int (x + width * y)) :: second
  have column : Statement.value? (i.scope edge width height) [["blockIdx.x", "blockDim.x"], ["threadIdx.x"]] =
      some (.unsigned x) := rfl
  have row : Statement.value? first [["blockIdx.y", "blockDim.y"], ["threadIdx.y"]] = some (.unsigned y) := rfl
  have index : Statement.value? second [["x"], ["width", "y"]] = some (.int (x + width * y)) := rfl
  have guard : Statement.inBounds? third [("x", "width"), ("y", "height")] =
      some (x.toInt32 < width.toInt32 && (y.toInt32 < height.toInt32 && true)) := rfl
  rw [passage, Statement.read_prologue, Option.bind_eq_bind, Option.bind_some]
  calc Statement.execute (i.scope edge width height) Statement.cuda
      = Statement.execute first [.declare "y" [["blockIdx.y", "blockDim.y"], ["threadIdx.y"]],
          .declare "idx" [["x"], ["width", "y"]], .guard [("x", "width"), ("y", "height")]] :=
        Statement.execute_declare column
    _ = Statement.execute second [.declare "idx" [["x"], ["width", "y"]],
          .guard [("x", "width"), ("y", "height")]] := Statement.execute_declare row
    _ = Statement.execute third [.guard [("x", "width"), ("y", "height")]] := Statement.execute_declare index
    _ = if x.toInt32 < width.toInt32 && (y.toInt32 < height.toInt32 && true) then some (.code third)
        else some .left := Statement.execute_guard guard
    _ = some (if x.toInt32 < width.toInt32 ∧ y.toInt32 < height.toInt32 then .code third else .left) := by
        simp only [Bool.and_true, Bool.and_eq_true, decide_eq_true_eq, apply_ite some]

theorem survives_cuda {i : Thread} {s : Signature} {edge width height : UInt32} {x y idx : Int} :
    let column := i.blockX * edge + i.threadX
    let row := i.blockY * edge + i.threadY
    i.Survives (Dialect.cuda.prologue s) edge width height x y idx ↔
      (column.toInt32 < width.toInt32 ∧ row.toInt32 < height.toInt32) ∧ x = column.toInt32.toInt ∧
        y = row.toInt32.toInt ∧ idx = (column + width * row).toInt32.toInt := by
  intro column row
  rw [Survives, passage_cuda]
  by_cases inside : column.toInt32 < width.toInt32 ∧ row.toInt32 < height.toInt32
  · rw [if_pos inside]
    constructor
    · rintro ⟨scope, same, first, second, third⟩
      cases same
      exact ⟨inside, (Option.some.inj first).symm, (Option.some.inj second).symm, (Option.some.inj third).symm⟩
    · rintro ⟨-, rfl, rfl, rfl⟩
      exact ⟨_, rfl, rfl, rfl, rfl⟩
  · rw [if_neg inside]
    constructor
    · rintro ⟨scope, same, -⟩
      cases same
    · rintro ⟨met, -⟩
      exact absurd met inside

end Thread

end PixelPipeline
