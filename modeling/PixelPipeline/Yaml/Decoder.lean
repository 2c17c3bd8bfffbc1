import PixelPipeline.Yaml.Node
import PixelPipeline.Yaml.Number

/-!
Values of expected types from YAML nodes. Aliases stand for the nodes that they name, and their total number
is limited.
-/
namespace PixelPipeline.Yaml

abbrev Decode (α : Type) : Type := ReaderT (List (Nat × Node)) (StateT Nat (Except Fault)) α

abbrev Decoder (α : Type) : Type := Node → Decode α

namespace Decoder

def follow : Decoder Node
  | .aliased anchor => do
    match (← read).lookup anchor with
    | some n =>
      modify (· + 1)
      return n
    | none => throw .unknownAnchor
  | n => return n

def text : Decoder String := fun n => do
  match ← follow n with
  | .scalar _ _ text => return text
  | _ => throw (.expected "a string")

def coreTag (name : String) : String := "tag:yaml.org,2002:" ++ name

/-- A scalar as a number: one that is plain, or literal with the tag of the number's type. -/
def number {α : Type} (tag : String) (expected : Fault) (value? : String → Option α) : Decoder α := fun n => do
  match ← follow n with
  | .scalar label style text =>
    if style = .plain || (style = .literal && label.tag = some (coreTag tag)) then
      match value? text with
      | some a => return a
      | none => throw expected
    else throw expected
  | _ => throw expected

def unsigned : Decoder UInt32 :=
  number "int" (.expected "u32") fun text =>
    (Number.unsigned? text).bind fun n => if n < 0x100000000 then some (UInt32.ofNat n) else none

def signed : Decoder Int32 :=
  number "int" (.expected "i32") fun text =>
    (Number.signed? text).bind fun n => if -0x80000000 ≤ n ∧ n < 0x80000000 then some (Int32.ofInt n) else none

def float : Decoder Single := number "float" (.expected "f32") Number.float?

def list {α : Type} (item : Decoder α) : Decoder (List α) := fun n => do
  match ← follow n with
  | .sequence _ items => items.mapM item
  | .scalar _ .plain "" => return []
  | _ => throw (.expected "a sequence")

def nullWords : List String := ["~", "null", "Null", "NULL"]

/-- A value that may be null. Without a tag, null is empty or one of the null words and plain. -/
def option {α : Type} (value : Decoder α) : Decoder (Option α) := fun n => do
  let n ← follow n
  match n with
  | .scalar ⟨_, none⟩ .plain text => if text.isEmpty || nullWords.contains text then return none
  | .scalar ⟨_, some tag⟩ .plain text =>
    if tag = coreTag "null" then
      if nullWords.contains text then return none else throw (.expected "null")
  | _ => pure ()
  return some (← value n)

def fields (names : List String) : Decoder (List (String × Node)) := fun n => do
  match ← follow n with
  | .mapping _ entries => go [] entries
  | _ => throw (.expected "a mapping")
where
  go (found : List (String × Node)) : List (Node × Node) → Decode (List (String × Node))
    | [] => return found
    | (key, value) :: rest => do
      let name ← text key
      if !names.contains name then throw (.unknownField name)
      if (found.lookup name).isSome then throw (.repeatedField name)
      go (found ++ [(name, value)]) rest

def required {α : Type} (fields : List (String × Node)) (name : String) (value : Decoder α) : Decode α := do
  match fields.lookup name with
  | some n => value n
  | none => throw (.missingField name)

def defaulted {α : Type} (fields : List (String × Node)) (name : String) (value : Decoder α) (default : α) :
    Decode α := do
  match fields.lookup name with
  | some n => value n
  | none => return default

/-- Follows at most a hundred aliases per node. -/
def run {α : Type} (value : Decoder α) (root : Node) : Except Fault α := do
  let (a, followed) ← ((value root).run (root.anchored [])).run 0
  if 100 * root.size < followed then throw .repetition
  return a

end Decoder

end PixelPipeline.Yaml
