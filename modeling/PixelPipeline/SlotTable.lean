/-!
Dense storage under keys that carry a generation. A slot that is emptied counts its generation up, so
that keys to the old value do not reach the next one.
-/
namespace PixelPipeline

structure SlotKey where
  index : UInt32
  generation : UInt32
  deriving DecidableEq, Repr

structure Slot (α : Type) where
  generation : UInt32
  value : Option α
  deriving DecidableEq

/-- Emptied, under the next generation. -/
def Slot.vacate {α : Type} (s : Slot α) : Slot α := ⟨s.generation + 1, none⟩

/-- The slots, and the indices of the empty ones with the next to be used at the head. -/
structure SlotTable (α : Type) where
  slots : Array (Slot α)
  free : List UInt32
  deriving DecidableEq

namespace SlotTable

variable {α : Type}

def empty : SlotTable α := ⟨#[], []⟩

/-- Puts a value in the slot emptied last, or in a new one. -/
def insert (t : SlotTable α) (value : α) : SlotKey × SlotTable α :=
  match t.free with
  | index :: free =>
    let generation := (t.slots[index.toNat]?.map (·.generation)).getD 0
    (⟨index, generation⟩, ⟨t.slots.modify index.toNat ({ · with value := some value }), free⟩)
  | [] => (⟨UInt32.ofNat t.slots.size, 0⟩, ⟨t.slots.push ⟨0, some value⟩, []⟩)

def get? (t : SlotTable α) (key : SlotKey) : Option α :=
  match t.slots[key.index.toNat]? with
  | some slot => if slot.generation = key.generation then slot.value else none
  | none => none

def modify (t : SlotTable α) (key : SlotKey) (change : α → α) : SlotTable α :=
  match t.get? key with
  | some value => { t with slots := t.slots.modify key.index.toNat ({ · with value := some (change value) }) }
  | none => t

def remove (t : SlotTable α) (key : SlotKey) : Option α × SlotTable α :=
  match t.get? key with
  | some value => (some value, ⟨t.slots.modify key.index.toNat Slot.vacate, key.index :: t.free⟩)
  | none => (none, t)

def occupied (t : SlotTable α) : List UInt32 :=
  (List.range t.slots.size).filterMap fun i =>
    (t.slots[i]?.bind (·.value)).map fun _ => UInt32.ofNat i

def drain (t : SlotTable α) : List α × SlotTable α :=
  (t.slots.toList.filterMap (·.value),
    ⟨t.slots.map fun s => if s.value.isSome then s.vacate else s, t.occupied.reverse ++ t.free⟩)

def size (t : SlotTable α) : Nat := t.slots.toList.countP (·.value.isSome)

def isEmpty (t : SlotTable α) : Bool := t.size == 0

end SlotTable

end PixelPipeline
