import PixelPipeline.Error
import PixelPipeline.Text.Quoted

namespace PixelPipeline

/-- The identity of a graph. Copies of a graph share it. -/
structure Owner where
  number : Nat
  deriving DecidableEq, Repr

structure BufferId where
  owner : Owner
  index : Nat
  deriving DecidableEq, Repr

/-- A named buffer and its contents on the host. The channels of a pixel stand side by side and the
pixels of a row one after another. -/
structure Buffer where
  name : String
  width : UInt32
  height : UInt32
  channels : UInt32
  data : Array Single
  deriving DecidableEq

/-- The most bytes that one allocation can have: the largest signed 64-bit integer. -/
def largestBlock : Nat := 0x7FFFFFFFFFFFFFFF

namespace Buffer

def elementCount (width height channels : UInt32) : UInt64 :=
  width.toUInt64 * height.toUInt64 * channels.toUInt64

def zeroed (name : String) (width height channels : UInt32) : Buffer :=
  ⟨name, width, height, channels, Array.replicate (elementCount width height channels).toNat .zero⟩

def size (b : Buffer) : Nat := b.data.size

def isEmpty (b : Buffer) : Bool := b.data.isEmpty

def sizeBytes (b : Buffer) : UInt64 := b.size.toUInt64 * Single.byteCount.toUInt64

def bytes (b : Buffer) : List UInt8 := b.data.toList.flatMap Single.bytes

def setData (b : Buffer) (data : Array Single) : Except Error Buffer :=
  if data.size = b.size then .ok { b with data } else .error (.sizeMismatch b.size data.size)

def fill (b : Buffer) (value : Single) : Buffer :=
  { b with data := b.data.map fun _ => value }

/-- The element at a pixel and channel. The place is computed in 32 bits. -/
def get? (b : Buffer) (x y c : UInt32) : Option Single :=
  if b.width ≤ x || b.height ≤ y || b.channels ≤ c then none
  else b.data[((x + b.width * y) * b.channels + c).toNat]?

def summary (b : Buffer) : String :=
  s!"Buffer \x7b name: {Text.quoted b.name}, width: {b.width}, height: {b.height}, channels: {b.channels}, size_bytes: {b.sizeBytes} \x7d"

end Buffer

end PixelPipeline
