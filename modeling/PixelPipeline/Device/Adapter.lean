import PixelPipeline.Environment
import PixelPipeline.Graph
import PixelPipeline.SlotTable

/-!
The interface between a pipeline and one compute device. Every call blocks until the device is done, and
may fail after it has changed what the device remembers.
-/
namespace PixelPipeline

structure DeviceBuffer where
  key : SlotKey
  deriving DecidableEq, Repr

structure Program where
  key : SlotKey
  deriving DecidableEq, Repr

structure BufferDescription where
  name : String
  width : UInt32
  height : UInt32
  channels : UInt32
  deriving DecidableEq, Repr

namespace BufferDescription

def ofBuffer (b : Buffer) : BufferDescription := ⟨b.name, b.width, b.height, b.channels⟩

def size (d : BufferDescription) : UInt64 := Buffer.elementCount d.width d.height d.channels

def isEmpty (d : BufferDescription) : Bool := d.size == 0

def sizeBytes (d : BufferDescription) : UInt64 := d.size * Single.byteCount.toUInt64

end BufferDescription

structure Launch where
  kernel : String
  program : Program
  inputs : List (String × DeviceBuffer)
  outputs : List (String × DeviceBuffer)
  parameters : List Parameter
  width : UInt32
  height : UInt32
  deriving DecidableEq

/-- A call to a device with memory `σ`. The memory is kept when the call fails. -/
abbrev Call (σ α : Type) : Type := σ → Except Error α × σ

structure Adapter (σ : Type) where
  environment : Environment
  name : String
  /-- Reserves storage for the buffers after releasing all earlier storage. The handles are in the order
  of the descriptions. -/
  allocate : List BufferDescription → Call σ (List DeviceBuffer)
  /-- Compiles a unit whose entry point has the given name. -/
  compile : String → String → Call σ Program
  release : Program → σ → σ
  dispatch : Launch → Call σ Unit
  upload : DeviceBuffer → Array Single → Call σ Unit
  /-- Overwrites host data of a fixed length, in part or whole even if it fails. -/
  download : {n : Nat} → DeviceBuffer → Vector Single n → σ → Except Error Unit × Vector Single n × σ

end PixelPipeline
