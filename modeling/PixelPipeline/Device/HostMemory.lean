import PixelPipeline.Device.Platform
import PixelPipeline.Device.Routine
import PixelPipeline.Text.Search

/-!
A device in host memory: its programs are routines known by name, and every call is noted. It can be told
to fail.
-/
namespace PixelPipeline

inductive HostEvent where
  | opened (request : DeviceRequest)
  | allocate (released : Nat) (buffers : List BufferDescription) (reserved : Option (List SlotKey × Nat))
  | compile (kernel source : String) (program : Option SlotKey)
  | release (program : SlotKey) (found : Bool) (live : Nat)
  | dispatch (launch : Launch) (refused : Bool)
  | upload (buffer : SlotKey) (length : Nat)
  | download (buffer : SlotKey) (length : Nat)

structure HostMemory where
  buffers : SlotTable (Array Single) := .empty
  programs : SlotTable String := .empty
  routines : List (String × Routine) := []
  failAllocate : Bool := false
  truncate : Option Nat := none
  failCompile : Option String := none
  failDispatch : Option String := none
  failUpload : Bool := false
  failDownload : Bool := false
  events : List HostEvent := []

namespace HostMemory

def note (m : HostMemory) (e : HostEvent) : HostMemory := { m with events := m.events ++ [e] }

def reserve : List BufferDescription → SlotTable (Array Single) → List SlotKey × SlotTable (Array Single)
  | [], t => ([], t)
  | d :: rest, t =>
    let (key, t) := t.insert (Array.replicate d.size.toNat .zero)
    let (keys, t) := reserve rest t
    (key :: keys, t)

def allocate (descriptions : List BufferDescription) : Call HostMemory (List DeviceBuffer) := fun m =>
  let (released, buffers) := m.buffers.drain
  let m := { m with buffers }
  if m.failAllocate then
    (.error (.device "out of device memory"), m.note (.allocate released.length descriptions none))
  else
    let kept := match m.truncate with
      | some n => descriptions.take n
      | none => descriptions
    let (keys, buffers) := reserve kept m.buffers
    let m := { m with buffers }
    (.ok (keys.map .mk), m.note (.allocate released.length descriptions (some (keys, buffers.size))))

def compileLog (m : HostMemory) (kernel source : String) : Option String :=
  if m.failCompile = some kernel || Text.contains source "#error" then some "error: #error directive"
  else if (m.routines.lookup kernel).isNone then some s!"entry point '{kernel}' not found"
  else none

def compile (kernel source : String) : Call HostMemory Program := fun m =>
  match m.compileLog kernel source with
  | some log => (.error (.compile kernel log), m.note (.compile kernel source none))
  | none =>
    let (key, programs) := m.programs.insert kernel
    (.ok ⟨key⟩, { m with programs }.note (.compile kernel source (some key)))

def release (program : Program) (m : HostMemory) : HostMemory :=
  let (found, programs) := m.programs.remove program.key
  { m with programs }.note (.release program.key found.isSome programs.size)

def stored (m : HostMemory) (b : DeviceBuffer) : Except Error (Array Single) :=
  match m.buffers.get? b.key with
  | some data => .ok data
  | none => .error (.device "stale host buffer")

def fetch (m : HostMemory) : List (String × DeviceBuffer) → Except Error (List (String × Array Single))
  | [] => .ok []
  | (name, b) :: rest => do
    let data ← m.stored b
    let rest ← m.fetch rest
    return (name, data) :: rest

def operands (m : HostMemory) (l : Launch) : Except Error (String × Operands) := do
  let some name := m.programs.get? l.program.key | throw (.device "stale program")
  let inputs ← m.fetch l.inputs
  let outputs ← m.fetch l.outputs
  return (name, ⟨inputs, outputs, l.parameters⟩)

/-- Stores results in binding order, so that of two bindings of one buffer the later stays. -/
def store (results : List (String × Array Single)) (outputs : List (String × DeviceBuffer))
    (t : SlotTable (Array Single)) : SlotTable (Array Single) :=
  outputs.foldl (fun t (name, b) => t.modify b.key fun old => (results.lookup name).getD old) t

def routine (m : HostMemory) (name : String) : Routine :=
  (m.routines.lookup name).getD fun o => o.outputs

def dispatch (l : Launch) : Call HostMemory Unit := fun m =>
  if m.failDispatch = some l.kernel then
    (.error (.device s!"kernel '{l.kernel}' lost"), m.note (.dispatch l true))
  else
    let m := m.note (.dispatch l false)
    match m.operands l with
    | .error e => (.error e, m)
    | .ok (name, o) => (.ok (), { m with buffers := store (m.routine name o) l.outputs m.buffers })

def transfer (m : HostMemory) (fail : Bool) (text : String) (b : DeviceBuffer) (length : Nat) :
    Except Error (Array Single) := do
  if fail then throw (.device text)
  let data ← m.stored b
  if data.size ≠ length then throw (.sizeMismatch data.size length)
  return data

def upload (b : DeviceBuffer) (data : Array Single) : Call HostMemory Unit := fun m =>
  let m := m.note (.upload b.key data.size)
  match m.transfer m.failUpload "upload failed" b data.size with
  | .error e => (.error e, m)
  | .ok _ => (.ok (), { m with buffers := m.buffers.modify b.key fun _ => data })

def download {n : Nat} (b : DeviceBuffer) (host : Vector Single n) (m : HostMemory) :
    Except Error Unit × Vector Single n × HostMemory :=
  let m := m.note (.download b.key n)
  match m.transfer m.failDownload "download failed" b n with
  | .error e => (.error e, host, m)
  | .ok data => (.ok (), if h : data.size = n then ⟨data, h⟩ else host, m)

def adapter (environment : Environment) : Adapter HostMemory where
  environment
  name := "host"
  allocate := allocate
  compile := compile
  release := release
  dispatch := dispatch
  upload := upload
  download := download

def platform (m : HostMemory) (refusal : Option String) : Platform HostMemory where
  isCompiled := Platform.bare.isCompiled
  isAvailable := Platform.bare.isAvailable
  openDevice r :=
    let m := m.note (.opened r)
    match refusal with
    | some text => (.error (.unavailable text), m)
    | none => (.ok (adapter r.environment), m)

end HostMemory

end PixelPipeline
