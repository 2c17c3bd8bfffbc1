import PixelPipeline.Buffer

namespace PixelPipeline

structure Registry where
  owner : Owner
  width : UInt32
  height : UInt32
  buffers : List Buffer
  deriving DecidableEq

namespace Registry

def empty (owner : Owner) : Registry := ⟨owner, 0, 0, []⟩

def dimensions (r : Registry) : UInt32 × UInt32 := (r.width, r.height)

def setDimensions (r : Registry) (width height : UInt32) : Except Error Registry :=
  if r.buffers.isEmpty then .ok { r with width, height } else .error (.misuse .dimensionsFixed)

/-- Appends a buffer of zeros. There is memory for it unless its size alone is out of the question. -/
def create (r : Registry) (name : String) (channels : UInt32) : Except Error (BufferId × Registry) :=
  if r.width = 0 || r.height = 0 then .error (.misuse .dimensionsUnset)
  else if channels < 1 || 4 < channels then .error (.invalidChannels channels)
  else if r.buffers.any (·.name == name) then .error (.duplicateName .buffer name)
  else if largestBlock < Single.byteCount * (Buffer.elementCount r.width r.height channels).toNat then .error .overflow
  else .ok (⟨r.owner, r.buffers.length⟩,
    { r with buffers := r.buffers ++ [.zeroed name r.width r.height channels] })

def idOf (r : Registry) (name : String) : Except Error BufferId :=
  match r.buffers.findIdx? (·.name == name) with
  | some index => .ok ⟨r.owner, index⟩
  | none => .error (.notFound .buffer name)

def contains (r : Registry) (id : BufferId) : Bool :=
  id.owner = r.owner && id.index < r.buffers.length

def get (r : Registry) (id : BufferId) : Except Error Buffer :=
  if id.owner = r.owner then
    match r.buffers[id.index]? with
    | some b => .ok b
    | none => .error (.foreign .buffer id.index)
  else .error (.foreign .buffer id.index)

def modify (r : Registry) (id : BufferId) (edit : Buffer → Except Error Buffer) : Except Error Registry := do
  let b ← r.get id
  let b ← edit b
  return { r with buffers := r.buffers.set id.index b }

def entries (r : Registry) : List (BufferId × Buffer) :=
  r.buffers.mapIdx fun index b => (⟨r.owner, index⟩, b)

def size (r : Registry) : Nat := r.buffers.length

def isEmpty (r : Registry) : Bool := r.buffers.isEmpty

end Registry

end PixelPipeline
