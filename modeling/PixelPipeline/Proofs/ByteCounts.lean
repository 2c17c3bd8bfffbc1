import Mathlib.Data.UInt
import PixelPipeline.Proofs.Construction

namespace PixelPipeline

variable {b : Buffer} {n : Nat}

def BufferDescription.totalBytes (ds : List BufferDescription) : UInt64 := (ds.map (·.sizeBytes)).sum

/-- What is computed of the size of so many elements. -/
structure BufferDescription.Counted (d : BufferDescription) (n : Nat) : Prop where
  size : d.size.toNat = n
  bytes : d.sizeBytes.toNat = 4 * n % 2 ^ 64
  exact : d.sizeBytes.toNat = 4 * n ↔ n < 2 ^ 62
  fits : 4 * n ≤ largestBlock ↔ n < 2 ^ 61

structure Buffer.Counted (b : Buffer) (n : Nat) : Prop where
  size : b.size = n
  bytes : b.sizeBytes.toNat = 4 * n
  described : (BufferDescription.ofBuffer b).size.toNat = n
  same : (BufferDescription.ofBuffer b).sizeBytes = b.sizeBytes
  fits : 4 * n ≤ largestBlock

theorem Buffer.sizeBytes_toNat (b : Buffer) : b.sizeBytes.toNat = 4 * b.size % 2 ^ 64 := by
  have four : Single.byteCount.toUInt64.toNat = 4 := rfl
  rw [sizeBytes, UInt64.toNat_mul, four, Nat.toUInt64_eq, UInt64.toNat_ofNat']
  omega

theorem BufferDescription.sizeBytes_toNat (d : BufferDescription) :
    d.sizeBytes.toNat = 4 * d.size.toNat % 2 ^ 64 := by
  have four : Single.byteCount.toUInt64.toNat = 4 := rfl
  rw [sizeBytes, UInt64.toNat_mul, four, Nat.mul_comm]

theorem BufferDescription.counted {d : BufferDescription} (wide : d.width.toNat ≤ 2147483647)
    (high : d.height.toNat ≤ 2147483647) (few : d.channels.toNat ≤ 4) :
    d.Counted (d.width.toNat * d.height.toNat * d.channels.toNat) := by
  have size : d.size.toNat = d.width.toNat * d.height.toNat * d.channels.toNat :=
    PipelineFile.elementCount_toNat wide high few
  have bytes := d.sizeBytes_toNat
  rw [size] at bytes
  have bound := d.size.toNat_lt
  rw [size] at bound
  refine ⟨size, bytes, ?_, ?_⟩
  · rw [bytes]
    omega
  · simp only [largestBlock]
    omega

theorem Buffer.counted (size : b.size = n) (described : (BufferDescription.ofBuffer b).size.toNat = n)
    (fits : 4 * n ≤ largestBlock) : b.Counted n := by
  have small : 4 * n < 2 ^ 64 := by
    simp only [largestBlock] at fits
    omega
  have bytes : b.sizeBytes.toNat = 4 * n := by
    rw [b.sizeBytes_toNat, size, Nat.mod_eq_of_lt small]
  refine ⟨size, bytes, described, ?_, fits⟩
  rw [← UInt64.toNat_inj, bytes, BufferDescription.sizeBytes_toNat, described, Nat.mod_eq_of_lt small]

theorem sum_toNat (words : List UInt64) : words.sum.toNat = (words.map (·.toNat)).sum % 2 ^ 64 := by
  induction words with
  | nil => rfl
  | cons word rest ih =>
    rw [List.sum_cons, UInt64.toNat_add, ih, List.map_cons, List.sum_cons, Nat.add_mod_mod]

theorem totalBytes_toNat {buffers : List Buffer}
    (counted : ∀ b ∈ buffers, (BufferDescription.ofBuffer b).size.toNat = b.size) :
    (BufferDescription.totalBytes (buffers.map .ofBuffer)).toNat = (buffers.map fun b => 4 * b.size).sum % 2 ^ 64 := by
  rw [BufferDescription.totalBytes, sum_toNat, List.map_map, List.map_map]
  induction buffers with
  | nil => rfl
  | cons b rest ih =>
    obtain ⟨here, later⟩ := List.forall_mem_cons.mp counted
    rw [List.map_cons, List.sum_cons, List.map_cons, List.sum_cons, Nat.add_mod, ih later]
    simp [BufferDescription.sizeBytes_toNat, here, Nat.add_mod]

theorem fits_every_channel_count (width height : UInt32) :
    (∀ channels : UInt32, 1 ≤ channels.toNat ∧ channels.toNat ≤ 4 →
      4 * (width.toNat * height.toNat * channels.toNat) ≤ largestBlock) ↔ width.toNat * height.toNat < 2 ^ 59 := by
  simp only [largestBlock]
  constructor
  · intro all
    have four := all 4 (by decide)
    have same : (4 : UInt32).toNat = 4 := rfl
    rw [same] at four
    omega
  · intro small channels few
    have most : width.toNat * height.toNat * channels.toNat ≤ width.toNat * height.toNat * 4 :=
      Nat.mul_le_mul_left _ few.2
    omega

namespace Graph

variable {g : Graph}

theorem exists_setDimensions {width height : UInt32} : (∃ h, g.setDimensions width height = .ok h) ↔
    (1 ≤ width.toNat ∧ width.toNat ≤ 2147483647) ∧ (1 ≤ height.toNat ∧ height.toNat ≤ 2147483647) ∧
      g.registry.buffers = [] := by
  simp only [setDimensions_eq_ok]
  constructor
  · rintro ⟨h, wide, high, none, -⟩
    exact ⟨wide, high, none⟩
  · rintro ⟨wide, high, none⟩
    exact ⟨_, wide, high, none, rfl⟩

theorem hasRoom_iff {r : Registry} {channels : UInt32} (wide : r.width.toNat ≤ 2147483647)
    (high : r.height.toNat ≤ 2147483647) (few : channels.toNat ≤ 4) :
    r.HasRoom channels ↔ 4 * (r.width.toNat * r.height.toNat * channels.toNat) ≤ largestBlock := by
  rw [Registry.HasRoom, PipelineFile.elementCount_toNat wide high few]

theorem exists_createBuffer {name : String} {channels : UInt32} (wide : g.registry.width.toNat ≤ 2147483647)
    (high : g.registry.height.toNat ≤ 2147483647) :
    (∃ made, g.createBuffer name channels = .ok made) ↔ ((g.registry.width ≠ 0 ∧ g.registry.height ≠ 0) ∧
      (1 ≤ channels.toNat ∧ channels.toNat ≤ 4) ∧ name ∉ g.registry.buffers.map (·.name)) ∧
      4 * (g.registry.width.toNat * g.registry.height.toNat * channels.toNat) ≤ largestBlock := by
  simp only [Prod.exists, createBuffer_eq_ok]
  constructor
  · rintro ⟨id, h, set, few, new, room, -⟩
    exact ⟨⟨set, few, new⟩, (hasRoom_iff wide high few.2).mp room⟩
  · rintro ⟨⟨set, few, new⟩, room⟩
    exact ⟨_, _, set, few, new, (hasRoom_iff wide high few.2).mpr room, rfl, rfl⟩

theorem createBuffer_overflows {name : String} {channels : UInt32} (wide : g.registry.width.toNat ≤ 2147483647)
    (high : g.registry.height.toNat ≤ 2147483647) :
    g.createBuffer name channels = .error .overflow ↔ ((g.registry.width ≠ 0 ∧ g.registry.height ≠ 0) ∧
      (1 ≤ channels.toNat ∧ channels.toNat ≤ 4) ∧ name ∉ g.registry.buffers.map (·.name)) ∧
      largestBlock < 4 * (g.registry.width.toNat * g.registry.height.toNat * channels.toNat) := by
  rw [createBuffer_eq_overflow]
  constructor
  · rintro ⟨set, few, new, large⟩
    exact ⟨⟨set, few, new⟩, Nat.lt_of_not_le (mt (hasRoom_iff wide high few.2).mpr large)⟩
  · rintro ⟨⟨set, few, new⟩, large⟩
    exact ⟨set, few, new, mt (hasRoom_iff wide high few.2).mp (Nat.not_le_of_lt large)⟩

end Graph

namespace Construction

/-- The contents of every buffer fit into one allocation. -/
def Fits (c : Construction) : Prop := ∀ b ∈ c.graph.registry.buffers, 4 * b.data.size ≤ largestBlock

theorem Step.fits {c d : Construction} (step : c.Step d) (fits : c.Fits) : d.Fits := by
  cases step with
  | kept | kernel | edited => exact fits
  | measured _ _ none =>
    intro b member
    exact fits b member
  | buffer set few new room =>
    intro b member
    rcases List.mem_append.mp member with old | new
    · exact fits b old
    · rw [List.mem_singleton] at new
      subst new
      show 4 * (Array.replicate _ _).size ≤ _
      rw [Array.size_replicate]
      exact room
  | @refilled i b data known length =>
    intro e member
    rcases List.mem_or_eq_of_mem_set member with old | rfl
    · exact fits e old
    · show 4 * data.size ≤ _
      rw [length]
      exact fits b (List.mem_of_getElem? known)

theorem fits_after (environment : Environment) (owner : Owner) (calls : List GraphCall) :
    (after environment owner calls).Fits := by
  induction calls using List.reverseRecOn with
  | nil => exact fun b member => absurd member List.not_mem_nil
  | append_singleton calls call ih =>
    rw [after_concat]
    exact (ask_step _ call).fits ih

/-- The size of every buffer of a graph is exact in elements and in bytes, on the host and as the device is told. For
dimensions and channels that are accepted it need not be so: the bytes can wrap, and where they do not fit into one
allocation, to create the buffer does not fail but panics. Dimensions are set if each side alone will do. -/
theorem byte_counts (environment : Environment) (owner : Owner) (calls : List GraphCall) :
    let g := (after environment owner calls).graph
    (∀ b ∈ g.registry.buffers, b.Counted (b.width.toNat * b.height.toNat * b.channels.toNat)) ∧
    (∀ d : BufferDescription, d.width.toNat ≤ 2147483647 → d.height.toNat ≤ 2147483647 → d.channels.toNat ≤ 4 →
      d.Counted (d.width.toNat * d.height.toNat * d.channels.toNat)) ∧
    (BufferDescription.totalBytes (Processor.descriptions g)).toNat =
      (g.registry.buffers.map fun b => 4 * b.size).sum % 2 ^ 64 ∧
    (∀ width height, (∃ h, g.setDimensions width height = .ok h) ↔
      (1 ≤ width.toNat ∧ width.toNat ≤ 2147483647) ∧ (1 ≤ height.toNat ∧ height.toNat ≤ 2147483647) ∧
        g.registry.buffers = []) ∧
    (∀ name channels,
      let proper := (g.registry.width ≠ 0 ∧ g.registry.height ≠ 0) ∧ (1 ≤ channels.toNat ∧ channels.toNat ≤ 4) ∧
        name ∉ g.registry.buffers.map (·.name)
      let bytes := 4 * (g.registry.width.toNat * g.registry.height.toNat * channels.toNat)
      ((∃ made, g.createBuffer name channels = .ok made) ↔ proper ∧ bytes ≤ largestBlock) ∧
        (g.createBuffer name channels = .error .overflow ↔ proper ∧ largestBlock < bytes)) ∧
    ∀ width height : UInt32, (∀ channels : UInt32, 1 ≤ channels.toNat ∧ channels.toNat ≤ 4 →
      4 * (width.toNat * height.toNat * channels.toNat) ≤ largestBlock) ↔ width.toNat * height.toNat < 2 ^ 59 := by
  intro g
  have shaped : g.registry.Shaped := (sound_after environment owner calls).shaped
  have described : ∀ b ∈ g.registry.buffers, (BufferDescription.ofBuffer b).size.toNat = b.size :=
    fun b member => (shaped.buffers b member).size shaped
  refine ⟨fun b member => ?_, fun d => BufferDescription.counted, totalBytes_toNat described,
    fun _ _ => Graph.exists_setDimensions, fun name channels => ?_, fits_every_channel_count⟩
  · have length : b.size = b.width.toNat * b.height.toNat * b.channels.toNat := (shaped.buffers b member).length
    have fits : 4 * b.size ≤ largestBlock := fits_after environment owner calls b member
    exact Buffer.counted length ((described b member).trans length) (length ▸ fits)
  · exact ⟨Graph.exists_createBuffer shaped.wide shaped.high, Graph.createBuffer_overflows shaped.wide shaped.high⟩

theorem byte_count_wraps :
    let n := 2147483647 * 2147483647 * 4
    let d : BufferDescription := ⟨"b", 2147483647, 2147483647, 4⟩
    (∃ g, (Graph.empty .openCL ⟨0⟩).setDimensions 2147483647 2147483647 = .ok g ∧
      g.createBuffer "b" 1 = .error .overflow ∧ g.createBuffer "b" 4 = .error .overflow) ∧
    d.size.toNat = n ∧ d.sizeBytes.toNat ≠ 4 * n := by
  refine ⟨⟨⟨.openCL, ⟨⟨0⟩, 2147483647, 2147483647, []⟩, []⟩, by decide +kernel, by decide +kernel, by decide +kernel⟩,
    by decide +kernel, by decide +kernel⟩

end Construction

end PixelPipeline
