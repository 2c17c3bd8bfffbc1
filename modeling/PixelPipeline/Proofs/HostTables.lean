import PixelPipeline.Device.HostMemory
import PixelPipeline.Proofs.Replay
import PixelPipeline.Proofs.Slots

namespace PixelPipeline.HostMemory

variable {environment : Environment} {m m' : HostMemory} {call : DeviceCall} {calls : List DeviceCall}

/-- Calls that leave both tables as they are: transfers to the host, and those that are refused. -/
def Quiet : DeviceCall → Prop
  | .compile _ _ (.error _) | .dispatch _ (.error _) | .upload _ _ (.error _) | .download .. => True
  | _ => False

inductive Effect (m : HostMemory) : DeviceCall → SlotTable (Array Single) → SlotTable String → Prop
  | quiet {call : DeviceCall} (same : Quiet call) : Effect m call m.buffers m.programs
  | allocated (descriptions kept : List BufferDescription) :
      Effect m (.allocate descriptions (.ok ((reserve kept m.buffers.drain.2).1.map .mk)))
        (reserve kept m.buffers.drain.2).2 m.programs
  | unallocated (descriptions : List BufferDescription) (e : Error) :
      Effect m (.allocate descriptions (.error e)) m.buffers.drain.2 m.programs
  | compiled (kernel source : String) :
      Effect m (.compile kernel source (.ok ⟨(m.programs.insert kernel).1⟩)) m.buffers
        (m.programs.insert kernel).2
  | released (program : Program) : Effect m (.release program) m.buffers (m.programs.remove program.key).2
  | dispatched {l : Launch} {name : String} {o : Operands} (operands : m.operands l = .ok (name, o)) :
      Effect m (.dispatch l (.ok ())) (store (m.routine name o) l.outputs m.buffers) m.programs
  | uploaded (b : DeviceBuffer) (data : Array Single) :
      Effect m (.upload b data (.ok ())) (m.buffers.modify b.key fun _ => data) m.programs

theorem fetch_note (e : HostEvent) (bound : List (String × DeviceBuffer)) : (m.note e).fetch bound = m.fetch bound := by
  induction bound with
  | nil => rfl
  | cons first rest ih =>
    simp only [fetch, ih]
    rfl

theorem operands_note (e : HostEvent) (l : Launch) : (m.note e).operands l = m.operands l := by
  simp only [operands, fetch_note]
  rfl

theorem effect_of_answers (answered : (adapter environment).Answers m call m') :
    m.Effect call m'.buffers m'.programs ∧ m'.routines = m.routines := by
  cases answered with
  | @allocate _ descriptions answer h =>
    simp only [adapter, HostMemory.allocate] at h
    split at h
    · cases h
      exact ⟨.unallocated descriptions _, rfl⟩
    · cases h
      exact ⟨.allocated descriptions _, rfl⟩
  | @compile _ kernel source answer h =>
    simp only [adapter, HostMemory.compile] at h
    split at h
    · cases h
      exact ⟨.quiet trivial, rfl⟩
    · cases h
      exact ⟨.compiled kernel source, rfl⟩
  | release program => exact ⟨.released program, rfl⟩
  | @dispatch _ l answer h =>
    simp only [adapter, HostMemory.dispatch, operands_note] at h
    split at h
    · cases h
      exact ⟨.quiet trivial, rfl⟩
    · split at h
      · cases h
        exact ⟨.quiet trivial, rfl⟩
      · rename_i name o operands
        cases h
        exact ⟨.dispatched operands, rfl⟩
  | @upload _ b data answer h =>
    simp only [adapter, HostMemory.upload] at h
    split at h
    · cases h
      exact ⟨.quiet trivial, rfl⟩
    · cases h
      exact ⟨.uploaded b data, rfl⟩
  | @download _ n b host data answer h =>
    simp only [adapter, HostMemory.download] at h
    split at h
    · cases h
      exact ⟨.quiet trivial, rfl⟩
    · cases h
      exact ⟨.quiet trivial, rfl⟩

section

variable {t : SlotTable (Array Single)} {descriptions : List BufferDescription}

theorem reserve_cons (d : BufferDescription) : reserve (d :: descriptions) t =
    ((t.insert (Array.replicate d.size.toNat .zero)).1 ::
        (reserve descriptions (t.insert (Array.replicate d.size.toNat .zero)).2).1,
      (reserve descriptions (t.insert (Array.replicate d.size.toNat .zero)).2).2) := rfl

theorem size_reserve : t.slots.size ≤ (reserve descriptions t).2.slots.size := by
  induction descriptions generalizing t with
  | nil => exact le_refl _
  | cons d rest ih => exact SlotTable.size_insert.trans ih

theorem sound_reserve (sound : t.Sound) : (reserve descriptions t).2.Sound := by
  induction descriptions generalizing t with
  | nil => exact sound
  | cons d rest ih => exact ih sound.insert

theorem reserve_keys (sound : t.Sound) (room : (reserve descriptions t).2.slots.size ≤ UInt32.size) :
    (∀ key ∈ (reserve descriptions t).1, t.get? key = none) ∧ (reserve descriptions t).1.Nodup := by
  induction descriptions generalizing t with
  | nil => exact ⟨fun _ member => absurd member List.not_mem_nil, List.nodup_nil⟩
  | cons d rest ih =>
    rw [reserve_cons] at room ⊢
    have early : (t.insert (Array.replicate d.size.toNat .zero)).2.slots.size ≤ UInt32.size :=
      size_reserve.trans room
    have inserted (other : SlotKey) : (t.insert (Array.replicate d.size.toNat .zero)).2.get? other =
        if other = (t.insert (Array.replicate d.size.toNat .zero)).1 then some _ else t.get? other :=
      SlotTable.get?_insert sound early
    obtain ⟨new, distinct⟩ := ih sound.insert room
    refine ⟨fun key member => ?_, List.nodup_cons.mpr ⟨fun member => ?_, distinct⟩⟩
    · rcases List.mem_cons.mp member with rfl | member
      · exact SlotTable.get?_insert_key sound early
      · have unused := new key member
        rw [inserted] at unused
        split at unused
        · cases unused
        · exact unused
    -- A key that is given out again would lead to the first buffer by then.
    · have unused := new _ member
      rw [inserted, if_pos rfl] at unused
      cases unused

end

section

variable {t : SlotTable (Array Single)} {results : List (String × Array Single)}
  {outputs : List (String × DeviceBuffer)}

theorem size_store : (store results outputs t).slots.size = t.slots.size := by
  induction outputs generalizing t with
  | nil => rfl
  | cons first rest ih => exact ih.trans (SlotTable.size_modify _)

theorem sound_store (sound : t.Sound) : (store results outputs t).Sound := by
  induction outputs generalizing t with
  | nil => exact sound
  | cons first rest ih => exact ih (sound.modify _)

end

/-- Slots are numbered in 32 bits, and one that comes after them all gets a key that is taken. -/
def InRange (m : HostMemory) : Prop :=
  m.buffers.slots.size ≤ UInt32.size ∧ m.programs.slots.size ≤ UInt32.size

instance : DecidablePred InRange := fun _ => inferInstanceAs (Decidable (_ ∧ _))

structure Sound (m : HostMemory) : Prop where
  buffers : m.buffers.Sound
  programs : m.programs.Sound

section

variable {buffers : SlotTable (Array Single)} {programs : SlotTable String}

theorem Effect.sizes (effect : m.Effect call buffers programs) :
    m.buffers.slots.size ≤ buffers.slots.size ∧ m.programs.slots.size ≤ programs.slots.size := by
  cases effect with
  | quiet => exact ⟨le_refl _, le_refl _⟩
  | allocated descriptions kept => exact ⟨SlotTable.size_drain.symm.le.trans size_reserve, le_refl _⟩
  | unallocated => exact ⟨SlotTable.size_drain.symm.le, le_refl _⟩
  | compiled => exact ⟨le_refl _, SlotTable.size_insert⟩
  | released => exact ⟨le_refl _, SlotTable.size_remove.symm.le⟩
  | dispatched => exact ⟨size_store.symm.le, le_refl _⟩
  | uploaded => exact ⟨(SlotTable.size_modify _).symm.le, le_refl _⟩

theorem Effect.sound (effect : m.Effect call buffers programs) (sound : m.Sound) (room : m.InRange) :
    buffers.Sound ∧ programs.Sound := by
  cases effect with
  | quiet => exact ⟨sound.buffers, sound.programs⟩
  | allocated => exact ⟨sound_reserve (sound.buffers.drain room.1), sound.programs⟩
  | unallocated => exact ⟨sound.buffers.drain room.1, sound.programs⟩
  | compiled => exact ⟨sound.buffers, sound.programs.insert⟩
  | released => exact ⟨sound.buffers, sound.programs.remove⟩
  | dispatched => exact ⟨sound_store sound.buffers, sound.programs⟩
  | uploaded => exact ⟨sound.buffers.modify _, sound.programs⟩

end

theorem sizes_of_serves (served : (adapter environment).Serves m calls m') :
    m.buffers.slots.size ≤ m'.buffers.slots.size ∧ m.programs.slots.size ≤ m'.programs.slots.size := by
  induction served with
  | nil => exact ⟨le_refl _, le_refl _⟩
  | cons first _ ih =>
    have sizes := (effect_of_answers first).1.sizes
    exact ⟨sizes.1.trans ih.1, sizes.2.trans ih.2⟩

theorem InRange.before (served : (adapter environment).Serves m calls m') (room : m'.InRange) : m.InRange :=
  have sizes := sizes_of_serves served
  ⟨sizes.1.trans room.1, sizes.2.trans room.2⟩

theorem serves_induction {motive : HostMemory → Prop} (served : (adapter environment).Serves m calls m')
    (room : m'.InRange) (sound : m.Sound) (start : motive m)
    (next : ∀ n n' call, call ∈ calls → n.Sound → n'.InRange → n.Effect call n'.buffers n'.programs →
      n'.routines = n.routines → motive n → motive n') : motive m' ∧ m'.Sound := by
  induction served with
  | nil => exact ⟨start, sound⟩
  | cons first later ih =>
    obtain ⟨effect, routines⟩ := effect_of_answers first
    have between := room.before later
    have sizes := effect.sizes
    obtain ⟨buffers, programs⟩ := effect.sound sound ⟨sizes.1.trans between.1, sizes.2.trans between.2⟩
    exact ih room ⟨buffers, programs⟩ (next _ _ _ List.mem_cons_self sound between effect routines start)
      fun n n' call member => next n n' call (List.mem_cons_of_mem _ member)

theorem Effect.loaded {buffers : SlotTable (Array Single)} {programs : SlotTable String} {key : SlotKey}
    {name : String} (effect : m.Effect call buffers programs) (sound : m.Sound)
    (room : programs.slots.size ≤ UInt32.size) (there : m.programs.get? key = some name)
    (unreleased : call ≠ .release ⟨key⟩) : programs.get? key = some name := by
  cases effect with
  | quiet | allocated | unallocated | dispatched | uploaded => exact there
  | compiled kernel source =>
    have absent := SlotTable.get?_insert_key sound.programs room
    rw [SlotTable.get?_insert sound.programs room, if_neg (by rintro rfl; rw [absent] at there; cases there), there]
  | released program =>
    have other : key ≠ program.key := fun same => unreleased (by rw [same])
    rw [SlotTable.get?_remove, if_neg other, there]

section

variable (served : (adapter environment).Serves m calls m') (room : m'.InRange) (sound : m.Sound)

include served room sound

theorem sound_of_serves : m'.Sound :=
  (serves_induction (motive := fun _ => True) served room sound trivial fun _ _ _ _ _ _ _ _ _ => trivial).2

theorem routines_of_serves : m'.routines = m.routines :=
  (serves_induction (motive := fun n => n.routines = m.routines) served room sound rfl
    fun _ _ _ _ _ _ _ same earlier => same.trans earlier).1

theorem loaded_of_serves {key : SlotKey} {name : String} (there : m.programs.get? key = some name)
    (unreleased : ∀ call ∈ calls, call ≠ .release ⟨key⟩) : m'.programs.get? key = some name :=
  (serves_induction (motive := fun n => n.programs.get? key = some name) served room sound there
    fun _ _ call member sound room effect _ held => effect.loaded sound room.2 held (unreleased call member)).1

end

theorem Effect.storage_nodup {buffers : SlotTable (Array Single)} {programs : SlotTable String}
    {descriptions : List BufferDescription} {storage : List DeviceBuffer}
    (effect : m.Effect (.allocate descriptions (.ok storage)) buffers programs) (sound : m.Sound)
    (room : buffers.slots.size ≤ UInt32.size) : storage.Nodup := by
  have early : m.buffers.slots.size ≤ UInt32.size := effect.sizes.1.trans room
  cases effect with
  | quiet same => cases same
  | allocated descriptions kept =>
    have distinct := (reserve_keys (sound.buffers.drain early) room).2
    exact distinct.map fun _ _ same => congrArg (·.key) same

theorem Effect.of_compile {buffers : SlotTable (Array Single)} {programs : SlotTable String}
    {kernel source : String} {program : Program}
    (effect : m.Effect (.compile kernel source (.ok program)) buffers programs) :
    (program.key, programs) = m.programs.insert kernel := by
  cases effect with
  | quiet same => cases same
  | compiled => rfl

theorem loaded_of_compiles {units : List Processor.SourceUnit} {programs : List Program}
    (served : (adapter environment).Serves m (DeviceCall.compiles units programs) m') (room : m'.InRange)
    (sound : m.Sound) (each : programs.length = units.length) :
    List.Forall₂ (fun u program => m'.programs.get? program.key = some u.kernel.name) units programs ∧
      ∀ program ∈ programs, m.programs.get? program.key = none := by
  induction units generalizing m programs with
  | nil =>
    obtain rfl := List.length_eq_zero_iff.mp each
    exact ⟨.nil, fun _ member => absurd member List.not_mem_nil⟩
  | cons u units ih =>
    cases programs with
    | nil => cases each
    | cons program programs =>
      obtain ⟨between, first, later⟩ := Adapter.Serves.cons_iff.mp served
      have effect := (effect_of_answers first).1
      have early := room.before later
      have sound' : between.Sound := sound_of_serves (.cons first (.nil between)) early sound
      have inserted : (program.key, between.programs) = m.programs.insert u.kernel.name := effect.of_compile
      have size : (m.programs.insert u.kernel.name).2.slots.size ≤ UInt32.size := inserted ▸ early.2
      have absent : m.programs.get? program.key = none := by
        have new := SlotTable.get?_insert_key sound.programs size
        rwa [← inserted] at new
      have found (other : SlotKey) : between.programs.get? other =
          if other = program.key then some u.kernel.name else m.programs.get? other := by
        have all : (m.programs.insert u.kernel.name).2.get? other = _ := SlotTable.get?_insert sound.programs size
        rwa [← inserted] at all
      obtain ⟨names, fresh⟩ := ih later sound' (by simpa using each)
      have kept : m'.programs.get? program.key = some u.kernel.name := by
        refine loaded_of_serves later room sound' ((found _).trans (if_pos rfl)) fun call member => ?_
        obtain ⟨_, _, _, rfl⟩ := DeviceCall.mem_compiles member
        simp
      refine ⟨.cons kept names, fun other member => ?_⟩
      rcases List.mem_cons.mp member with rfl | member
      · exact absent
      · have unused := fresh other member
        rw [found] at unused
        split at unused
        · cases unused
        · exact unused

end PixelPipeline.HostMemory
