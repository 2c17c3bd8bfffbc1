import PixelPipeline.Proofs.Convention
import PixelPipeline.Proofs.Declaration
import PixelPipeline.Proofs.Snapshot

namespace PixelPipeline

open Outcome Event

variable {σ : Type}

def Action.KeepsBuffers : Action → Prop
  | replaceBuffer .. => False
  | _ => True

instance : DecidablePred Action.KeepsBuffers
  | .replaceBuffer .. => .isFalse id
  | .setDimensions .. | .createBuffer .. | .createKernel _ | .editBuffer .. | .editKernel .. | .replaceKernel ..
  | .allocate | .build | .run | .upload _ | .download _ => .isTrue trivial

def BufferDescription.checkLength (d : BufferDescription) (length : Nat) : Except Error Unit :=
  if d.size.toNat = length then .ok () else .error (.sizeMismatch d.size.toNat length)

theorem BufferEdit.refills {edit : BufferEdit} {b c : Buffer} (edited : edit.apply b = .ok c) :
    ∃ data, data.size = b.data.size ∧ c = { b with data } := by
  cases edit with
  | overwrite change =>
    cases edited
    exact ⟨_, Vector.size_toArray _, rfl⟩
  | setData data =>
    simp only [apply, Buffer.setData] at edited
    split at edited
    · rename_i same
      cases edited
      exact ⟨data, same, rfl⟩
    · cases edited

/-- What a registry can become while no buffer is replaced, its dimensions only while they are `unlocked`. -/
inductive Registry.Changes (r : Registry) (unlocked : Prop) : Registry → Prop
  | kept : r.Changes unlocked r
  | measured {width height : UInt32} (allowed : unlocked) (wide : width.toNat ≤ 2147483647)
      (high : height.toNat ≤ 2147483647) (none : r.buffers = []) : r.Changes unlocked { r with width, height }
  | added (name : String) {channels : UInt32} (set : r.width ≠ 0 ∧ r.height ≠ 0)
      (few : 1 ≤ channels.toNat ∧ channels.toNat ≤ 4) :
      r.Changes unlocked { r with buffers := r.buffers ++ [.zeroed name r.width r.height channels] }
  | refilled {i : Nat} {b : Buffer} {data : Array Single} (known : r.buffers[i]? = some b)
      (length : data.size = b.data.size) :
      r.Changes unlocked { r with buffers := r.buffers.set i { b with data } }

structure Buffer.Shaped (r : Registry) (b : Buffer) : Prop where
  width : b.width = r.width
  height : b.height = r.height
  channels : 1 ≤ b.channels.toNat ∧ b.channels.toNat ≤ 4
  length : b.data.size = b.width.toNat * b.height.toNat * b.channels.toNat

structure Registry.Shaped (r : Registry) : Prop where
  wide : r.width.toNat ≤ 2147483647
  high : r.height.toNat ≤ 2147483647
  set : r.buffers ≠ [] → r.width ≠ 0 ∧ r.height ≠ 0
  buffers : ∀ b ∈ r.buffers, b.Shaped r

section

variable {r s : Registry} {unlocked : Prop}

theorem Registry.Changes.keeps (changes : r.Changes unlocked s) :
    Kept Buffer.SameShape r.buffers s.buffers := by
  cases changes with
  | kept | measured => exact .refl .refl _
  | added => exact .append .refl _ _
  | refilled known => exact .set .refl known rfl

theorem Registry.Changes.dimensions (changes : r.Changes unlocked s) (locked : ¬ unlocked) :
    s.dimensions = r.dimensions := by
  cases changes with
  | measured allowed => exact absurd allowed locked
  | kept | added | refilled => rfl

theorem Buffer.size_zeroed {name : String} {width height channels : UInt32} (wide : width.toNat ≤ 2147483647)
    (high : height.toNat ≤ 2147483647) (few : channels.toNat ≤ 4) :
    (Buffer.zeroed name width height channels).data.size = width.toNat * height.toNat * channels.toNat := by
  rw [zeroed, Array.size_replicate, PipelineFile.elementCount_toNat wide high few]

theorem Registry.Changes.shaped (changes : r.Changes unlocked s) (shaped : r.Shaped) : s.Shaped := by
  obtain ⟨wide, high, set, buffers⟩ := shaped
  cases changes with
  | kept => exact ⟨wide, high, set, buffers⟩
  | measured allowed wide high none => exact ⟨wide, high, fun some => absurd none some, by simp [none]⟩
  | @added name channels set few =>
    refine ⟨wide, high, fun _ => set, fun b member => ?_⟩
    rcases List.mem_append.mp member with old | new
    · obtain ⟨width, height, channels, length⟩ := buffers b old
      exact ⟨width, height, channels, length⟩
    · rw [List.mem_singleton] at new
      subst new
      exact ⟨rfl, rfl, few, Buffer.size_zeroed wide high few.2⟩
  | @refilled i b data known length =>
    have some : r.buffers ≠ [] := List.ne_nil_of_mem (List.mem_of_getElem? known)
    refine ⟨wide, high, fun _ => set some, fun c member => ?_⟩
    rcases List.mem_or_eq_of_mem_set member with old | rfl
    · obtain ⟨width, height, channels, same⟩ := buffers c old
      exact ⟨width, height, channels, same⟩
    · obtain ⟨width, height, channels, same⟩ := buffers b (List.mem_of_getElem? known)
      exact ⟨width, height, channels, length.trans same⟩

theorem Registry.shaped_empty (owner : Owner) : (Registry.empty owner).Shaped :=
  ⟨Nat.zero_le _, Nat.zero_le _, fun some => absurd rfl some, fun _ member => absurd member List.not_mem_nil⟩

theorem Registry.Shaped.bounds (shaped : r.Shaped) (some : r.buffers ≠ []) :
    (1 ≤ r.width.toNat ∧ r.width.toNat ≤ 2147483647) ∧ (1 ≤ r.height.toNat ∧ r.height.toNat ≤ 2147483647) := by
  obtain ⟨wide, high⟩ := shaped.set some
  refine ⟨⟨?_, shaped.wide⟩, ⟨?_, shaped.high⟩⟩
  · exact Nat.pos_of_ne_zero fun zero => wide (UInt32.toNat_inj.mp zero)
  · exact Nat.pos_of_ne_zero fun zero => high (UInt32.toNat_inj.mp zero)

theorem Buffer.Shaped.size {b : Buffer} (shaped : b.Shaped r) (registry : r.Shaped) :
    (BufferDescription.ofBuffer b).size.toNat = b.data.size := by
  obtain ⟨width, height, channels, length⟩ := shaped
  rw [length]
  exact PipelineFile.elementCount_toNat (width.symm ▸ registry.wide : b.width.toNat ≤ 2147483647)
    (height.symm ▸ registry.high : b.height.toNat ≤ 2147483647) channels.2

end

namespace Processor

variable {events : List (Event (Recorded σ))} {p p' : Processor (Recorded σ)} {act : Action}
  {answer : Except Error Unit} {allocation e : Event (Recorded σ)}

theorem Step.changes (step : p.Step act answer p') (keeps : act.KeepsBuffers) :
    p.graph.registry.Changes (p.stage = .created) p'.graph.registry := by
  cases step with
  | edited only changed early =>
    cases act.operated only changed with
    | measured wide high none => exact .measured (early _ _ rfl) wide.2 high.2 none
    | buffer set few => exact .added _ set few
    | kernel | kernelEdited | kernelReplaced => exact .kept
    | @bufferEdited _ edit _ _ known edited =>
      obtain ⟨data, length, rfl⟩ := edit.refills edited
      exact .refilled known length
    | bufferReplaced => cases keeps
  | @downloaded id d b answer data memory stored held =>
    exact .refilled (Registry.get_eq_ok.mp held).2 (Vector.size_toArray data)
  | _ => exact .kept

theorem Step.writes (step : p.Step act answer p') (writes : ∀ c ∈ p.compiled, c.outputs ≠ []) :
    ∀ c ∈ p'.compiled, c.outputs ≠ [] := by
  cases step with
  | @built units programs memory late ready each =>
    have assembled := assembled_of_prepareAll late ready
    have complete : ∀ k ∈ p.graph.kernels, k.Ready p := (exists_prepareAll late).mp ⟨units, ready⟩
    intro c member
    obtain ⟨k, kernel, -, outputs⟩ := assembled.bindings_of_compiled member
    rw [outputs]
    exact (complete k kernel).output
  | unallocated => simp
  | _ => exact writes

/-- The storage was reserved for the buffers of the graph as they are. -/
structure Reserved (allocation : Event (Recorded σ)) (p : Processor (Recorded σ)) : Prop where
  calls : allocation.calls = [.allocate (descriptions allocation.before.graph) (.ok p.storage)]
  each : p.storage.length = allocation.before.graph.registry.buffers.length
  kept : Kept Buffer.SameShape allocation.before.graph.registry.buffers p.graph.registry.buffers
  dimensions : p.graph.dimensions = allocation.before.graph.dimensions

structure Measured (events : List (Event (Recorded σ))) (p : Processor (Recorded σ)) : Prop where
  shaped : p.graph.registry.Shaped
  writes : ∀ c ∈ p.compiled, c.outputs ≠ []
  reserved : p.stage ≠ .created → ∃ allocation, latest allocated events = some allocation ∧ Reserved allocation p

theorem Reserved.step (reserved : Reserved allocation p) (step : p.Step act answer p')
    (keeps : act.KeepsBuffers) (late : p.stage ≠ .created) (storage : p'.storage = p.storage) :
    Reserved allocation p' where
  calls := storage ▸ reserved.calls
  each := storage ▸ reserved.each
  kept := reserved.kept.trans (fun _ _ _ early late => late.trans early) (step.changes keeps).keeps
  dimensions := ((step.changes keeps).dimensions late).trans reserved.dimensions

theorem Measured.step (measured : Measured events p) (step : p.Step act answer p') (keeps : act.KeepsBuffers)
    (complete : ∀ call ∈ p'.calls, call.Complete) : Measured (events ++ [⟨p, act, answer, p'⟩]) p' := by
  refine ⟨(step.changes keeps).shaped measured.shaped, step.writes measured.writes, fun late => ?_⟩
  by_cases here : act = .allocate
  · subst here
    cases step with
    | edited only => cases only
    | refused fault reaches => exact absurd rfl reaches
    | unallocated => exact absurd rfl late
    | allocated storage memory =>
      have each : storage.length = (descriptions p.graph).length :=
        complete (.allocate (descriptions p.graph) (.ok storage)) (List.mem_append_right _ List.mem_cons_self)
      refine ⟨_, (latest_concat allocated events _).trans (if_pos rfl), Event.calls_eq rfl, ?_, .refl .refl _, rfl⟩
      rw [each, descriptions, List.length_map]
  · obtain ⟨storage, before, quiet⟩ := step.keeps_storage here
    obtain ⟨allocation, last, reserved⟩ := measured.reserved (before late)
    exact ⟨allocation, by simp [latest_concat, quiet, last], reserved.step step keeps (before late) storage⟩

theorem measured_history (a : Adapter σ) (memory : σ) (owner : Owner) (acts : List Action)
    (keeps : ∀ act ∈ acts, act.KeepsBuffers) :
    (∀ call ∈ ((watched a memory owner).play acts).calls, call.Complete) →
      Measured ((watched a memory owner).history acts) ((watched a memory owner).play acts) := by
  refine history_induction (a := a) Action.KeepsBuffers
    (motive := fun events p => (∀ call ∈ p.calls, call.Complete) → Measured events p) ?_ ?_ acts keeps
  · intro _
    exact ⟨Registry.shaped_empty owner, by simp [watched, create], fun late => absurd rfl late⟩
  · intro events p act answer p' keeps earlier step complete
    obtain ⟨new, grown⟩ := step.calls_grow
    have before : ∀ call ∈ p.calls, call.Complete := fun call member =>
      complete call (grown ▸ List.mem_append_left _ member)
    exact (earlier before).step step keeps complete

end Processor

structure Event.Holds (allocation : Event (Recorded σ)) (g : Graph) (id : BufferId) (b : Buffer)
    (d : DeviceBuffer) : Prop where
  held : g.buffer id = .ok b
  reserved : ∃ buffers handles, allocation.calls = [.allocate buffers (.ok handles)] ∧
    buffers[id.index]? = some (.ofBuffer b) ∧ handles[id.index]? = some d

namespace Processor

variable {events : List (Event (Recorded σ))} {p : Processor (Recorded σ)} {allocation : Event (Recorded σ)}

theorem Reserved.holds {id : BufferId} {b : Buffer} {d : DeviceBuffer} (reserved : Reserved allocation p)
    (held : p.graph.buffer id = .ok b) (stored : p.storage[id.index]? = some d) :
    allocation.Holds p.graph id b d := by
  refine ⟨held, _, _, reserved.calls, ?_, stored⟩
  have early : id.index < allocation.before.graph.registry.buffers.length := by
    rw [← reserved.each]
    exact (List.getElem?_eq_some_iff.mp stored).1
  obtain ⟨now, found, same⟩ := reserved.kept _ _ (List.getElem?_eq_getElem early)
  rw [(Registry.get_eq_ok.mp held).2] at found
  cases found
  rw [descriptions, List.getElem?_map, List.getElem?_eq_getElem early]
  exact congrArg some same.symm

theorem Measured.transfers {id : BufferId} {b : Buffer} {d : DeviceBuffer} (measured : Measured events p)
    (stored : p.requireStorage id = .ok d) (held : p.graph.buffer id = .ok b) :
    ∃ allocation, latest allocated events = some allocation ∧ allocation.Holds p.graph id b d ∧
      b.data.size = b.width.toNat * b.height.toNat * b.channels.toNat ∧
      (BufferDescription.ofBuffer b).size.toNat = b.data.size := by
  obtain ⟨late, -, place⟩ := stored_of_requireStorage stored
  obtain ⟨allocation, last, reserved⟩ := measured.reserved late
  have shaped := measured.shaped.buffers b (List.mem_of_getElem? (Registry.get_eq_ok.mp held).2)
  exact ⟨allocation, last, reserved.holds held place, shaped.length, shaped.size measured.shaped⟩

theorem Measured.launches {c : CompiledKernel} {l : Launch} (measured : Measured events p)
    (late : p.stage = .built ∨ p.stage = .ready) (member : c ∈ p.compiled)
    (planned : launch p.graph p.storage c = .ok l) :
    ∃ allocation, latest allocated events = some allocation ∧
      (1 ≤ l.width.toNat ∧ l.width.toNat ≤ 2147483647) ∧ (1 ≤ l.height.toNat ∧ l.height.toNat ≤ 2147483647) ∧
      (l.width, l.height) = allocation.before.graph.dimensions ∧
      (∀ b ∈ p.graph.registry.buffers, b.width = l.width ∧ b.height = l.height) ∧
      ∀ argument ∈ l.inputs ++ l.outputs, ∃ id b, allocation.Holds p.graph id b argument.2 := by
  obtain ⟨_, -, -, -, reads, writes, -, size⟩ := launch_eq_ok.mp planned
  obtain ⟨allocation, last, reserved⟩ := measured.reserved (by rcases late with h | h <;> simp [h])
  obtain ⟨width, height⟩ := Prod.mk.inj size
  have shaped := measured.shaped
  -- A kernel has an output, so there is a buffer, and the dimensions had to be set before it.
  have nonempty : p.graph.registry.buffers ≠ [] := by
    intro none
    cases outputs : c.outputs with
    | nil => exact measured.writes c member outputs
    | cons b rest =>
      have resolved := resolveBindings_eq_ok.mp writes
      rw [outputs] at resolved
      obtain ⟨_, _, ⟨-, known, -⟩, -, -⟩ := List.forall₂_cons_left_iff.mp resolved
      simp [Registry.contains, none] at known
  obtain ⟨wide, high⟩ := shaped.bounds nonempty
  refine ⟨allocation, last, width ▸ wide, height ▸ high, size.trans reserved.dimensions, fun b member => ?_,
    fun argument listed => ?_⟩
  · have shape := shaped.buffers b member
    exact ⟨shape.width.trans width.symm, shape.height.trans height.symm⟩
  · obtain ⟨b, known, place⟩ : ∃ b : Binding, p.graph.registry.contains b.buffer ∧
        p.storage[b.buffer.index]? = some argument.2 := by
      rcases List.mem_append.mp listed with input | output
      · obtain ⟨b, -, found⟩ := binding_of_argument reads argument input
        exact ⟨b, found⟩
      · obtain ⟨b, -, found⟩ := binding_of_argument writes argument output
        exact ⟨b, found⟩
    obtain ⟨buffer, held⟩ := Registry.exists_get.mpr known
    exact ⟨b.buffer, buffer, reserved.holds held place⟩

/-- Every transfer passes the length that its storage was reserved with, so that no check of it fails, every launch
has the dimensions of its buffers and of the latest allocation, and buffers keep their shapes. -/
theorem sizes_agree (a : Adapter σ) (memory : σ) (owner : Owner) (acts : List Action) (act : Action)
    (keeps : ∀ x ∈ act :: acts, x.KeepsBuffers)
    (complete : ∀ call ∈ ((watched a memory owner).play acts).calls, call.Complete) :
    let p := (watched a memory owner).play acts
    let events := (watched a memory owner).history acts
    let e := p.event act
    let Moves id d length := ∃ allocation b, latest allocated events = some allocation ∧
      allocation.Holds p.graph id b d ∧ length = b.width.toNat * b.height.toNat * b.channels.toNat ∧
      (BufferDescription.ofBuffer b).checkLength length = .ok ()
    (∀ d data answer, .upload d data answer ∈ e.calls → ∃ id, act = .upload id ∧ Moves id d data.size) ∧
    (∀ d length answer, .download d length answer ∈ e.calls → ∃ id, act = .download id ∧ Moves id d length) ∧
    (∀ l answer, .dispatch l answer ∈ e.calls → ∃ allocation, latest allocated events = some allocation ∧
      (1 ≤ l.width.toNat ∧ l.width.toNat ≤ 2147483647) ∧ (1 ≤ l.height.toNat ∧ l.height.toNat ≤ 2147483647) ∧
      (l.width, l.height) = allocation.before.graph.dimensions ∧
      (∀ b ∈ p.graph.registry.buffers, b.width = l.width ∧ b.height = l.height) ∧
      ∀ argument ∈ l.inputs ++ l.outputs, ∃ id b, allocation.Holds p.graph id b argument.2) ∧
    Kept Buffer.SameShape p.graph.registry.buffers e.after.graph.registry.buffers ∧
    (p.stage ≠ .created → e.after.graph.dimensions = p.graph.dimensions) := by
  intro p events e Moves
  obtain ⟨own, earlier⟩ := List.forall_mem_cons.mp keeps
  have measured : Measured events p := measured_history a memory owner acts earlier complete
  have step : p.Step act e.answer e.after := play_step a memory owner acts act
  have moves {id : BufferId} {d : DeviceBuffer} {b : Buffer} (stored : p.requireStorage id = .ok d)
      (held : p.graph.buffer id = .ok b) : Moves id d b.data.size := by
    obtain ⟨allocation, last, holds, length, size⟩ := measured.transfers stored held
    exact ⟨allocation, b, last, holds, length, if_pos size⟩
  obtain ⟨calls, grown⟩ := step.calls_grow
  have asks : ∀ call ∈ e.calls, p.Asks act call := by
    rw [Event.calls_eq (e := e) grown]
    exact step.asks grown
  refine ⟨fun d data answer made => ?_, fun d length answer made => ?_, fun l answer made => ?_,
    (step.changes own).keeps, (step.changes own).dimensions⟩
  · have asked := asks _ made
    generalize act = act at asked ⊢
    cases asked with
    | upload _ stored held => exact ⟨_, rfl, moves stored held⟩
  · have asked := asks _ made
    generalize act = act at asked ⊢
    cases asked with
    | download _ stored held => exact ⟨_, rfl, moves stored held⟩
  · cases asks _ made with
    | dispatch _ late member planned => exact measured.launches late member planned

def reshapes : List Action :=
  [.setDimensions 9 9, .setDimensions 2 3, .createBuffer "b" 2, .createKernel "k",
    .editKernel ⟨⟨0⟩, 0⟩ (.bindOutput "B" ⟨⟨0⟩, 0⟩), .editKernel ⟨⟨0⟩, 0⟩ (.setSource "__kernel"), .allocate,
    .setDimensions 1 1, .build, .createBuffer "c" 4, .editBuffer ⟨⟨0⟩, 0⟩ (.setData #[]), .allocate]

theorem sizes_agree_reshaped :
    let p := (watched (HostMemory.adapter .openCL) .twoKernels ⟨0⟩).play reshapes
    let l : Launch := ⟨"k", ⟨⟨0, 0⟩⟩, [], [("B", ⟨⟨0, 1⟩⟩)], [], 2, 3⟩
    (∀ x ∈ .run :: reshapes, x.KeepsBuffers) ∧ (∀ call ∈ p.calls, call.Complete) ∧
      (p.event .run).calls[0]? = some (.dispatch l (.ok ())) ∧
      ∃ allocation id b, latest allocated ((watched (HostMemory.adapter .openCL) .twoKernels ⟨0⟩).history reshapes) =
        some allocation ∧ allocation.Holds p.graph id b ⟨⟨0, 1⟩⟩ ∧ b.width = 2 ∧ b.height = 3 := by
  intro p l
  have keeps : ∀ x ∈ .run :: reshapes, x.KeepsBuffers := by decide +kernel
  have complete : ∀ call ∈ p.calls, call.Complete := by decide +kernel
  have made : (p.event .run).calls[0]? = some (.dispatch l (.ok ())) := by decide +kernel
  obtain ⟨-, -, launches, -⟩ :=
    sizes_agree (HostMemory.adapter .openCL) .twoKernels ⟨0⟩ reshapes .run keeps complete
  obtain ⟨allocation, last, -, -, -, same, bound⟩ := launches l (.ok ()) (List.mem_of_getElem? made)
  obtain ⟨id, b, holds⟩ := bound ("B", ⟨⟨0, 1⟩⟩) List.mem_cons_self
  obtain ⟨width, height⟩ := same b (List.mem_of_getElem? (Registry.get_eq_ok.mp holds.held).2)
  exact ⟨keeps, complete, made, allocation, id, b, last, holds, width, height⟩

end Processor

end PixelPipeline
