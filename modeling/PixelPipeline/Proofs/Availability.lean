import PixelPipeline.Proofs.Snapshot

namespace PixelPipeline

open Outcome

variable {σ : Type}

def Event.allocates (e : Event σ) : Bool := e.allocated || e.unallocated

theorem Event.allocates_of_other {p p' : Processor σ} {act : Action} {answer : Except Error Unit}
    (other : act ≠ .allocate) : (⟨p, act, answer, p'⟩ : Event σ).allocates = false := by
  cases act with
  | allocate => exact absurd rfl other
  | _ => rfl

namespace Processor

open Event DeviceCall

/-- The processor holds the buffer, and its latest allocation succeeded and was of a graph that had the buffer. -/
structure Available (events : List (Event (Recorded σ))) (p : Processor (Recorded σ)) (id : BufferId) : Prop where
  late : p.stage ≠ .created
  held : p.graph.registry.contains id
  reserved : ∃ allocation, latest allocates events = some allocation ∧ allocation.answer = .ok () ∧
    allocation.before.graph.registry.contains id

/-- With what kind of error a transfer is refused: it comes too early, or the buffer is of another graph, or it has
no storage. -/
def refusal (p : Processor σ) (id : BufferId) : ErrorKind :=
  if p.stage = .created then .state else if p.graph.registry.contains id then .state else .notFound

section

variable {p : Processor σ} {id : BufferId} {e : Error}

def HasStorage (p : Processor σ) (id : BufferId) : Prop := ∃ d, p.requireStorage id = .ok d

theorem hasStorage_iff :
    p.HasStorage id ↔ p.stage ≠ .created ∧ p.graph.registry.contains id ∧ id.index < p.storage.length := by
  constructor
  · rintro ⟨d, stored⟩
    obtain ⟨late, held, place⟩ := stored_of_requireStorage stored
    exact ⟨late, held, (List.getElem?_eq_some_iff.mp place).1⟩
  · rintro ⟨late, held, early⟩
    refine ⟨p.storage[id.index], ?_⟩
    rw [requireStorage_late late]
    exact deviceBuffer_eq_ok.mpr ⟨held, List.getElem?_eq_getElem early⟩

theorem kind_of_requireStorage (refused : p.requireStorage id = .error e) : e.kind = p.refusal id := by
  by_cases early : p.stage = .created
  · rw [requireStorage, if_pos early] at refused
    cases refused
    rw [refusal, if_pos early]
    rfl
  · rw [requireStorage_late early, deviceBuffer_eq_error] at refused
    rw [refusal, if_neg early]
    rcases refused with ⟨absent, rfl⟩ | ⟨b, held, -, rfl⟩
    · rw [if_neg absent]
      rfl
    · rw [if_pos (Registry.exists_get.mp ⟨b, held⟩)]
      rfl

theorem transfers_unstored (refused : p.requireStorage id = .error e) :
    ∀ act ∈ [Action.upload id, .download id], p.perform act = (.error e, p) := by
  have up : p.upload id = (.error e, p) := by simp only [upload, refused, bind, Except.bind]
  have down : p.download id = (.error e, p) := by simp only [download, refused, bind, Except.bind]
  intro act which
  rcases List.mem_pair.mp which with rfl | rfl
  · exact up
  · exact down

end

variable {events : List (Event (Recorded σ))} {p p' : Processor (Recorded σ)} {act : Action}
  {answer : Except Error Unit} {id : BufferId}

theorem Step.keeps_held (step : p.Step act answer p') (held : p.graph.registry.contains id) :
    p'.graph.registry.contains id := by
  obtain ⟨own, early⟩ := Registry.contains_iff.mp held
  obtain ⟨owner, grown, -⟩ := step.graph_grows
  exact Registry.contains_iff.mpr ⟨own.trans owner.symm, early.trans_le grown⟩

theorem Step.storage_of_allocate (step : p.Step .allocate (.ok ()) p')
    (complete : ∀ call ∈ p'.calls, call.Complete) :
    p'.stage ≠ .created ∧ p'.compiled = p.compiled ∧ p'.storage.length = p.graph.registry.buffers.length := by
  cases step with
  | edited only => cases only
  | allocated storage memory =>
    have each : storage.length = (descriptions p.graph).length :=
      complete (.allocate (descriptions p.graph) (.ok storage)) (List.mem_append_right _ List.mem_cons_self)
    refine ⟨?_, rfl, each.trans (List.length_map _)⟩
    by_cases fresh : p.stage = .created <;> simp [fresh]

theorem Step.of_other (step : p.Step act answer p') (other : act ≠ .allocate) :
    p'.storage = p.storage ∧ (p'.stage = .created ↔ p.stage = .created) := by
  cases step with
  | allocated | unallocated => exact absurd rfl other
  | edited | refused | unbuilt | halted | uploaded | downloaded => exact ⟨rfl, Iff.rfl⟩
  | built programs memory late => exact ⟨rfl, by simp [late]⟩
  | ran memory late => exact ⟨rfl, by rcases late with h | h <;> simp [h]⟩

theorem Step.failed_allocation (step : p.Step .allocate answer p') (failed : answer ≠ .ok ()) :
    p'.stage = .created ∧ p'.compiled = [] := by
  cases step with
  | edited | allocated => exact absurd rfl failed
  | refused e reaches => exact absurd rfl reaches
  | unallocated => exact ⟨rfl, rfl⟩

theorem Step.hasStorage (step : p.Step act answer p') (complete : ∀ call ∈ p'.calls, call.Complete)
    (held : p.graph.registry.contains id)
    (quiet : (⟨p, act, answer, p'⟩ : Event (Recorded σ)).unallocated = false)
    (stored : p.HasStorage id ∨ (⟨p, act, answer, p'⟩ : Event (Recorded σ)).allocated) : p'.HasStorage id := by
  have still := step.keeps_held held
  by_cases here : act = .allocate
  · subst here
    cases answer with
    | error e => cases quiet
    | ok _ =>
      obtain ⟨late, -, each⟩ := step.storage_of_allocate complete
      exact hasStorage_iff.mpr ⟨late, still, each ▸ (Registry.contains_iff.mp held).2⟩
  · obtain ⟨same, stage⟩ := step.of_other here
    rcases stored with before | now
    · obtain ⟨late, -, early⟩ := hasStorage_iff.mp before
      exact hasStorage_iff.mpr ⟨mt stage.mp late, still, same ▸ early⟩
    · rw [(step.keeps_storage here).2.2] at now
      cases now

structure Backed (events : List (Event (Recorded σ))) (p : Processor (Recorded σ)) : Prop where
  storage : p.stage ≠ .created → ∃ allocation, latest allocates events = some allocation ∧
    allocation.answer = .ok () ∧ allocation.before.graph.owner = p.graph.owner ∧
    p.storage.length = allocation.before.graph.registry.buffers.length
  compiled : ∀ c ∈ p.compiled, ∀ b ∈ c.inputs ++ c.outputs, p.HasStorage b.buffer

theorem Backed.available_iff (backed : Backed events p) : Available events p id ↔ p.HasStorage id := by
  rw [hasStorage_iff]
  constructor
  · rintro ⟨late, held, allocation, last, -, known⟩
    obtain ⟨again, same, -, -, each⟩ := backed.storage late
    rw [last] at same
    cases same
    exact ⟨late, held, each ▸ (Registry.contains_iff.mp known).2⟩
  · rintro ⟨late, held, early⟩
    obtain ⟨allocation, last, done, owner, each⟩ := backed.storage late
    have own := (Registry.contains_iff.mp held).1
    exact ⟨late, held, allocation, last, done, Registry.contains_iff.mpr ⟨own.trans owner.symm, each ▸ early⟩⟩

theorem stored_of_prepareAll (late : p.stage ≠ .created) {units : List SourceUnit}
    (ready : p.prepareAll p.graph.kernelEntries = .ok units) :
    ∀ k ∈ p.graph.kernels, ∀ b ∈ k.inputs ++ k.outputs, p.HasStorage b.buffer := by
  intro k member b bound
  have complete : k.Ready p := (exists_prepareAll late).mp ⟨units, ready⟩ k member
  exact (exists_requireStorage late).mpr (complete.bindings b bound)

theorem Step.stored_of_compile {new : List DeviceCall} {kernel source : String} {result : Except Error Program}
    (step : p.Step .build answer p') (added : p'.calls = p.calls ++ new) (made : .compile kernel source result ∈ new) :
    ∀ k ∈ p.graph.kernels, ∀ b ∈ k.inputs ++ k.outputs, p.HasStorage b.buffer := by
  cases step with
  | edited only => cases only
  | refused =>
    obtain rfl := List.self_eq_append_right.mp added
    cases made
  | built programs memory late ready => exact stored_of_prepareAll late ready
  | unbuilt programs e memory late ready => exact stored_of_prepareAll late ready

theorem Step.compiled_stored (step : p.Step act answer p') (complete : ∀ call ∈ p'.calls, call.Complete)
    (stored : ∀ c ∈ p.compiled, ∀ b ∈ c.inputs ++ c.outputs, p.HasStorage b.buffer) :
    ∀ c ∈ p'.compiled, ∀ b ∈ c.inputs ++ c.outputs, p'.HasStorage b.buffer := by
  have kept (quiet : (⟨p, act, answer, p'⟩ : Event (Recorded σ)).unallocated = false) {b : Binding}
      (before : p.HasStorage b.buffer) : p'.HasStorage b.buffer :=
    step.hasStorage complete (hasStorage_iff.mp before).2.1 quiet (.inl before)
  cases step with
  | edited only =>
    exact fun c member b bound => kept (Idle.of_onGraph only).unallocated (stored c member b bound)
  | refused e reaches =>
    exact fun c member b bound => kept (Idle.of_error reaches).unallocated (stored c member b bound)
  | unallocated => exact fun c member => absurd member List.not_mem_nil
  | built programs memory late ready each =>
    intro c member b bound
    obtain ⟨k, listed, inputs, outputs⟩ := (assembled_of_prepareAll late ready).bindings_of_compiled member
    rw [inputs, outputs] at bound
    exact kept rfl (stored_of_prepareAll late ready k listed b bound)
  | allocated | unbuilt | ran | halted | uploaded | downloaded =>
    exact fun c member b bound => kept rfl (stored c member b bound)

theorem Backed.step (backed : Backed events p) (step : p.Step act answer p')
    (complete : ∀ call ∈ p'.calls, call.Complete) : Backed (events ++ [⟨p, act, answer, p'⟩]) p' := by
  refine ⟨fun late => ?_, step.compiled_stored complete backed.compiled⟩
  by_cases here : act = .allocate
  · subst here
    cases answer with
    | error e => exact absurd (step.failed_allocation (by simp)).1 late
    | ok _ =>
      refine ⟨_, (latest_concat allocates events _).trans (if_pos rfl), rfl, step.graph_grows.1.symm, ?_⟩
      exact (step.storage_of_allocate complete).2.2
  · obtain ⟨same, stage⟩ := step.of_other here
    obtain ⟨allocation, last, done, owner, each⟩ := backed.storage (mt stage.mpr late)
    refine ⟨allocation, ?_, done, owner.trans step.graph_grows.1.symm, same ▸ each⟩
    rw [latest_concat, allocates_of_other here]
    exact last

section

variable (a : Adapter σ) (memory : σ) (owner : Owner)

theorem backed_history (acts : List Action) :
    (∀ call ∈ ((watched a memory owner).play acts).calls, call.Complete) →
      Backed ((watched a memory owner).history acts) ((watched a memory owner).play acts) := by
  refine history_induction (a := a) (fun _ => True)
    (motive := fun events p => (∀ call ∈ p.calls, call.Complete) → Backed events p) ?_ ?_ acts fun _ _ => trivial
  · intro _
    exact ⟨fun late => absurd rfl late, fun c member => absurd member List.not_mem_nil⟩
  · intro events p act answer p' _ earlier step complete
    obtain ⟨new, grown⟩ := step.calls_grow
    have before : ∀ call ∈ p.calls, call.Complete := fun call member =>
      complete call (grown ▸ List.mem_append_left _ member)
    exact (earlier before).step step complete

theorem calls_since (first rest : List Action) : ∃ new, ((watched a memory owner).play (first ++ rest)).calls =
    ((watched a memory owner).play first).calls ++ new := by
  induction rest using List.reverseRecOn with
  | nil => exact ⟨[], by rw [List.append_nil, List.append_nil]⟩
  | append_singleton rest act ih =>
    obtain ⟨earlier, before⟩ := ih
    obtain ⟨new, grown⟩ := (play_step a memory owner (first ++ rest) act).calls_grow
    refine ⟨earlier ++ new, ?_⟩
    rw [← List.append_assoc, play_concat, grown, before, List.append_assoc]

theorem hasStorage_later (first rest : List Action)
    (complete : ∀ call ∈ ((watched a memory owner).play (first ++ rest)).calls, call.Complete)
    (held : ((watched a memory owner).play first).graph.registry.contains id) :
    let q := (watched a memory owner).play first
    let later := q.history rest
    let p := (watched a memory owner).play (first ++ rest)
    p.graph.registry.contains id ∧
      ((q.HasStorage id ∧ ∀ e ∈ later, e.unallocated = false) ∨ (∃ e ∈ sinceReset later, e.allocated) →
        p.HasStorage id) := by
  induction rest using List.reverseRecOn with
  | nil =>
    intro q later p
    have same : p = q := congrArg ((watched a memory owner).play) (List.append_nil first)
    rw [same]
    refine ⟨held, ?_⟩
    rintro (⟨stored, -⟩ | ⟨e, member, -⟩)
    · exact stored
    · cases member
  | append_singleton rest act ih =>
    intro q later p
    let r := (watched a memory owner).play (first ++ rest)
    let e := r.event act
    have last : p = e.after := by
      have split : first ++ (rest ++ [act]) = first ++ rest ++ [act] := (List.append_assoc ..).symm
      exact (congrArg ((watched a memory owner).play) split).trans (play_concat _ _ _)
    have history : later = q.history rest ++ [e] :=
      (q.history_concat rest act).trans (by rw [← play_append])
    have complete : ∀ call ∈ e.after.calls, call.Complete := last ▸ complete
    have step : r.Step act e.answer e.after := play_step a memory owner (first ++ rest) act
    obtain ⟨new, grown⟩ := step.calls_grow
    obtain ⟨known, earlier⟩ := ih fun call member => complete call (grown ▸ List.mem_append_left _ member)
    rw [last, history]
    refine ⟨step.keeps_held known, ?_⟩
    rintro (⟨stored, quiet⟩ | ⟨event, member, success⟩)
    · have stored := earlier (.inl ⟨stored, fun event member => quiet event (List.mem_append_left _ member)⟩)
      exact step.hasStorage complete known (quiet e (by simp)) (.inl stored)
    · rw [sinceReset_concat] at member
      cases quiet : e.unallocated with
      | true => simp [quiet] at member
      | false =>
        rw [if_neg (by simp [quiet])] at member
        refine step.hasStorage complete known quiet ?_
        rcases List.mem_append.mp member with before | now
        · exact .inl (earlier (.inr ⟨event, before, success⟩))
        · obtain rfl := List.mem_singleton.mp now
          exact .inr success

variable {a memory owner}

theorem hasStorage_of_calls (which : act ∈ [Action.upload id, .download id]) (made : (p.event act).calls ≠ []) :
    p.HasStorage id := by
  cases stored : p.requireStorage id with
  | ok d => exact ⟨d, stored⟩
  | error e =>
    have same := transfers_unstored stored act which
    exact absurd (Event.calls_of_same (congrArg (·.2) same)) made

theorem upload_reaches (recorded : p.adapter = a.recorded) : p.HasStorage id ↔ ∃ d b answer,
    p.graph.buffer id = .ok b ∧ (p.event (.upload id)).calls = [.upload d b.data answer] := by
  constructor
  · rintro ⟨d, stored⟩
    obtain ⟨b, held⟩ := Registry.exists_get.mpr (stored_of_requireStorage stored).2.1
    obtain ⟨answer, last, made⟩ := upload_stored recorded stored held
    exact ⟨d, b, answer, held, Event.calls_eq (congrArg (·.2.calls) made)⟩
  · rintro ⟨d, b, answer, -, made⟩
    exact hasStorage_of_calls (by simp) (made ▸ List.cons_ne_nil _ _)

theorem download_reaches (recorded : p.adapter = a.recorded) : p.HasStorage id ↔ ∃ d b answer,
    p.graph.buffer id = .ok b ∧ (p.event (.download id)).calls = [.download d b.data.size answer] := by
  constructor
  · rintro ⟨d, stored⟩
    obtain ⟨b, held⟩ := Registry.exists_get.mpr (stored_of_requireStorage stored).2.1
    obtain ⟨answer, data, last, made⟩ := download_stored recorded stored held
    exact ⟨d, b, _, held, Event.calls_eq (congrArg (·.2.calls) made)⟩
  · rintro ⟨d, b, answer, -, made⟩
    exact hasStorage_of_calls (by simp) (made ▸ List.cons_ne_nil _ _)

/-- A transfer reaches the device iff its buffer was in the graph at the latest allocation and that has not failed;
otherwise it is refused and changes nothing. Whatever is built is bound to such buffers alone. A buffer has its
storage until an allocation fails, and a late one has it from the next allocation that succeeds. -/
theorem storage_since_allocation (a : Adapter σ) (memory : σ) (owner : Owner) (acts : List Action)
    (complete : ∀ call ∈ ((watched a memory owner).play acts).calls, call.Complete) :
    let p := (watched a memory owner).play acts
    let events := (watched a memory owner).history acts
    (∀ id,
      (Available events p id ↔ ∃ d b answer,
        p.graph.buffer id = .ok b ∧ (p.event (.upload id)).calls = [.upload d b.data answer]) ∧
      (Available events p id ↔ ∃ d b answer,
        p.graph.buffer id = .ok b ∧ (p.event (.download id)).calls = [.download d b.data.size answer]) ∧
      (¬ Available events p id → ∀ act ∈ [Action.upload id, .download id],
        (p.event act).calls = [] ∧ (p.event act).after = p ∧
          ∃ fault, (p.event act).answer = .error fault ∧ fault.kind = p.refusal id)) ∧
    ((∃ kernel source answer, .compile kernel source answer ∈ (p.event .build).calls) →
      ∀ k ∈ p.graph.kernels, ∀ b ∈ k.inputs ++ k.outputs, Available events p b.buffer) ∧
    (p.stage = .built ∨ p.stage = .ready →
      ∀ c ∈ p.compiled, ∀ b ∈ c.inputs ++ c.outputs, Available events p b.buffer) ∧
    (∀ first rest, acts = first ++ rest → ∀ id,
      let q := (watched a memory owner).play first
      let later := q.history rest
      (Available ((watched a memory owner).history first) q id → (∀ e ∈ later, e.unallocated = false) →
        Available events p id) ∧
      (q.graph.registry.contains id → (∃ e ∈ sinceReset later, e.allocated) → Available events p id)) := by
  intro p events
  have recorded : p.adapter = a.recorded := play_adapter (p := watched a memory owner) rfl acts
  have backed : Backed events p := backed_history a memory owner acts complete
  simp only [backed.available_iff]
  refine ⟨fun id => ⟨upload_reaches recorded, download_reaches recorded, ?_⟩, ?_, ?_, ?_⟩
  · intro absent act which
    cases stored : p.requireStorage id with
    | ok d => exact absurd ⟨d, stored⟩ absent
    | error e =>
      have same := transfers_unstored stored act which
      exact ⟨Event.calls_of_same (congrArg (·.2) same), congrArg (·.2) same, e, congrArg (·.1) same,
        kind_of_requireStorage stored⟩
  · rintro ⟨kernel, source, result, made⟩
    have step : p.Step .build (p.event .build).answer (p.event .build).after := play_step a memory owner acts .build
    obtain ⟨new, grown⟩ := step.calls_grow
    rw [Event.calls_eq grown] at made
    exact step.stored_of_compile grown made
  · exact fun _ => backed.compiled
  · rintro first rest rfl id
    obtain ⟨new, grown⟩ := calls_since a memory owner first rest
    have before : Backed ((watched a memory owner).history first) ((watched a memory owner).play first) :=
      backed_history a memory owner first fun call member => complete call (grown ▸ List.mem_append_left _ member)
    rw [before.available_iff]
    constructor
    · intro stored quiet
      have known := (hasStorage_iff.mp stored).2.1
      exact (hasStorage_later a memory owner first rest complete known).2 (.inl ⟨stored, quiet⟩)
    · exact fun known gained => (hasStorage_later a memory owner first rest complete known).2 (.inr gained)

end

def reservesLate : List Action :=
  Action.twoKernels ++ [.build, .createBuffer "late" 1, .allocate]

theorem storage_since_allocation_late :
    let p := (watched (HostMemory.adapter .openCL) .twoKernels ⟨0⟩).play reservesLate
    let events := (watched (HostMemory.adapter .openCL) .twoKernels ⟨0⟩).history reservesLate
    (∀ call ∈ p.calls, call.Complete) ∧ p.stage = .built ∧ p.compiled.length = 2 ∧
      (∀ c ∈ p.compiled, ∀ b ∈ c.inputs ++ c.outputs, Available events p b.buffer) ∧
      Available events p ⟨⟨0⟩, 1⟩ ∧ ¬ Available events p ⟨⟨0⟩, 2⟩ ∧
      ∃ fault, (p.event (.upload ⟨⟨0⟩, 2⟩)).answer = .error fault ∧ fault.kind = .notFound := by
  intro p events
  have complete : ∀ call ∈ p.calls, call.Complete := by decide +kernel
  have stage : p.stage = .built := by decide +kernel
  obtain ⟨transfers, -, snapshot, since⟩ :=
    storage_since_allocation (HostMemory.adapter .openCL) .twoKernels ⟨0⟩ reservesLate complete
  have gained : Available events p ⟨⟨0⟩, 1⟩ := by
    refine (since (Action.twoKernels ++ [.build, .createBuffer "late" 1]) [.allocate] rfl ⟨⟨0⟩, 1⟩).2 ?_ ?_
    · decide +kernel
    · decide +kernel
  have absent : ¬ Available events p ⟨⟨0⟩, 2⟩ := by
    rintro ⟨-, held, -⟩
    revert held
    decide +kernel
  obtain ⟨-, -, fault, failed, kind⟩ := (transfers ⟨⟨0⟩, 2⟩).2.2 absent (.upload ⟨⟨0⟩, 2⟩) (by simp)
  refine ⟨complete, stage, by decide +kernel, snapshot (.inl stage), gained, absent, fault, failed, ?_⟩
  rw [kind]
  decide +kernel

end Processor

end PixelPipeline
