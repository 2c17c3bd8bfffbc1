import PixelPipeline.Proofs.LastBuild

namespace PixelPipeline

open Outcome Event

variable {σ : Type}

def DeviceCall.Complete : DeviceCall → Prop
  | .allocate buffers (.ok handles) => handles.length = buffers.length
  | _ => True

instance : DecidablePred DeviceCall.Complete
  | .allocate buffers (.ok handles) => inferInstanceAs (Decidable (handles.length = buffers.length))
  | .allocate _ (.error _) | .compile .. | .release _ | .dispatch .. | .upload .. | .download .. =>
    .isTrue trivial

/-- The argument of a binding: its name, and the handle that the allocation answered for its buffer. -/
def Binding.Resolves (g : Graph) (allocation : Event (Recorded σ)) (b : Binding)
    (argument : String × DeviceBuffer) : Prop :=
  argument.1 = b.name ∧ ∃ buffer buffers handles, g.buffer b.buffer = .ok buffer ∧
    allocation.calls = [.allocate buffers (.ok handles)] ∧
    buffers[b.buffer.index]? = some (.ofBuffer buffer) ∧ handles[b.buffer.index]? = some argument.2

/-- The launch of a kernel as it was built, with the handles of an allocation and the last values: those of the
integers that it declares, then those of the floats. -/
structure Launch.Replays (build allocation : Event (Recorded σ)) (events : List (Event (Recorded σ)))
    (dimensions : UInt32 × UInt32) (id : KernelId) (k : Kernel) (program : Program) (l : Launch) :
    Prop where
  name : l.kernel = k.name
  program : l.program = program
  inputs : List.Forall₂ (Binding.Resolves build.before.graph allocation) k.inputs l.inputs
  outputs : List.Forall₂ (Binding.Resolves build.before.graph allocation) k.outputs l.outputs
  parameters : List.Forall₂ (fun declared q => q.name = declared.name ∧
    q.value.type = declared.value.type ∧ lastValue events id declared.name = some q.value)
    (k.parameters.entries.filter (·.value.type = .int) ++ k.parameters.entries.filter (·.value.type = .float))
    l.parameters
  size : (l.width, l.height) = dimensions

theorem Graph.Grows.contains {g h : Graph} (grows : g.Grows h) {id : BufferId}
    (known : g.registry.contains id) : h.registry.contains id := by
  obtain ⟨b, held⟩ := Registry.exists_get.mpr known
  obtain ⟨own, found⟩ := Registry.get_eq_ok.mp held
  obtain ⟨c, later, -⟩ := grows.buffers id.index b found
  exact Registry.exists_get.mp ⟨c, Registry.get_eq_ok.mpr ⟨own.trans grows.owner.symm, later⟩⟩

namespace Processor

open DeviceCall

structure Stored (allocation : Event (Recorded σ)) (p : Processor (Recorded σ)) : Prop where
  calls : allocation.calls = [.allocate (descriptions allocation.before.graph) (.ok p.storage)]
  each : p.storage.length = allocation.before.graph.registry.buffers.length
  grows : allocation.before.graph.Grows p.graph

structure Compiled (build : Event (Recorded σ)) (units : List SourceUnit) (programs : List Program)
    (p : Processor (Recorded σ)) : Prop where
  assembled : build.before.Assembled units
  each : programs.length = units.length
  calls : build.calls = compiles units programs ++ releases build.before.compiled
  compiled : p.compiled = List.zipWith SourceUnit.compiled units programs
  grows : build.before.graph.Grows p.graph
  distinct : ∀ k ∈ build.before.graph.kernels, k.parameters.Distinct
  known : ∀ k ∈ build.before.graph.kernels, ∀ b ∈ k.inputs ++ k.outputs,
    build.before.graph.registry.contains b.buffer
  stored : ∀ k ∈ build.before.graph.kernels, ∀ b ∈ k.inputs ++ k.outputs,
    b.buffer.index < p.storage.length

structure Tracks (events : List (Event (Recorded σ))) (p : Processor (Recorded σ)) : Prop where
  valued : Valued events p.graph
  stored : p.stage ≠ .created → ∃ allocation, latest allocated events = some allocation ∧
    Stored allocation p
  compiled : p.stage = .built ∨ p.stage = .ready → ∃ build units programs,
    latest built events = some build ∧ Compiled build units programs p

section

variable {events : List (Event (Recorded σ))} {p p' : Processor (Recorded σ)}
  {e build allocation : Event (Recorded σ)} {units : List SourceUnit} {programs : List Program}

theorem Stored.kept (stored : Stored allocation p) (storage : p'.storage = p.storage)
    (grows : p.graph.Grows p'.graph) : Stored allocation p' :=
  ⟨storage ▸ stored.calls, storage ▸ stored.each, stored.grows.trans grows⟩

theorem Compiled.kept (compiled : Compiled build units programs p) (same : p'.compiled = p.compiled)
    (grows : p.graph.Grows p'.graph)
    (stored : ∀ k ∈ build.before.graph.kernels, ∀ b ∈ k.inputs ++ k.outputs,
      b.buffer.index < p'.storage.length) : Compiled build units programs p' where
  assembled := compiled.assembled
  each := compiled.each
  calls := compiled.calls
  compiled := same.trans compiled.compiled
  grows := compiled.grows.trans grows
  distinct := compiled.distinct
  known := compiled.known
  stored := stored

theorem Tracks.quiet (tracks : Tracks events p) (valued : Valued (events ++ [e]) p'.graph)
    (allocated : e.allocated = false) (built : e.built = false)
    (stage : p'.stage = p.stage ∨ (p.stage = .built ∨ p.stage = .ready) ∧ p'.stage = .ready)
    (storage : p'.storage = p.storage) (compiled : p'.compiled = p.compiled)
    (grows : p.graph.Grows p'.graph) : Tracks (events ++ [e]) p' := by
  refine ⟨valued, fun late => ?_, fun late => ?_⟩
  · have before : p.stage ≠ .created := by
      rcases stage with same | ⟨ready | ready, -⟩
      · rwa [same] at late
      · simp [ready]
      · simp [ready]
    obtain ⟨allocation, last, stored⟩ := tracks.stored before
    exact ⟨allocation, by simp [latest_concat, allocated, last], stored.kept storage grows⟩
  · have before : p.stage = .built ∨ p.stage = .ready := by
      rcases stage with same | ⟨ready, -⟩
      · rwa [same] at late
      · exact ready
    obtain ⟨build, units, programs, last, made⟩ := tracks.compiled before
    exact ⟨build, units, programs, by simp [latest_concat, built, last],
      made.kept compiled grows (storage ▸ made.stored)⟩

theorem Tracks.of_allocate {storage : List DeviceBuffer} (tracks : Tracks events p)
    (valued : Valued (events ++ [⟨p, .allocate, .ok (), p'⟩]) p'.graph) (graph : p'.graph = p.graph)
    (calls : p'.calls = p.calls ++ [.allocate (descriptions p.graph) (.ok storage)])
    (complete : storage.length = (descriptions p.graph).length) (new : p'.storage = storage)
    (compiled : p'.compiled = p.compiled)
    (stage : p'.stage = if p.stage = .created then .allocated else p.stage) :
    Tracks (events ++ [⟨p, .allocate, .ok (), p'⟩]) p' := by
  have room : storage.length = p.graph.registry.buffers.length := by
    rw [complete, descriptions, List.length_map]
  refine ⟨valued, fun _ => ?_, fun late => ?_⟩
  · refine ⟨⟨p, .allocate, .ok (), p'⟩, by simp [latest_concat, Event.allocated], ?_, ?_, ?_⟩
    · rw [new]
      exact Event.calls_eq calls
    · rw [new]
      exact room
    · rw [graph]
      exact .refl _
  · have before : p.stage = .built ∨ p.stage = .ready := by
      rw [stage] at late
      split at late
      · simp at late
      · exact late
    obtain ⟨build, units, programs, last, made⟩ := tracks.compiled before
    -- The buffers that the build is bound to are still in the graph, so the new storage covers them.
    refine ⟨build, units, programs, by simp [latest_concat, Event.built, last],
      made.kept compiled (graph ▸ .refl _) fun k member b bound => ?_⟩
    have held := made.grows.contains (made.known k member b bound)
    rw [new, room]
    exact (Registry.contains_iff.mp held).2

theorem Tracks.of_build (tracks : Tracks events p)
    (valued : Valued (events ++ [⟨p, .build, .ok (), p'⟩]) p'.graph) (late : p.stage ≠ .created)
    (ready : p.prepareAll p.graph.kernelEntries = .ok units) (each : programs.length = units.length)
    (calls : p'.calls = p.calls ++ (compiles units programs ++ releases p.compiled))
    (compiled : p'.compiled = List.zipWith SourceUnit.compiled units programs)
    (storage : p'.storage = p.storage) (graph : p'.graph = p.graph) :
    Tracks (events ++ [⟨p, .build, .ok (), p'⟩]) p' := by
  have complete : ∀ k ∈ p.graph.kernels, k.Ready p := (exists_prepareAll late).mp ⟨units, ready⟩
  refine ⟨valued, fun _ => ?_, fun _ => ?_⟩
  · obtain ⟨allocation, last, stored⟩ := tracks.stored late
    exact ⟨allocation, by simp [latest_concat, Event.allocated, last],
      stored.kept storage (graph ▸ .refl _)⟩
  · refine ⟨⟨p, .build, .ok (), p'⟩, units, programs, by simp [latest_concat, Event.built], ?_⟩
    exact {
      assembled := assembled_of_prepareAll late ready
      each := each
      calls := Event.calls_eq calls
      compiled := compiled
      grows := graph ▸ .refl _
      distinct := tracks.valued.distinct
      known := fun k member b bound => ((complete k member).bindings b bound).1
      stored := fun k member b bound => storage ▸ ((complete k member).bindings b bound).2 }

theorem Tracks.step {act : Action} {answer : Except Error Unit} (tracks : Tracks events p)
    (inPlace : act.EditsInPlace) (step : p.Step act answer p')
    (complete : ∀ call ∈ p'.calls, call.Complete) :
    Tracks (events ++ [⟨p, act, answer, p'⟩]) p' := by
  have valued := tracks.valued.step inPlace step
  have grows := step.grows inPlace
  cases step with
  | edited only changed _ =>
    exact tracks.quiet valued (Idle.of_onGraph only).allocated (Idle.of_onGraph only).built (.inl rfl)
      rfl rfl grows
  | refused fault reaches =>
    exact tracks.quiet valued (Idle.of_error reaches).allocated (Idle.of_error reaches).built (.inl rfl)
      rfl rfl grows
  | allocated storage memory =>
    have each : storage.length = (descriptions p.graph).length :=
      complete (.allocate (descriptions p.graph) (.ok storage))
        (List.mem_append_right _ List.mem_cons_self)
    exact tracks.of_allocate valued rfl rfl each rfl rfl rfl
  | unallocated => exact ⟨valued, fun late => absurd rfl late, by simp⟩
  | built programs memory late ready each => exact tracks.of_build valued late ready each rfl rfl rfl rfl
  | unbuilt | uploaded | downloaded => exact tracks.quiet valued rfl rfl (.inl rfl) rfl rfl grows
  | ran memory late dispatched => exact tracks.quiet valued rfl rfl (.inr ⟨late, rfl⟩) rfl rfl grows
  | halted fault memory late dispatched => exact tracks.quiet valued rfl rfl (.inl rfl) rfl rfl grows

theorem Stored.resolves {g : Graph} {b : Binding} (stored : Stored allocation p)
    (grows : g.Grows p.graph) (known : g.registry.contains b.buffer)
    (early : b.buffer.index < p.storage.length) :
    ∃ argument, (deviceBuffer p.graph p.storage b.buffer).map (b.name, ·) = .ok argument ∧
      b.Resolves g allocation argument := by
  have reached : deviceBuffer p.graph p.storage b.buffer = .ok p.storage[b.buffer.index] :=
    deviceBuffer_eq_ok.mpr ⟨grows.contains known, List.getElem?_eq_getElem early⟩
  -- The buffer that was bound and the one that was described both became the buffer of today.
  obtain ⟨buffer, held⟩ := Registry.exists_get.mpr known
  obtain ⟨now, present, same⟩ := grows.buffers _ _ (Registry.get_eq_ok.mp held).2
  have listed : b.buffer.index < allocation.before.graph.registry.buffers.length := stored.each ▸ early
  obtain ⟨again, found, shape⟩ := stored.grows.buffers _ _ (List.getElem?_eq_getElem listed)
  rw [present] at found
  cases found
  refine ⟨(b.name, p.storage[b.buffer.index]), by rw [reached]; rfl, rfl, buffer, _, _, held,
    stored.calls, ?_, List.getElem?_eq_getElem early⟩
  rw [descriptions, List.getElem?_map, List.getElem?_eq_getElem listed]
  exact congrArg some (shape.symm.trans same)

theorem Stored.resolves_all {g : Graph} {bindings : List Binding} (stored : Stored allocation p)
    (grows : g.Grows p.graph) (known : ∀ b ∈ bindings, g.registry.contains b.buffer)
    (early : ∀ b ∈ bindings, b.buffer.index < p.storage.length) :
    ∃ arguments, resolveBindings p.graph p.storage bindings = .ok arguments ∧
      List.Forall₂ (Binding.Resolves g allocation) bindings arguments := by
  rw [resolveBindings_eq_mapM]
  exact mapM_related fun b member => stored.resolves grows (known b member) (early b member)

theorem Compiled.launches {entry : KernelId × Kernel} (compiled : Compiled build units programs p)
    (stored : Stored allocation p) (valued : Valued events p.graph)
    (listed : entry ∈ build.before.graph.kernelEntries) (program : Program) :
    ∃ l, launch p.graph p.storage (compiledEntry entry program) = .ok l ∧
      l.Replays build allocation events p.graph.dimensions entry.1 entry.2 program := by
  obtain ⟨i, inside, rfl⟩ := List.mem_mapIdx.mp listed
  have member := List.getElem_mem inside
  obtain ⟨now, found, grown⟩ := compiled.grows.kernels i _ (List.getElem?_eq_getElem inside)
  have held : p.graph.kernel ⟨build.before.graph.owner, i⟩ = .ok now :=
    Graph.kernel_eq_ok.mpr ⟨compiled.grows.owner.symm, found⟩
  have known := compiled.known _ member
  have early := compiled.stored _ member
  obtain ⟨inputs, first, reads⟩ := stored.resolves_all compiled.grows
    (fun b bound => known b (List.mem_append_left _ bound))
    fun b bound => early b (List.mem_append_left _ bound)
  obtain ⟨outputs, second, writes⟩ := stored.resolves_all compiled.grows
    (fun b bound => known b (List.mem_append_right _ bound))
    fun b bound => early b (List.mem_append_right _ bound)
  obtain ⟨parameters, third, values⟩ := valued.resolves found (compiled.distinct _ member) grown
  rw [compiled.grows.owner] at values
  refine ⟨⟨now.name, program, inputs, outputs, parameters, p.graph.dimensions.1, p.graph.dimensions.2⟩,
    ?_, grown.name, rfl, reads, writes, values, rfl⟩
  simp only [launch, compiledEntry, bind_eq_ok]
  exact ⟨now, held, inputs, first, outputs, second, parameters, third, rfl⟩

theorem Compiled.plan (compiled : Compiled build units programs p) (stored : Stored allocation p)
    (valued : Valued events p.graph) :
    ∃ launches : List Launch, p.compiled.map (launch p.graph p.storage) = launches.map .ok ∧
      List.Forall₂ (fun entry l =>
        l.Replays build allocation events p.graph.dimensions entry.1.1 entry.1.2 entry.2)
        (build.before.graph.kernelEntries.zip programs) launches := by
  have each : ∀ entry ∈ build.before.graph.kernelEntries.zip programs,
      ∃ l, launch p.graph p.storage (compiledEntry entry.1 entry.2) = .ok l ∧
        l.Replays build allocation events p.graph.dimensions entry.1.1 entry.1.2 entry.2 :=
    fun entry member => compiled.launches stored valued (List.of_mem_zip member).1 entry.2
  obtain ⟨launches, planned, replays⟩ := mapM_related each
  refine ⟨launches, ?_, replays⟩
  rw [mapM_eq_ok] at planned
  rw [compiled.compiled, compiled.assembled.compiled, ← List.map_uncurry_zip_eq_zipWith, List.map_map,
    ← List.forall₂_eq_eq_eq, List.forall₂_map_left_iff, List.forall₂_map_right_iff]
  exact planned

end

end Processor

end PixelPipeline
