import PixelPipeline.Proofs.InPlace
import PixelPipeline.Proofs.Lineage
import PixelPipeline.Proofs.Sizes

namespace PixelPipeline

open Outcome

inductive GraphCall where
  | setDimensions (width height : UInt32)
  | createBuffer (name : String) (channels : UInt32)
  | createKernel (name : String)
  | editBuffer (id : BufferId) (edit : BufferEdit)
  | editKernel (id : KernelId) (edit : KernelEdit)
  | findBuffer (name : String)
  | findKernel (name : String)
  | readBuffer (id : BufferId)
  | readKernel (id : KernelId)
  | boilerplate (id : KernelId)

def Graph.attempt (g : Graph) : GraphCall → Except Error (Option Handle × Graph)
  | .setDimensions width height => (g.setDimensions width height).map (none, ·)
  | .createBuffer name channels => (g.createBuffer name channels).map fun (id, h) => (some (.buffer id), h)
  | .createKernel name => (g.createKernel name).map fun (id, h) => (some (.kernel id), h)
  | .editBuffer id edit => (g.modifyBuffer id edit.apply).map (none, ·)
  | .editKernel id edit => (g.modifyKernel id edit.apply).map (none, ·)
  | .findBuffer name => (g.bufferNamed name).map fun id => (some (.buffer id), g)
  | .findKernel name => (g.kernelNamed name).map fun id => (some (.kernel id), g)
  | .readBuffer id => (g.buffer id).map fun _ => (none, g)
  | .readKernel id => (g.kernel id).map fun _ => (none, g)
  | .boilerplate id => (g.boilerplate id).map fun _ => (none, g)

def InPlace.call : GraphCall → InPlace Graph (Option Handle)
  | .setDimensions width height => do
    setDimensions width height
    return none
  | .createBuffer name channels => do return some (.buffer (← registry (create name channels)))
  | .createKernel name => do return some (.kernel (← createKernel name))
  | .editBuffer id edit => do
    registry (atBuffer id (editBuffer edit))
    return none
  | .editKernel id edit => do
    atKernel id (editKernel edit)
    return none
  | .findBuffer name => do return some (.buffer (← require ((← get).bufferNamed name)))
  | .findKernel name => do return some (.kernel (← require ((← get).kernelNamed name)))
  | .readBuffer id => do
    let _ ← require ((← get).buffer id)
    return none
  | .readKernel id => do
    let _ ← require ((← get).kernel id)
    return none
  | .boilerplate id => do
    let _ ← require ((← get).boilerplate id)
    return none

namespace InPlace

theorem on_call (c : GraphCall) (g : Graph) : (call c).on g = settle g (g.attempt c) := by
  cases c with
  | setDimensions width height =>
    refine (on_map (on_setDimensions width height g) fun _ => none).trans ?_
    rw [Graph.attempt]
    cases g.setDimensions width height <;> rfl
  | createBuffer name channels =>
    refine (on_map (on_registry (on_create name channels g.registry)) fun id => some (Handle.buffer id)).trans ?_
    rw [Graph.attempt, Graph.createBuffer]
    cases g.registry.create name channels <;> rfl
  | createKernel name => exact on_map (on_createKernel name g) fun id => some (Handle.kernel id)
  | editBuffer id edit =>
    refine (on_map (on_registry (on_atBuffer (on_editBuffer edit) id g.registry)) fun _ => none).trans ?_
    rw [Graph.attempt, Graph.modifyBuffer]
    cases g.registry.modify id edit.apply <;> rfl
  | editKernel id edit =>
    refine (on_map (on_atKernel (on_editKernel edit) id g) fun _ => none).trans ?_
    rw [Graph.attempt]
    cases g.modifyKernel id edit.apply <;> rfl
  | findBuffer name => exact on_look (Graph.bufferNamed · name) fun id => some (Handle.buffer id)
  | findKernel name => exact on_look (Graph.kernelNamed · name) fun id => some (Handle.kernel id)
  | readBuffer id => exact on_look (Graph.buffer · id) fun _ => none
  | readKernel id => exact on_look (Graph.kernel · id) fun _ => none
  | boilerplate id => exact on_look (Graph.boilerplate · id) fun _ => none

end InPlace

/-- A graph with the handles that were answered when its buffers and kernels were created, in that order, each with
the name that was asked for. -/
structure Construction where
  graph : Graph
  buffers : List (BufferId × String)
  kernels : List (KernelId × String)

namespace Construction

def empty (environment : Environment) (owner : Owner) : Construction := ⟨.empty environment owner, [], []⟩

def note (c : Construction) : GraphCall → Option Handle → Construction
  | .createBuffer name _, some (.buffer id) => { c with buffers := c.buffers ++ [(id, name)] }
  | .createKernel name, some (.kernel id) => { c with kernels := c.kernels ++ [(id, name)] }
  | _, _ => c

def ask (c : Construction) (call : GraphCall) : Except Error (Option Handle) × Construction :=
  match (InPlace.call call).on c.graph with
  | (.ok handle, graph) => (.ok handle, { c.note call handle with graph })
  | (.error e, graph) => (.error e, { c with graph })

theorem ask_eq (c : Construction) (call : GraphCall) : c.ask call =
    match c.graph.attempt call with
    | .ok (handle, graph) => (.ok handle, { c.note call handle with graph })
    | .error e => (.error e, c) := by
  rw [ask, InPlace.on_call]
  cases c.graph.attempt call <;> rfl

def after (environment : Environment) (owner : Owner) (calls : List GraphCall) : Construction :=
  calls.foldl (fun c call => (c.ask call).2) (empty environment owner)

theorem after_concat (environment : Environment) (owner : Owner) (calls : List GraphCall) (call : GraphCall) :
    after environment owner (calls ++ [call]) = ((after environment owner calls).ask call).2 := List.foldl_concat ..

inductive Step (c : Construction) : Construction → Prop
  | kept : c.Step c
  | measured {width height : UInt32} (wide : width.toNat ≤ 2147483647) (high : height.toNat ≤ 2147483647)
      (none : c.graph.registry.buffers = []) :
      c.Step { c with graph := { c.graph with registry := { c.graph.registry with width, height } } }
  | buffer {name : String} {channels : UInt32} (set : c.graph.registry.width ≠ 0 ∧ c.graph.registry.height ≠ 0)
      (few : 1 ≤ channels.toNat ∧ channels.toNat ≤ 4) (new : name ∉ c.graph.bufferNames)
      (room : c.graph.registry.HasRoom channels) :
      c.Step
        { c with
          graph := { c.graph with registry := { c.graph.registry with buffers := c.graph.registry.buffers ++
            [.zeroed name c.graph.registry.width c.graph.registry.height channels] } }
          buffers := c.buffers ++ [(⟨c.graph.owner, c.graph.registry.buffers.length⟩, name)] }
  | kernel {name : String} (new : name ∉ c.graph.kernelNames) :
      c.Step
        { c with
          graph := { c.graph with kernels := c.graph.kernels ++ [.empty name c.graph.owner] }
          kernels := c.kernels ++ [(⟨c.graph.owner, c.graph.kernels.length⟩, name)] }
  | refilled {i : Nat} {b : Buffer} {data : Array Single} (known : c.graph.registry.buffers[i]? = some b)
      (length : data.size = b.data.size) :
      c.Step { c with graph := { c.graph with registry := { c.graph.registry with
        buffers := c.graph.registry.buffers.set i { b with data } } } }
  | edited {i : Nat} {k l : Kernel} (known : c.graph.kernels[i]? = some k) (name : l.name = k.name) :
      c.Step { c with graph := { c.graph with kernels := c.graph.kernels.set i l } }

theorem ask_made {c : Construction} {call : GraphCall} {handle : Option Handle} {g : Graph}
    (made : c.graph.attempt call = .ok (handle, g)) : (c.ask call).2 = { c.note call handle with graph := g } := by
  rw [ask_eq, made]

theorem ask_refused {c : Construction} {call : GraphCall} {e : Error} (refused : (c.ask call).1 = .error e) :
    (c.ask call).2 = c := by
  rw [ask_eq] at refused ⊢
  cases attempted : c.graph.attempt call with
  | error e => rfl
  | ok made => simp [attempted] at refused

theorem attempt_step {c : Construction} {call : GraphCall} {handle : Option Handle} {g : Graph}
    (made : c.graph.attempt call = .ok (handle, g)) : c.Step { c.note call handle with graph := g } := by
  cases call with
  | setDimensions width height =>
    obtain ⟨h, set, same⟩ := map_eq_ok.mp made
    cases same
    obtain ⟨wide, high, none, rfl⟩ := Graph.setDimensions_eq_ok.mp set
    exact .measured wide.2 high.2 none
  | createBuffer name channels =>
    obtain ⟨⟨id, h⟩, created, same⟩ := map_eq_ok.mp made
    cases same
    obtain ⟨set, few, new, room, rfl, rfl⟩ := Graph.createBuffer_eq_ok.mp created
    exact .buffer set few new room
  | createKernel name =>
    obtain ⟨⟨id, h⟩, created, same⟩ := map_eq_ok.mp made
    cases same
    obtain ⟨new, rfl, rfl⟩ := Graph.createKernel_eq_ok.mp created
    exact .kernel new
  | editBuffer id edit =>
    obtain ⟨h, changed, same⟩ := map_eq_ok.mp made
    cases same
    obtain ⟨b, b', held, edited, rfl⟩ := Graph.modifyBuffer_eq_ok.mp changed
    obtain ⟨data, length, rfl⟩ := edit.refills edited
    exact .refilled (Registry.get_eq_ok.mp held).2 length
  | editKernel id edit =>
    obtain ⟨h, changed, same⟩ := map_eq_ok.mp made
    cases same
    obtain ⟨k, l, held, edited, rfl⟩ := Graph.modifyKernel_eq_ok.mp changed
    exact .edited (Graph.kernel_eq_ok.mp held).2 (KernelEdit.grows edited).name
  | findBuffer | findKernel | readBuffer | readKernel | boilerplate =>
    obtain ⟨found, -, same⟩ := map_eq_ok.mp made
    cases same
    exact .kept

theorem ask_step (c : Construction) (call : GraphCall) : c.Step (c.ask call).2 := by
  rw [ask_eq]
  cases attempted : c.graph.attempt call with
  | error e => exact .kept
  | ok made => exact attempt_step attempted

section

variable {c d : Construction} {owner : Owner}

theorem Step.changes (step : c.Step d) : c.graph.registry.Changes True d.graph.registry := by
  cases step with
  | kept | kernel | edited => exact .kept
  | measured wide high none => exact .measured trivial wide high none
  | buffer set few => exact .added _ set few
  | refilled known length => exact .refilled known length

theorem Step.prefixes (step : c.Step d) : c.buffers <+: d.buffers ∧ c.kernels <+: d.kernels := by
  cases step with
  | buffer => exact ⟨List.prefix_append _ _, List.prefix_rfl⟩
  | kernel => exact ⟨List.prefix_rfl, List.prefix_append _ _⟩
  | kept | measured | refilled | edited => exact ⟨List.prefix_rfl, List.prefix_rfl⟩

theorem Step.dimensions (step : c.Step d) (some : c.graph.registry.buffers ≠ []) :
    d.graph.dimensions = c.graph.dimensions := by
  cases step with
  | measured wide high none => exact absurd none some
  | kept | buffer | kernel | refilled | edited => rfl

structure Sound (owner : Owner) (c : Construction) : Prop where
  own : c.graph.owner = owner
  buffers : c.buffers = c.graph.bufferNames.mapIdx fun i name => (⟨owner, i⟩, name)
  kernels : c.kernels = c.graph.kernelNames.mapIdx fun i name => (⟨owner, i⟩, name)
  buffersDistinct : c.graph.bufferNames.Nodup
  kernelsDistinct : c.graph.kernelNames.Nodup
  shaped : c.graph.registry.Shaped

theorem Sound.of_names (sound : c.Sound owner) (own : d.graph.owner = c.graph.owner)
    (answered : d.buffers = c.buffers ∧ d.kernels = c.kernels) (buffers : d.graph.bufferNames = c.graph.bufferNames)
    (kernels : d.graph.kernelNames = c.graph.kernelNames) (shaped : d.graph.registry.Shaped) : d.Sound owner where
  own := own.trans sound.own
  buffers := by rw [answered.1, buffers]; exact sound.buffers
  kernels := by rw [answered.2, kernels]; exact sound.kernels
  buffersDistinct := buffers ▸ sound.buffersDistinct
  kernelsDistinct := kernels ▸ sound.kernelsDistinct
  shaped

theorem Sound.step (sound : c.Sound owner) (step : c.Step d) : d.Sound owner := by
  have shaped := step.changes.shaped sound.shaped
  cases step with
  | kept | measured => exact sound.of_names rfl ⟨rfl, rfl⟩ rfl rfl shaped
  | refilled known => exact sound.of_names rfl ⟨rfl, rfl⟩ (map_set_of_same known rfl) rfl shaped
  | edited known name => exact sound.of_names rfl ⟨rfl, rfl⟩ rfl (map_set_of_same known name) shaped
  | @buffer name channels set few new =>
    obtain ⟨rfl, buffers, kernels, buffersDistinct, kernelsDistinct, -⟩ := sound
    refine ⟨rfl, ?_, kernels, ?_, kernelsDistinct, shaped⟩
    all_goals simp only [Graph.bufferNames, List.map_append, List.map_singleton, Buffer.zeroed]
    · rw [List.mapIdx_concat, buffers, List.length_map]
      rfl
    · exact List.concat_eq_append ▸ buffersDistinct.concat new
  | @kernel name new =>
    obtain ⟨rfl, buffers, kernels, buffersDistinct, kernelsDistinct, -⟩ := sound
    refine ⟨rfl, buffers, ?_, buffersDistinct, ?_, shaped⟩
    all_goals simp only [Graph.kernelNames, List.map_append, List.map_singleton, Kernel.empty]
    · rw [List.mapIdx_concat, kernels, List.length_map]
      rfl
    · exact List.concat_eq_append ▸ kernelsDistinct.concat new

theorem sound_after (environment : Environment) (owner : Owner) (calls : List GraphCall) :
    (after environment owner calls).Sound owner := by
  induction calls using List.reverseRecOn with
  | nil => exact ⟨rfl, rfl, rfl, List.nodup_nil, List.nodup_nil, Registry.shaped_empty owner⟩
  | append_singleton calls call ih =>
    rw [after_concat]
    exact ih.step (ask_step _ call)

theorem findIdx?_of_nodup {names : List String} {i : Nat} {name : String} (distinct : names.Nodup)
    (known : names[i]? = some name) : names.findIdx? (· == name) = some i := by
  obtain ⟨early, rfl⟩ := List.getElem?_eq_some_iff.mp known
  refine List.findIdx?_eq_some_iff_getElem.mpr ⟨early, by simp, fun j before same => ?_⟩
  have same : names[j] = names[i] := by simpa using same
  exact absurd ((distinct.getElem_inj_iff).mp same) (Nat.ne_of_lt before)

theorem Sound.buffer (sound : c.Sound owner) {i : Nat} {id : BufferId} {name : String}
    (created : c.buffers[i]? = some (id, name)) :
    id = ⟨owner, i⟩ ∧ c.graph.nameAt (.buffer id) = .ok name ∧ c.graph.bufferNamed name = .ok id := by
  rw [sound.buffers, List.getElem?_mapIdx, Option.map_eq_some_iff] at created
  obtain ⟨_, known, same⟩ := created
  cases same
  have place : c.graph.registry.buffers.findIdx? (·.name == name) = some i :=
    List.findIdx?_map.symm.trans (findIdx?_of_nodup sound.buffersDistinct known)
  refine ⟨rfl, Graph.nameAt_buffer_eq_ok.mpr ⟨sound.own.symm, known⟩, ?_⟩
  rw [Graph.bufferNamed, Registry.idOf, place, ← sound.own]
  rfl

theorem Sound.kernel (sound : c.Sound owner) {i : Nat} {id : KernelId} {name : String}
    (created : c.kernels[i]? = some (id, name)) :
    id = ⟨owner, i⟩ ∧ c.graph.nameAt (.kernel id) = .ok name ∧ c.graph.kernelNamed name = .ok id := by
  rw [sound.kernels, List.getElem?_mapIdx, Option.map_eq_some_iff] at created
  obtain ⟨_, known, same⟩ := created
  cases same
  have place : c.graph.kernels.findIdx? (·.name == name) = some i :=
    List.findIdx?_map.symm.trans (findIdx?_of_nodup sound.kernelsDistinct known)
  refine ⟨rfl, Graph.nameAt_kernel_eq_ok.mpr ⟨sound.own.symm, known⟩, ?_⟩
  rw [Graph.kernelNamed, place, ← sound.own]

theorem Sound.length (sound : c.Sound owner) : c.buffers.length = c.graph.registry.buffers.length ∧
    c.kernels.length = c.graph.kernels.length := by
  rw [sound.buffers, sound.kernels]
  simp [Graph.bufferNames, Graph.kernelNames]

theorem since (environment : Environment) (first rest : List GraphCall) :
    let c := after environment owner first
    let d := after environment owner (first ++ rest)
    c.buffers <+: d.buffers ∧ c.kernels <+: d.kernels ∧
      (c.buffers ≠ [] → d.graph.dimensions = c.graph.dimensions) := by
  induction rest using List.reverseRecOn with
  | nil =>
    rw [List.append_nil]
    exact ⟨List.prefix_rfl, List.prefix_rfl, fun _ => rfl⟩
  | append_singleton rest call ih =>
    rw [← List.append_assoc, after_concat]
    obtain ⟨buffers, kernels, dimensions⟩ := ih
    have step := ask_step (after environment owner (first ++ rest)) call
    refine ⟨buffers.trans step.prefixes.1, kernels.trans step.prefixes.2, fun some => ?_⟩
    have more := buffers.ne_nil some
    rw [← List.length_pos_iff, (sound_after environment owner (first ++ rest)).length.1, List.length_pos_iff] at more
    exact (step.dimensions more).trans (dimensions some)

end

/-- Names are distinct, handles are places in the order of creation and lead to what they were answered for, by name
too, buffers have the dimensions of the graph and contents of that size, the dimensions are fixed by the first
buffer, and a call that fails changes nothing. -/
theorem keeps_places (environment : Environment) (owner : Owner) (calls : List GraphCall) :
    let c := after environment owner calls
    (c.graph.bufferNames.Nodup ∧ c.graph.kernelNames.Nodup) ∧
    (c.buffers.length = c.graph.registry.buffers.length ∧ c.kernels.length = c.graph.kernels.length) ∧
    (∀ i id name, c.buffers[i]? = some (id, name) →
      id = ⟨owner, i⟩ ∧ c.graph.nameAt (.buffer id) = .ok name ∧ c.graph.bufferNamed name = .ok id) ∧
    (∀ i id name, c.kernels[i]? = some (id, name) →
      id = ⟨owner, i⟩ ∧ c.graph.nameAt (.kernel id) = .ok name ∧ c.graph.kernelNamed name = .ok id) ∧
    (∀ b ∈ c.graph.registry.buffers, (b.width, b.height) = c.graph.dimensions ∧
      (1 ≤ b.width.toNat ∧ b.width.toNat ≤ 2147483647) ∧ (1 ≤ b.height.toNat ∧ b.height.toNat ≤ 2147483647) ∧
      (1 ≤ b.channels.toNat ∧ b.channels.toNat ≤ 4) ∧
      b.data.size = b.width.toNat * b.height.toNat * b.channels.toNat) ∧
    (∀ later, let d := after environment owner (calls ++ later)
      c.buffers <+: d.buffers ∧ c.kernels <+: d.kernels ∧
        (c.buffers ≠ [] → d.graph.dimensions = c.graph.dimensions)) ∧
    ∀ call e, (c.ask call).1 = .error e → (c.ask call).2 = c := by
  intro c
  have sound : c.Sound owner := sound_after environment owner calls
  refine ⟨⟨sound.buffersDistinct, sound.kernelsDistinct⟩, sound.length, fun _ _ _ => sound.buffer,
    fun _ _ _ => sound.kernel, fun b member => ?_, since environment calls, fun _ _ => ask_refused⟩
  obtain ⟨width, height, channels, length⟩ := sound.shaped.buffers b member
  obtain ⟨wide, high⟩ := sound.shaped.bounds (List.ne_nil_of_mem member)
  exact ⟨congrArg₂ Prod.mk width height, width ▸ wide, height ▸ high, channels, length⟩

end Construction

end PixelPipeline
