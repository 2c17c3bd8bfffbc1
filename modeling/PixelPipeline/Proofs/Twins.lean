import PixelPipeline.Proofs.Renaming

namespace PixelPipeline

/-- There are indices for all buffers, and for the programs of two builds at a time. -/
def Graph.Numbered (g : Graph) : Prop :=
  g.registry.buffers.length < UInt32.size ∧ 2 * g.kernels.length < UInt32.size

instance : DecidablePred Graph.Numbered := fun _ => inferInstanceAs (Decidable (_ ∧ _))

theorem exists_correspondence {α β γ : Type} [DecidableEq β] (value : α → γ) (look look' : β → Option γ)
    {xs : List α} {ds es : List β} (first : List.Forall₂ (fun x d => look d = some (value x)) xs ds)
    (second : List.Forall₂ (fun x e => look' e = some (value x)) xs es) (distinct : ds.Nodup) :
    ∃ f : β → β, es = ds.map f ∧ ∀ d ∈ ds, look' (f d) = look d := by
  induction first generalizing es with
  | nil =>
    cases second
    exact ⟨id, rfl, by simp⟩
  | @cons x d xs ds here rest ih =>
    cases second with
    | @cons _ e _ es there others =>
      obtain ⟨absent, distinct⟩ := List.nodup_cons.mp distinct
      obtain ⟨f, rfl, same⟩ := ih others distinct
      have kept : ∀ c ∈ ds, Function.update f d e c = f c := fun c member =>
        Function.update_of_ne (fun (equal : c = d) => absent (equal ▸ member)) _ _
      refine ⟨Function.update f d e, ?_, List.forall_mem_cons.mpr ⟨?_, fun c member => ?_⟩⟩
      · rw [List.map_cons, Function.update_self, List.map_congr_left kept]
      · rw [Function.update_self, here, there]
      · rw [kept c member, same c member]

def DeviceCall.usesStorage : DeviceCall → Bool
  | .dispatch .. | .upload .. | .download .. => true
  | .allocate .. | .compile .. | .release _ => false

structure Event.Alike (e f : Event (Recorded HostMemory)) : Prop where
  action : f.action = e.action
  answer : f.answer = e.answer
  graph : f.after.graph = e.after.graph
  stage : f.after.stage = e.after.stage
  calls : ∃ ρ : Renaming, f.before.storage = e.before.storage.map ρ.storage ∧
    f.before.compiled = e.before.compiled.map ρ.compiled ∧
    (e.before.storage.Nodup ∧ f.before.storage.Nodup) ∧ (e.before.programs.Nodup ∧ f.before.programs.Nodup) ∧
    f.calls.filter (·.usesStorage) = (e.calls.filter (·.usesStorage)).map ρ.call

namespace Processor

open PixelPipeline.HostMemory Outcome Event

variable {environment : Environment} {settings : HostMemory} {events events' : List (Event (Recorded HostMemory))}
  {p p' q q' : Processor (Recorded HostMemory)} {act : Action} {answer : Except Error Unit} {ρ : Renaming}

structure Settled (environment : Environment) (settings : HostMemory) (events : List (Event (Recorded HostMemory)))
    (p : Processor (Recorded HostMemory)) : Prop extends Hosted settings events p where
  recorded : p.adapter = (HostMemory.adapter environment).recorded
  initial : p.memory.memory.initial = settings.initial
  buffers : p.memory.memory.buffers.Stocked (p.storage.map (·.key))
  programs : p.memory.memory.programs.Stocked (p.programs.map (·.key))

theorem Settled.room (settled : Settled environment settings events p) : p.memory.memory.InRange :=
  ⟨settled.buffers.room.le, settled.programs.room.le⟩

theorem initial_of_play (environment : Environment) (settings : HostMemory) (owner : Owner) (acts : List Action) :
    ((watched (HostMemory.adapter environment) settings.initial owner).play acts).memory.memory.initial =
      settings.initial := by
  refine served_induction (a := HostMemory.adapter environment)
    (motive := fun _ p => p.memory.memory.initial = settings.initial) ?_ ?_ acts
  · rfl
  intro events p act answer p' earlier step leads
  exact (initial_of_leads leads).trans earlier

theorem settled_history (environment : Environment) (settings : HostMemory) (owner : Owner) (acts : List Action) :
    let start := watched (HostMemory.adapter environment) settings.initial owner
    (start.play acts).graph.Numbered → Settled environment settings (start.history acts) (start.play acts) := by
  intro start few
  have buffers := storage_in_use environment settings owner acts few.1
  have programs := (programs_in_use environment settings owner acts few.2).1
  exact {
    toHosted := hosted_history environment settings owner acts ⟨buffers.room.le, programs.room.le⟩
    recorded := play_adapter (p := start) rfl acts
    initial := initial_of_play environment settings owner acts
    buffers := buffers
    programs := programs }

theorem Settled.keeps_programs (settled : Settled environment settings events p)
    (settled' : Settled environment settings events' p') (step : p.Step act answer p')
    (leads : p.memory.Leads (HostMemory.adapter environment) p'.memory)
    (unbuilt : (⟨p, act, answer, p'⟩ : Event (Recorded HostMemory)).built = false) :
    ∀ program ∈ p'.programs, program ∈ p.programs →
      p'.memory.memory.programs.get? program.key = p.memory.memory.programs.get? program.key := by
  intro program later earlier
  obtain ⟨new, added, served⟩ := leads
  have there := (settled.programs.found program.key).mp (List.mem_map_of_mem earlier)
  obtain ⟨name, found⟩ := Option.isSome_iff_exists.mp there
  by_cases late : p'.stage = .built ∨ p'.stage = .ready
  · rw [found]
    exact step.keeps_programs served added settled'.room settled.sound unbuilt late found
  · have early : p'.stage = .created ∨ p'.stage = .allocated := by
      cases h : p'.stage <;> simp_all
    rw [Processor.programs, settled'.follows.compiled early] at later
    cases later

theorem Settled.of_build {e : Event (Recorded HostMemory)} (settled : Settled environment settings (events ++ [e]) p)
    (built : e.built) (late : p.stage = .built ∨ p.stage = .ready) :
    p.compiled = List.zipWith compiledEntry e.before.graph.kernelEntries p.programs ∧
      List.Forall₂ (fun entry program => p.memory.memory.programs.get? program.key = some entry.2.name)
        e.before.graph.kernelEntries p.programs := by
  obtain ⟨build, units, programs, made, loaded⟩ := settled.loaded late
  obtain rfl : e = build := by simpa [latest_concat, built] using made.last
  obtain rfl : p.programs = programs := by rw [Processor.programs, made.compiled, programs_compiled made.each]
  refine ⟨made.compiled.trans (made.assembled.compiled _), ?_⟩
  have assembled := made.assembled
  unfold Assembled at assembled
  generalize e.before.graph.kernelEntries = entries at assembled
  generalize p.programs = programs at loaded
  clear made
  induction assembled generalizing programs with
  | nil =>
    cases loaded
    exact .nil
  | cons first _ ih =>
    cases loaded with
    | cons here others =>
      obtain ⟨-, kernel, -⟩ := first
      exact .cons (kernel ▸ here) (ih _ others)

/-- Processors that differ in their handles alone, and whose devices hold the same under them. -/
structure Twins (ρ : Renaming) (p q : Processor (Recorded HostMemory)) : Prop where
  graph : q.graph = p.graph
  stage : q.stage = p.stage
  storage : q.storage = p.storage.map ρ.storage
  compiled : q.compiled = p.compiled.map ρ.compiled
  mirrors : ρ.Mirrors p.storage p.programs p.memory.memory q.memory.memory

/-- Both answer alike, remain twins, and make corresponding calls. -/
structure InStep (ρ : Renaming) (p q : Processor (Recorded HostMemory))
    (one other : Except Error Unit × Processor (Recorded HostMemory)) : Prop where
  answer : other.1 = one.1
  twins : Twins ρ one.2 other.2
  calls : ∃ calls, one.2.calls = p.calls ++ calls ∧ other.2.calls = q.calls ++ calls.map ρ.call

theorem Twins.refuse (twins : Twins ρ p q) (e : Error) : InStep ρ p q (.error e, p) (.error e, q) :=
  ⟨rfl, twins, [], by simp⟩

theorem Twins.onGraph (twins : Twins ρ p q) (change : Graph → Except Error (Unit × Graph)) :
    InStep ρ p q (p.onGraph change) (q.onGraph change) := by
  unfold Processor.onGraph
  rw [twins.graph]
  cases change p.graph with
  | error e => exact twins.refuse e
  | ok changed =>
    exact ⟨rfl, ⟨rfl, twins.stage, twins.storage, twins.compiled, twins.mirrors⟩, [], by simp [Processor.calls]⟩

theorem Twins.setDimensions (twins : Twins ρ p q) (width height : UInt32) :
    InStep ρ p q (p.setDimensions width height) (q.setDimensions width height) := by
  simp only [Processor.setDimensions, twins.stage]
  split
  · exact twins.onGraph _
  · exact twins.refuse _

theorem Twins.requireStorage (twins : Twins ρ p q) (id : BufferId) :
    q.requireStorage id = (p.requireStorage id).map ρ.storage :=
  requireStorage_rename twins.graph (by rw [twins.stage]) twins.storage id

section

variable (recorded : p.adapter = (HostMemory.adapter environment).recorded)
  (recorded' : q.adapter = (HostMemory.adapter environment).recorded)

include recorded recorded'

theorem Twins.run (twins : Twins ρ p q) : InStep ρ p q p.run q.run := by
  have loaded : ∀ c ∈ p.compiled, c.program ∈ p.programs := fun c member => List.mem_map_of_mem member
  obtain ⟨same, mirrors, calls, added, mirrored⟩ :=
    dispatchAll_mirrors environment p.graph loaded twins.mirrors
  simp only [Processor.run, twins.stage, twins.graph, twins.storage, twins.compiled, recorded, recorded']
  split
  · exact twins.refuse _
  · generalize dispatchAll _ _ p.storage _ _ = one at *
    generalize dispatchAll _ _ _ _ q.memory = other at *
    obtain ⟨answer, r⟩ := one
    obtain ⟨answer', s⟩ := other
    obtain rfl : answer' = answer := same
    cases answer' with
    | error e => exact ⟨rfl, ⟨rfl, rfl, rfl, rfl, mirrors⟩, calls, added, mirrored⟩
    | ok _ => exact ⟨rfl, ⟨rfl, rfl, rfl, rfl, mirrors⟩, calls, added, mirrored⟩

theorem Twins.upload (twins : Twins ρ p q) (id : BufferId) : InStep ρ p q (p.upload id) (q.upload id) := by
  have renamed := twins.requireStorage id
  cases stored : p.requireStorage id with
  | error e =>
    rw [stored] at renamed
    simp only [Processor.upload, stored, renamed, Except.map, bind, Except.bind]
    exact twins.refuse e
  | ok d =>
    rw [stored] at renamed
    cases held : p.graph.buffer id with
    | error e =>
      simp only [Processor.upload, stored, renamed, twins.graph, held, Except.map, bind, Except.bind]
      exact twins.refuse e
    | ok b =>
      obtain ⟨-, -, place⟩ := stored_of_requireStorage stored
      obtain ⟨same, mirrors⟩ := twins.mirrors.upload (List.mem_of_getElem? place) b.data
      rw [upload_eq recorded stored held, upload_eq recorded' renamed (twins.graph ▸ held)]
      refine ⟨same, ⟨twins.graph, twins.stage, twins.storage, twins.compiled, mirrors⟩, [_], rfl, ?_⟩
      exact congrArg (fun answer => q.calls ++ [.upload (ρ.storage d) b.data answer]) same

theorem Twins.download (twins : Twins ρ p q) (id : BufferId) : InStep ρ p q (p.download id) (q.download id) := by
  have renamed := twins.requireStorage id
  cases stored : p.requireStorage id with
  | error e =>
    rw [stored] at renamed
    simp only [Processor.download, stored, renamed, Except.map, bind, Except.bind]
    exact twins.refuse e
  | ok d =>
    rw [stored] at renamed
    cases held : p.graph.buffer id with
    | error e =>
      simp only [Processor.download, stored, renamed, twins.graph, held, Except.map, bind, Except.bind]
      exact twins.refuse e
    | ok b =>
      obtain ⟨-, -, place⟩ := stored_of_requireStorage stored
      obtain ⟨same, data, mirrors⟩ := twins.mirrors.download (List.mem_of_getElem? place) b.data.toVector
      rw [download_eq recorded stored held, download_eq recorded' renamed (twins.graph ▸ held)]
      refine ⟨same, ⟨?_, twins.stage, twins.storage, twins.compiled, mirrors⟩, [_], rfl, ?_⟩
      · simp only [twins.graph]
        exact congrArg (fun data : Vector Single b.data.size => { p.graph with registry := { p.graph.registry with
          buffers := p.graph.registry.buffers.set id.index { b with data := data.toArray } } }) data
      · exact congrArg₂ (fun answer (data : Vector Single b.data.size) =>
          q.calls ++ [.download (ρ.storage d) b.data.size (answer.map fun _ => data.toArray)]) same data

theorem Twins.perform (twins : Twins ρ p q) (unallocated : act ≠ .allocate) (unbuilt : act ≠ .build) :
    InStep ρ p q (p.perform act) (q.perform act) := by
  cases act with
  | allocate => exact absurd rfl unallocated
  | build => exact absurd rfl unbuilt
  | run => exact twins.run recorded recorded'
  | upload id => exact twins.upload recorded recorded' id
  | download id => exact twins.download recorded recorded' id
  | setDimensions width height => exact twins.setDimensions width height
  | createBuffer | createKernel | editBuffer | editKernel | replaceBuffer | replaceKernel =>
    simp only [Processor.perform, modifyBuffer]
    exact twins.onGraph _

end

theorem compileAll_alike (environment : Environment) (units : List SourceUnit) (done done' : List CompiledKernel)
    {r s : Recorded HostMemory} (same : s.memory.initial = r.memory.initial) :
    (compileAll (HostMemory.adapter environment).recorded done' units s).1.map (fun _ => ()) =
      (compileAll (HostMemory.adapter environment).recorded done units r).1.map (fun _ => ()) := by
  induction units generalizing done done' r s with
  | nil => rfl
  | cons u rest ih =>
    have log : s.memory.compileLog u.kernel.name u.source = r.memory.compileLog u.kernel.name u.source :=
      (congrArg (HostMemory.compileLog · u.kernel.name u.source) same :)
    cases logged : r.memory.compileLog u.kernel.name u.source with
    | some text =>
      have one := Adapter.recorded_compile (a := HostMemory.adapter environment) (compile_refused logged)
      have other := Adapter.recorded_compile (a := HostMemory.adapter environment) (compile_refused (log.trans logged))
      simp only [compileAll, one, other]
    | none =>
      obtain ⟨program, memory, made, initial⟩ := compile_accepted logged
      obtain ⟨program', memory', made', initial'⟩ := compile_accepted (log.trans logged)
      simp only [compileAll, Adapter.recorded_compile (a := HostMemory.adapter environment) made,
        Adapter.recorded_compile (a := HostMemory.adapter environment) made']
      exact ih _ _ (initial'.trans (same.trans initial.symm))

theorem build_rename (recorded : p.adapter = (HostMemory.adapter environment).recorded)
    (recorded' : q.adapter = (HostMemory.adapter environment).recorded)
    (graph : q.graph = p.graph) (early : q.stage = .created ↔ p.stage = .created)
    (stored : q.storage = p.storage.map ρ.storage) (same : q.memory.memory.initial = p.memory.memory.initial) :
    q.build.1 = p.build.1 := by
  have ready : q.prepareAll q.graph.kernelEntries = p.prepareAll p.graph.kernelEntries := by
    rw [prepareAll_rename graph early stored, graph]
  by_cases created : p.stage = .created
  · simp only [build, created, early.mpr created, ↓reduceIte]
  · have created' : ¬ q.stage = .created := fun there => created (early.mp there)
    cases made : p.prepareAll p.graph.kernelEntries with
    | error e => rw [build_unready created made, build_unready created' (ready.trans made)]
    | ok units =>
      have answers := compileAll_alike environment units [] [] same
      simp only [build, created, created', ↓reduceIte, made, ready, recorded, recorded']
      generalize compileAll _ _ units p.memory = one at *
      generalize compileAll _ _ units q.memory = other at *
      obtain ⟨answer, _⟩ := one
      obtain ⟨answer', _⟩ := other
      cases answer <;> cases answer' <;> simp_all [Except.map]

theorem Step.build_spares (step : p.Step .build answer p')
    (leads : p.memory.Leads (HostMemory.adapter environment) p'.memory) (d : DeviceBuffer) :
    p'.memory.memory.buffers.get? d.key = p.memory.memory.buffers.get? d.key := by
  obtain ⟨new, added, served⟩ := leads
  refine spared_of_serves served fun call member => ?_
  cases step.asks added call member <;> trivial

theorem Twins.of_build (graph : q.graph = p.graph) (stored : q.storage = p.storage.map ρ.storage)
    (mirrors : ρ.Mirrors p.storage [] p.memory.memory q.memory.memory)
    (one : p.Step .build (.ok ()) p') (leads : p.memory.Leads (HostMemory.adapter environment) p'.memory)
    (settled : Settled environment settings (events ++ [⟨p, .build, .ok (), p'⟩]) p')
    (other : q.Step .build (.ok ()) q') (leads' : q.memory.Leads (HostMemory.adapter environment) q'.memory)
    (settled' : Settled environment settings (events' ++ [⟨q, .build, .ok (), q'⟩]) q') :
    ∃ f, Twins ⟨ρ.storage, f⟩ p' q' := by
  have after {p p' : Processor (Recorded HostMemory)} (step : p.Step .build (.ok ()) p') :
      p'.graph = p.graph ∧ p'.stage = .built ∧ p'.storage = p.storage := by
    cases step with
    | edited only => cases only
    | built => exact ⟨rfl, rfl, rfl⟩
  obtain ⟨kept, stage, storage⟩ := after one
  obtain ⟨kept', stage', storage'⟩ := after other
  obtain ⟨compiled, names⟩ := settled.of_build rfl (.inl stage)
  obtain ⟨compiled', names'⟩ := settled'.of_build rfl (.inl stage')
  simp only [graph] at compiled' names'
  obtain ⟨f, renamed, loaded⟩ := exists_correspondence (fun entry : KernelId × Kernel => entry.2.name)
    (fun program : Program => p'.memory.memory.programs.get? program.key)
    (fun program : Program => q'.memory.memory.programs.get? program.key) names names'
    (settled.programs.nodup.of_map _)
  refine ⟨f, {
    graph := kept'.trans (graph.trans kept.symm)
    stage := stage'.trans stage.symm
    storage := by rw [storage', storage, stored]
    compiled := ?_
    mirrors := {
      settings := settled'.initial.trans settled.initial.symm
      contents := fun d member => ?_
      loaded := loaded
      distinct := storage ▸ mirrors.distinct } }⟩
  · rw [compiled', renamed, List.zipWith_map_right, compiled, List.map_zipWith]
    rfl
  · rw [other.build_spares leads', one.build_spares leads]
    exact mirrors.contents d (storage ▸ member)

theorem Twins.build (twins : Twins ρ p q) (settled : Settled environment settings events p)
    (settled' : Settled environment settings events' q)
    (one : p.Step .build answer p') (leads : p.memory.Leads (HostMemory.adapter environment) p'.memory)
    (after : Settled environment settings (events ++ [⟨p, .build, answer, p'⟩]) p')
    (other : q.Step .build answer q') (leads' : q.memory.Leads (HostMemory.adapter environment) q'.memory)
    (after' : Settled environment settings (events' ++ [⟨q, .build, answer, q'⟩]) q') : ∃ ρ, Twins ρ p' q' := by
  obtain ⟨graph, stage, storage, compiled, mirrors⟩ := twins
  cases answer with
  | ok _ =>
    have half : ρ.Mirrors p.storage [] p.memory.memory q.memory.memory :=
      ⟨mirrors.settings, mirrors.contents, by simp, mirrors.distinct⟩
    obtain ⟨f, twins⟩ := Twins.of_build graph storage half one leads after other leads' after'
    exact ⟨_, twins⟩
  | error e =>
    have programs := settled.keeps_programs after one leads rfl
    have programs' := settled'.keeps_programs after' other leads' rfl
    have buffers := one.build_spares leads
    have buffers' := other.build_spares leads'
    have settings := after'.initial.trans after.initial.symm
    obtain ⟨_, grown⟩ := one.calls_grow
    obtain ⟨_, grown'⟩ := other.calls_grow
    rw [(one.of_failed_build grown).1] at programs ⊢
    rw [(other.of_failed_build grown').1] at programs' ⊢
    refine ⟨ρ, graph, stage, storage, compiled, settings, fun d member => ?_, fun program member => ?_,
      mirrors.distinct⟩
    · exact (buffers' _).trans ((mirrors.contents d member).trans (buffers d).symm)
    · have renamed : ρ.program program ∈ q.programs := by
        rw [Processor.programs, compiled, List.map_map]
        obtain ⟨c, listed, rfl⟩ := List.mem_map.mp member
        exact List.mem_map_of_mem listed
      exact (programs' _ renamed renamed).trans ((mirrors.loaded program member).trans
        (programs program member member).symm)

theorem Step.allocate_answer (step : p.Step .allocate answer p')
    (leads : p.memory.Leads (HostMemory.adapter environment) p'.memory) :
    answer = if p.memory.memory.failAllocate then .error (.device "out of device memory") else .ok () := by
  cases step with
  | edited only => cases only
  | refused _ reaches => exact absurd rfl reaches
  | allocated | unallocated =>
    obtain ⟨_, first, -⟩ := Adapter.Serves.cons_iff.mp (leads.serves rfl)
    rcases allocate_of_answers first with ⟨fails, same, -⟩ | ⟨fails, same, -⟩ <;> cases same
    simp [fails]

theorem Settled.of_allocate (settled : Settled environment settings events p) (few : p.graph.Numbered)
    (step : p.Step .allocate (.ok ()) p') (leads : p.memory.Leads (HostMemory.adapter environment) p'.memory) :
    p' = { p with
      memory := p'.memory
      storage := p'.storage
      stage := if p.stage = .created then .allocated else p.stage } ∧
    p'.memory.memory.programs = p.memory.memory.programs ∧
    List.Forall₂ (fun b d => p'.memory.memory.buffers.get? d.key = some (.replicate b.size.toNat .zero))
      (settings.kept (descriptions p.graph)) p'.storage := by
  cases step with
  | edited only => cases only
  | allocated storage memory =>
    obtain ⟨_, first, rest⟩ := Adapter.Serves.cons_iff.mp (leads.serves rfl)
    obtain rfl := Adapter.Serves.nil_iff.mp rest
    have kept : p.memory.memory.kept (descriptions p.graph) = settings.kept (descriptions p.graph) :=
      (congrArg (HostMemory.kept · (descriptions p.graph)) settled.initial :)
    have indexed : (settings.kept (descriptions p.graph)).length < UInt32.size := by
      have all : (descriptions p.graph).length < UInt32.size := by
        rw [descriptions, List.length_map]
        exact few.1
      exact (settings.length_kept _).trans_lt all
    refine ⟨rfl, ?_, ?_⟩
    · have effect := (effect_of_answers first).1
      generalize memory.buffers = buffers at effect
      generalize memory.programs = programs at effect ⊢
      cases effect with
      | quiet same => cases same
      | allocated => rfl
    · rcases allocate_of_answers first with ⟨-, fails, -⟩ | ⟨-, answer, buffers⟩
      · cases fails
      · cases answer
        rw [kept] at buffers ⊢
        rw [buffers, List.forall₂_map_right_iff]
        exact (reserve_holds _ settled.buffers.drain (by simpa using indexed)).2

theorem Twins.of_allocate (graph : q.graph = p.graph) (compiled : q.compiled = p.compiled.map ρ.compiled)
    (mirrors : ρ.Mirrors [] p.programs p.memory.memory q.memory.memory)
    (stage : (if q.stage = .created then .allocated else q.stage) = if p.stage = .created then .allocated else p.stage)
    (few : p.graph.Numbered) (settled : Settled environment settings events p)
    (one : p.Step .allocate (.ok ()) p') (leads : p.memory.Leads (HostMemory.adapter environment) p'.memory)
    (settled' : Settled environment settings events' q)
    (other : q.Step .allocate (.ok ()) q') (leads' : q.memory.Leads (HostMemory.adapter environment) q'.memory)
    (distinct : p'.storage.Nodup) (distinct' : q'.storage.Nodup) : ∃ f, Twins ⟨f, ρ.program⟩ p' q' := by
  obtain ⟨same, programs, zeros⟩ := settled.of_allocate few one leads
  obtain ⟨same', programs', zeros'⟩ := settled'.of_allocate (graph ▸ few) other leads'
  rw [graph] at zeros'
  obtain ⟨f, renamed, contents⟩ := exists_correspondence (fun b : BufferDescription => .replicate b.size.toNat .zero)
    (fun d : DeviceBuffer => p'.memory.memory.buffers.get? d.key)
    (fun d : DeviceBuffer => q'.memory.memory.buffers.get? d.key) zeros zeros' distinct
  have settings : q'.memory.memory.initial = p'.memory.memory.initial := by
    rw [initial_of_leads leads, initial_of_leads leads', mirrors.settings]
  rw [same, same']
  refine ⟨f, graph, stage, renamed, compiled, settings, contents, fun program member => ?_, ?_⟩
  · rw [programs, programs']
    exact mirrors.loaded program member
  · rw [← renamed]
    exact distinct'

theorem Twins.allocate (twins : Twins ρ p q) (few : p.graph.Numbered) (settled : Settled environment settings events p)
    (one : p.Step .allocate answer p') (leads : p.memory.Leads (HostMemory.adapter environment) p'.memory)
    (settled' : Settled environment settings events' q)
    (other : q.Step .allocate answer q') (leads' : q.memory.Leads (HostMemory.adapter environment) q'.memory)
    (distinct : p'.storage.Nodup) (distinct' : q'.storage.Nodup) : ∃ ρ, Twins ρ p' q' := by
  obtain ⟨graph, stage, storage, compiled, mirrors⟩ := twins
  cases answer with
  | ok _ =>
    have half : ρ.Mirrors [] p.programs p.memory.memory q.memory.memory :=
      ⟨mirrors.settings, by simp, mirrors.loaded, by simp⟩
    obtain ⟨f, twins⟩ := Twins.of_allocate graph compiled half (by rw [stage]) few settled one leads settled' other
      leads' distinct distinct'
    exact ⟨_, twins⟩
  | error e =>
    have settings : q'.memory.memory.initial = p'.memory.memory.initial := by
      rw [initial_of_leads leads, initial_of_leads leads', mirrors.settings]
    cases one with
    | refused _ reaches => exact absurd rfl reaches
    | unallocated =>
      cases other with
      | refused _ reaches => exact absurd rfl reaches
      | unallocated => exact ⟨ρ, graph, rfl, rfl, rfl, settings, by simp, by simp [Processor.programs], by simp⟩

theorem Step.keeps_graph (step : p.Step act answer p') (handles : act = .allocate ∨ act = .build) :
    p'.graph = p.graph := by
  cases step with
  | edited only => rcases handles with rfl | rfl <;> cases only
  | downloaded => simp at handles
  | _ => rfl

theorem Step.numbered (step : p.Step act answer p') (few : p'.graph.Numbered) : p.graph.Numbered := by
  obtain ⟨-, buffers, kernels⟩ := step.graph_grows
  exact ⟨buffers.trans_lt few.1, (Nat.mul_le_mul_left 2 kernels).trans_lt few.2⟩

theorem usesStorage_call (ρ : Renaming) (call : DeviceCall) : (ρ.call call).usesStorage = call.usesStorage := by
  cases call <;> rfl

theorem Step.uses_none {new : List DeviceCall} (step : p.Step act answer p') (added : p'.calls = p.calls ++ new)
    (handles : act = .allocate ∨ act = .build) : new.filter (·.usesStorage) = [] := by
  refine List.filter_eq_nil_iff.mpr fun call member => ?_
  cases step.asks added call member with
  | allocate | compile | release => simp [DeviceCall.usesStorage]
  | dispatch | upload | download => simp at handles

theorem Twins.same_answer (twins : Twins ρ p q) (recorded : p.adapter = (HostMemory.adapter environment).recorded)
    (recorded' : q.adapter = (HostMemory.adapter environment).recorded) (handles : act = .allocate ∨ act = .build) :
    (q.perform act).1 = (p.perform act).1 := by
  rcases handles with rfl | rfl
  · have fails : q.memory.memory.failAllocate = p.memory.memory.failAllocate :=
      (congrArg HostMemory.failAllocate twins.mirrors.settings :)
    have one := (allocate_step recorded).allocate_answer (allocate_leads recorded)
    have other := (allocate_step recorded').allocate_answer (allocate_leads recorded')
    rw [fails] at other
    exact other.trans one.symm
  · exact build_rename recorded recorded' twins.graph (by rw [twins.stage]) twins.storage twins.mirrors.settings

theorem Twins.alike (twins : Twins ρ p q) (settled : Settled environment settings events p)
    (settled' : Settled environment settings events' q) {ρ' : Renaming}
    (later : Twins ρ' (p.perform act).2 (q.perform act).2) (answer : (q.perform act).1 = (p.perform act).1)
    (calls : (q.event act).calls.filter (·.usesStorage) = ((p.event act).calls.filter (·.usesStorage)).map ρ.call) :
    (p.event act).Alike (q.event act) where
  action := rfl
  answer := answer
  graph := later.graph
  stage := later.stage
  calls := ⟨ρ, twins.storage, twins.compiled,
    ⟨settled.buffers.nodup.of_map _, settled'.buffers.nodup.of_map _⟩,
    ⟨settled.programs.nodup.of_map _, settled'.programs.nodup.of_map _⟩, calls⟩

section

variable {start : Processor (Recorded HostMemory)} {owner : Owner}
  (new : start = watched (HostMemory.adapter environment) settings.initial owner)

include new

theorem settled_play (acts : List Action) (few : (start.play acts).graph.Numbered) :
    Settled environment settings (start.history acts) (start.play acts) :=
  new ▸ settled_history environment settings owner acts (new ▸ few)

theorem settled_perform (acts : List Action) (act : Action) (few : ((start.play acts).perform act).2.graph.Numbered) :
    Settled environment settings (start.history acts ++ [(start.play acts).event act])
      ((start.play acts).perform act).2 := by
  rw [← play_concat] at few ⊢
  rw [← history_concat]
  exact settled_play new _ few

theorem Twins.next {xs ys : List Action} (twins : Twins ρ (start.play xs) (start.play ys)) (act : Action)
    (few : ((start.play xs).perform act).2.graph.Numbered) :
    (∃ ρ, Twins ρ ((start.play xs).perform act).2 ((start.play ys).perform act).2) ∧
      ((start.play xs).event act).Alike ((start.play ys).event act) := by
  have after := settled_perform new xs act few
  have recorded (acts : List Action) : (start.play acts).adapter = (HostMemory.adapter environment).recorded :=
    play_adapter (new ▸ rfl) acts
  have one := perform_step (recorded xs) act
  have other := perform_step (recorded ys) act
  have leads := perform_leads (recorded xs) act
  have leads' := perform_leads (recorded ys) act
  have early := one.numbered few
  have settled := settled_play new xs early
  have settled' := settled_play new ys (twins.graph ▸ early)
  -- New handles come of two actions only, and those make no call that uses storage.
  by_cases handles : act = .allocate ∨ act = .build
  · have graph : ((start.play ys).perform act).2.graph = ((start.play xs).perform act).2.graph :=
      (other.keeps_graph handles).trans (twins.graph.trans (one.keeps_graph handles).symm)
    have after' := settled_perform new ys act (graph ▸ few)
    obtain ⟨calls, grown⟩ := one.calls_grow
    obtain ⟨calls', grown'⟩ := other.calls_grow
    have unused : ((start.play ys).event act).calls.filter (·.usesStorage) =
        (((start.play xs).event act).calls.filter (·.usesStorage)).map ρ.call := by
      rw [Event.calls_eq (e := (start.play xs).event act) grown, Event.calls_eq (e := (start.play ys).event act) grown',
        one.uses_none grown handles, other.uses_none grown' handles, List.map_nil]
    have answer := twins.same_answer (recorded xs) (recorded ys) handles
    obtain ⟨ρ', later⟩ : ∃ ρ, Twins ρ ((start.play xs).perform act).2 ((start.play ys).perform act).2 := by
      rw [answer] at other
      simp only [event, answer] at after'
      rcases handles with rfl | rfl
      · exact twins.allocate early settled one leads settled' other leads' (after.buffers.nodup.of_map _)
          (after'.buffers.nodup.of_map _)
      · exact twins.build settled settled' one leads after other leads' after'
    exact ⟨⟨ρ', later⟩, twins.alike settled settled' later answer unused⟩
  · have step := twins.perform (recorded xs) (recorded ys) (fun same => handles (.inl same))
      (fun same => handles (.inr same))
    obtain ⟨calls, grown, grown'⟩ := step.calls
    refine ⟨⟨ρ, step.twins⟩, twins.alike settled settled' step.twins step.answer ?_⟩
    rw [Event.calls_eq (e := (start.play xs).event act) grown, Event.calls_eq (e := (start.play ys).event act) grown',
      List.filter_map]
    refine congrArg (List.map ρ.call) (List.filter_congr fun call _ => ?_)
    exact usesStorage_call ρ call

theorem Twins.history {xs ys : List Action} (twins : Twins ρ (start.play xs) (start.play ys)) (rest : List Action)
    (few : ((start.play xs).play rest).graph.Numbered) :
    (∃ ρ, Twins ρ ((start.play xs).play rest) ((start.play ys).play rest)) ∧
      List.Forall₂ Event.Alike ((start.play xs).history rest) ((start.play ys).history rest) := by
  induction rest using List.reverseRecOn with
  | nil => exact ⟨⟨ρ, twins⟩, .nil⟩
  | append_singleton rest act ih =>
    simp only [play_concat, history_concat] at few ⊢
    have recorded : ((start.play xs).play rest).adapter = (HostMemory.adapter environment).recorded :=
      play_adapter (play_adapter (new ▸ rfl) xs) rest
    obtain ⟨⟨ρ', reached⟩, alike⟩ := ih ((perform_step recorded act).numbered few)
    simp only [← play_append] at reached few ⊢
    obtain ⟨later, last⟩ := Twins.next new reached act few
    exact ⟨later, List.rel_append alike (.cons last .nil)⟩

end

theorem build_again (recorded : p.adapter = (HostMemory.adapter environment).recorded) (built : p.build.1 = .ok ()) :
    p.build.2.build.1 = .ok () := by
  have step := build_step recorded
  have same := initial_of_leads (build_leads recorded)
  have adapter := step.adapter.trans recorded
  rw [built] at step
  generalize p.build.2 = q at *
  cases step with
  | edited only => cases only
  | built programs memory late =>
    exact (build_rename (ρ := ⟨id, id⟩) recorded adapter rfl (by simp [late]) (List.map_id _).symm same).trans built

theorem Twins.of_second_build (settled : Settled environment settings events p)
    (one : p.Step .build (.ok ()) q) (leads : p.memory.Leads (HostMemory.adapter environment) q.memory)
    (after : Settled environment settings (events ++ [⟨p, .build, .ok (), q⟩]) q)
    (other : q.Step .build (.ok ()) q') (leads' : q.memory.Leads (HostMemory.adapter environment) q'.memory)
    (after' : Settled environment settings (events' ++ [⟨q, .build, .ok (), q'⟩]) q') :
    ∃ f, Twins ⟨id, f⟩ q q' := by
  have storage : q.storage = p.storage := (one.keeps_storage (by simp)).1
  have half : Renaming.Mirrors ⟨id, id⟩ p.storage [] p.memory.memory q.memory.memory := {
    settings := after.initial.trans settled.initial.symm
    contents := fun d _ => one.build_spares leads d
    loaded := by simp
    distinct := by simpa using settled.buffers.nodup.of_map _ }
  exact Twins.of_build (one.keeps_graph (.inr rfl)) (by simpa using storage) half one leads after other leads' after'

theorem Twins.of_second_allocate (few : p.graph.Numbered) (settled : Settled environment settings events p)
    (one : p.Step .allocate (.ok ()) q) (leads : p.memory.Leads (HostMemory.adapter environment) q.memory)
    (after : Settled environment settings events' q) (other : q.Step .allocate (.ok ()) q')
    (leads' : q.memory.Leads (HostMemory.adapter environment) q'.memory) (distinct : q'.storage.Nodup) :
    ∃ f, Twins ⟨f, id⟩ q q' := by
  obtain ⟨same, programs, -⟩ := settled.of_allocate few one leads
  have half : Renaming.Mirrors ⟨id, id⟩ [] p.programs p.memory.memory q.memory.memory := {
    settings := after.initial.trans settled.initial.symm
    contents := by simp
    loaded := fun program _ => by simp [programs]
    distinct := by simp }
  have stage : q.stage = if p.stage = .created then .allocated else p.stage := by rw [same]
  have compiled : q.compiled = p.compiled.map (Renaming.compiled ⟨id, id⟩) := by
    rw [same]
    exact (List.map_id _).symm
  refine Twins.of_allocate (one.keeps_graph (.inl rfl)) compiled half ?_ few settled one leads after other leads'
    (after.buffers.nodup.of_map _) distinct
  rw [stage]
  by_cases created : p.stage = .created <;> simp [created]

def GoAlike (p q : Processor (Recorded HostMemory)) : Prop :=
  ∀ rest, (p.play rest).graph.Numbered → List.Forall₂ Event.Alike (p.history rest) (q.history rest)

theorem step_of_event (recorded : p.adapter = (HostMemory.adapter environment).recorded)
    (done : p.event act = ⟨p, act, answer, q⟩) :
    p.Step act answer q ∧ p.memory.Leads (HostMemory.adapter environment) q.memory := by
  obtain ⟨-, -, rfl, rfl⟩ := Event.mk.inj done
  exact ⟨perform_step recorded act, perform_leads recorded act⟩

section

variable {start : Processor (Recorded HostMemory)} {owner : Owner} {acts : List Action}
  (new : start = watched (HostMemory.adapter environment) settings.initial owner)

include new

theorem settled_of_event (done : (start.play acts).event act = ⟨start.play acts, act, answer, q⟩)
    (few : q.graph.Numbered) : start.play (acts ++ [act]) = q ∧
      Settled environment settings (start.history acts ++ [⟨start.play acts, act, answer, q⟩]) q := by
  obtain ⟨-, -, rfl, rfl⟩ := Event.mk.inj done
  exact ⟨play_concat _ _ _, settled_perform new acts act few⟩

structure Repeats (environment : Environment) (settings : HostMemory) (act : Action)
    (p q q' : Processor (Recorded HostMemory)) : Prop where
  first : p.Step act (.ok ()) q
  second : q.Step act (.ok ()) q'
  leads : p.memory.Leads (HostMemory.adapter environment) q.memory
  leads' : q.memory.Leads (HostMemory.adapter environment) q'.memory
  few : q.graph.Numbered
  graph : q.graph = p.graph
  graph' : q'.graph = q.graph
  settled : ∃ events, Settled environment settings events p ∧
    Settled environment settings (events ++ [⟨p, act, .ok (), q⟩]) q ∧
    Settled environment settings (events ++ [⟨p, act, .ok (), q⟩] ++ [⟨q, act, .ok (), q'⟩]) q'
  alike : ∀ ρ, Twins ρ q q' → GoAlike q q'

theorem repeats (few : (start.play acts).graph.Numbered) (handles : act = .allocate ∨ act = .build)
    (once : (start.play acts).event act = ⟨start.play acts, act, .ok (), q⟩)
    (twice : q.event act = ⟨q, act, .ok (), q'⟩) : Repeats environment settings act (start.play acts) q q' := by
  have settled := settled_play new acts few
  obtain ⟨one, leads⟩ := step_of_event settled.recorded once
  have graph := one.keeps_graph handles
  obtain ⟨here, after⟩ := settled_of_event new once (graph ▸ few)
  obtain ⟨other, leads'⟩ := step_of_event after.recorded twice
  have graph' := other.keeps_graph handles
  have whole : start.history (acts ++ [act]) = start.history acts ++ [⟨start.play acts, act, .ok (), q⟩] := by
    rw [history_concat, once]
  rw [← here] at twice
  obtain ⟨there, after'⟩ := settled_of_event new twice (graph' ▸ graph ▸ few)
  rw [here, whole] at after'
  refine ⟨one, other, leads, leads', graph ▸ few, graph, graph', ⟨_, settled, after, after'⟩,
    fun ρ twins rest few => ?_⟩
  rw [← here, ← there] at twins ⊢
  exact (twins.history new rest (here ▸ few)).2

theorem Twins.of_built_twice (few : (start.play acts).graph.Numbered)
    (once : (start.play acts).event .build = ⟨start.play acts, .build, .ok (), q⟩)
    (twice : q.event .build = ⟨q, .build, .ok (), q'⟩) : (∃ f, Twins ⟨id, f⟩ q q') ∧
      q'.memory.memory.programs.size = q.memory.memory.programs.size ∧ GoAlike q q' := by
  have both := repeats new few (.inr rfl) once twice
  obtain ⟨events, settled, after, after'⟩ := both.settled
  obtain ⟨f, twins⟩ := Twins.of_second_build settled both.first both.leads after both.second both.leads' after'
  refine ⟨⟨f, twins⟩, ?_, both.alike _ twins⟩
  rw [after.programs.size, after'.programs.size]
  simp [Processor.programs, twins.compiled]

theorem Twins.of_allocated_twice (few : (start.play acts).graph.Numbered)
    (once : (start.play acts).event .allocate = ⟨start.play acts, .allocate, .ok (), q⟩)
    (twice : q.event .allocate = ⟨q, .allocate, .ok (), q'⟩) : (∃ f, Twins ⟨f, id⟩ q q') ∧
      q'.storage.Nodup ∧
      List.Forall₂ (fun b d => q'.memory.memory.buffers.get? d.key = some (.replicate b.size.toNat .zero))
        (settings.kept (descriptions q'.graph)) q'.storage ∧ GoAlike q q' := by
  have both := repeats new few (.inl rfl) once twice
  obtain ⟨events, settled, after, after'⟩ := both.settled
  have distinct : q'.storage.Nodup := after'.buffers.nodup.of_map _
  obtain ⟨f, twins⟩ := Twins.of_second_allocate few settled both.first both.leads after both.second both.leads' distinct
  have zeros := (after.of_allocate both.few both.second both.leads').2.2
  rw [← both.graph'] at zeros
  exact ⟨⟨f, twins⟩, distinct, zeros, both.alike _ twins⟩

end

theorem allocate_again (recorded : p.adapter = (HostMemory.adapter environment).recorded)
    (allocated : p.allocate.1 = .ok ()) : p.allocate.2.allocate.1 = .ok () := by
  have step := allocate_step recorded
  have adapter := step.adapter.trans recorded
  have fails : p.allocate.2.memory.memory.failAllocate = p.memory.memory.failAllocate :=
    (congrArg HostMemory.failAllocate (initial_of_leads (allocate_leads recorded)) :)
  rw [(allocate_step adapter).allocate_answer (allocate_leads adapter), fails,
    ← step.allocate_answer (allocate_leads recorded), allocated]

/-- What is allocated or built twice in a row is as it was the first time, up to the new handles, and whatever
follows goes as if it had been done once. -/
theorem build_allocate_idempotent (environment : Environment) (settings : HostMemory) (owner : Owner)
    (acts : List Action) :
    let p := (watched (HostMemory.adapter environment) settings.initial owner).play acts
    p.graph.Numbered →
      (∀ once, p.event .build = ⟨p, .build, .ok (), once⟩ → ∃ twice,
        once.event .build = ⟨once, .build, .ok (), twice⟩ ∧
        twice.graph = once.graph ∧ twice.stage = once.stage ∧ twice.storage = once.storage ∧
        (∃ f : Program → Program, twice.compiled = once.compiled.map fun c => { c with program := f c.program }) ∧
        twice.memory.memory.programs.size = once.memory.memory.programs.size ∧ GoAlike once twice) ∧
      (∀ once, p.event .allocate = ⟨p, .allocate, .ok (), once⟩ → ∃ twice,
        once.event .allocate = ⟨once, .allocate, .ok (), twice⟩ ∧
        twice.graph = once.graph ∧ twice.stage = once.stage ∧ twice.compiled = once.compiled ∧
        twice.storage.Nodup ∧
        (settings.truncate = none → List.Forall₂ (fun b d => twice.memory.memory.buffers.get? d.key =
          some (.replicate (BufferDescription.ofBuffer b).size.toNat .zero))
            twice.graph.registry.buffers twice.storage) ∧ GoAlike once twice) := by
  intro p few
  have recorded : p.adapter = (HostMemory.adapter environment).recorded :=
    play_adapter (p := watched (HostMemory.adapter environment) settings.initial owner) rfl acts
  refine ⟨fun once built => ?_, fun once allocated => ?_⟩
  · obtain ⟨-, -, answer, after⟩ := Event.mk.inj built
    have again : once.event .build = ⟨once, .build, .ok (), once.build.2⟩ := by
      rw [← after]
      exact congrArg (Event.mk _ _ · _) (build_again recorded answer)
    obtain ⟨⟨f, twins⟩, live, alike⟩ := Twins.of_built_twice rfl few built again
    exact ⟨_, again, twins.graph, twins.stage, twins.storage.trans (List.map_id _), ⟨f, twins.compiled⟩, live, alike⟩
  · obtain ⟨-, -, answer, after⟩ := Event.mk.inj allocated
    have again : once.event .allocate = ⟨once, .allocate, .ok (), once.allocate.2⟩ := by
      rw [← after]
      exact congrArg (Event.mk _ _ · _) (allocate_again recorded answer)
    obtain ⟨⟨f, twins⟩, distinct, zeros, alike⟩ := Twins.of_allocated_twice rfl few allocated again
    refine ⟨_, again, twins.graph, twins.stage, twins.compiled.trans (List.map_id _), distinct, fun all => ?_, alike⟩
    simp only [kept, all, descriptions, List.forall₂_map_left_iff] at zeros
    exact zeros

theorem build_allocate_idempotent_overwritten :
    let p := (watched (HostMemory.adapter .openCL) HostMemory.twoKernels.initial ⟨0⟩).play besides
    p.graph.Numbered ∧ p.event .build = ⟨p, .build, .ok (), p.build.2⟩ ∧
      p.event .allocate = ⟨p, .allocate, .ok (), p.allocate.2⟩ ∧
      p.build.2.build.2.compiled ≠ p.build.2.compiled ∧ p.allocate.2.allocate.2.storage ≠ p.allocate.2.storage ∧
      (∃ twice, p.build.2.event .build = ⟨p.build.2, .build, .ok (), twice⟩ ∧
        List.Forall₂ Event.Alike (p.build.2.history overwrites) (twice.history overwrites)) ∧
      ∃ twice, p.allocate.2.event .allocate = ⟨p.allocate.2, .allocate, .ok (), twice⟩ ∧
        List.Forall₂ Event.Alike (p.allocate.2.history overwrites) (twice.history overwrites) := by
  have few : ((watched (HostMemory.adapter .openCL) HostMemory.twoKernels.initial ⟨0⟩).play besides).graph.Numbered := by
    decide +kernel
  have built : ((watched (HostMemory.adapter .openCL) HostMemory.twoKernels.initial ⟨0⟩).play besides).build.1 =
      .ok () := by decide +kernel
  have allocated : ((watched (HostMemory.adapter .openCL) HostMemory.twoKernels.initial ⟨0⟩).play
      besides).allocate.1 = .ok () := by decide +kernel
  obtain ⟨builds, allocates⟩ := build_allocate_idempotent .openCL .twoKernels ⟨0⟩ besides few
  obtain ⟨rebuilt, again, -, -, -, -, -, alike⟩ := builds _ (congrArg (Event.mk _ _ · _) built)
  obtain ⟨reallocated, again', -, -, -, -, -, alike'⟩ := allocates _ (congrArg (Event.mk _ _ · _) allocated)
  exact ⟨few, congrArg (Event.mk _ _ · _) built, congrArg (Event.mk _ _ · _) allocated, by decide +kernel,
    by decide +kernel, ⟨rebuilt, again, alike overwrites (by decide +kernel)⟩,
    ⟨reallocated, again', alike' overwrites (by decide +kernel)⟩⟩

end Processor

end PixelPipeline
