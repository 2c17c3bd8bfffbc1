import Mathlib.Data.List.Induction
import PixelPipeline.Device.HostMemory
import PixelPipeline.Proofs.Record

/-!
What can be done to a processor, and its history as actions follow each other. Main statement: an action
changes a processor over a recorded device in one of ten ways.
-/
namespace PixelPipeline

inductive KernelEdit where
  | bindInput (name : String) (buffer : BufferId)
  | bindOutput (name : String) (buffer : BufferId)
  | setParameter (p : Parameter)
  | setSource (source : String)

def KernelEdit.apply : KernelEdit → Kernel → Except Error Kernel
  | bindInput name buffer, k => k.bindInput name buffer
  | bindOutput name buffer, k => k.bindOutput name buffer
  | setParameter p, k => k.setParameter p
  | setSource source, k => .ok (k.setSource source)

inductive BufferEdit where
  | setData (data : Array Single)
  | overwrite (change : (n : Nat) → Vector Single n → Vector Single n)

def BufferEdit.apply : BufferEdit → Buffer → Except Error Buffer
  | setData data, b => b.setData data
  | overwrite change, b => .ok { b with data := (change b.data.size b.data.toVector).toArray }

inductive Action where
  | setDimensions (width height : UInt32)
  | createBuffer (name : String) (channels : UInt32)
  | createKernel (name : String)
  | editBuffer (id : BufferId) (edit : BufferEdit)
  | editKernel (id : KernelId) (edit : KernelEdit)
  | replaceBuffer (id : BufferId) (b : Buffer)
  | replaceKernel (id : KernelId) (k : Kernel)
  | allocate
  | build
  | run
  | upload (id : BufferId)
  | download (id : BufferId)

namespace Action

/-- Buffers and kernels are edited, none is replaced as a whole. -/
def EditsInPlace : Action → Prop
  | replaceBuffer .. | replaceKernel .. => False
  | _ => True

instance : DecidablePred EditsInPlace
  | replaceBuffer .. | replaceKernel .. => .isFalse id
  | setDimensions .. | createBuffer .. | createKernel _ | editBuffer .. | editKernel .. | allocate
  | build | run | upload _ | download _ => .isTrue trivial

/-- What an action does to the graph, if that is all that it does. -/
def onGraph? : Action → Option (Graph → Except Error Graph)
  | setDimensions width height => some (·.setDimensions width height)
  | createBuffer name channels => some fun g => (g.createBuffer name channels).map (·.2)
  | createKernel name => some fun g => (g.createKernel name).map (·.2)
  | editBuffer id edit => some (·.modifyBuffer id edit.apply)
  | editKernel id edit => some (·.modifyKernel id edit.apply)
  | replaceBuffer id b => some (·.modifyBuffer id fun _ => .ok b)
  | replaceKernel id k => some (·.modifyKernel id fun _ => .ok k)
  | _ => none

end Action

namespace Processor

variable {σ : Type}

def perform : Action → Operation σ Unit
  | .setDimensions width height => setDimensions width height
  | .createBuffer name channels => onGraph fun g => (g.createBuffer name channels).map fun r => ((), r.2)
  | .createKernel name => onGraph fun g => (g.createKernel name).map fun r => ((), r.2)
  | .editBuffer id edit => modifyBuffer id edit.apply
  | .editKernel id edit => onGraph fun g => (g.modifyKernel id edit.apply).map ((), ·)
  | .replaceBuffer id b => modifyBuffer id fun _ => .ok b
  | .replaceKernel id k => onGraph fun g => (g.modifyKernel id fun _ => .ok k).map ((), ·)
  | .allocate => allocate
  | .build => build
  | .run => run
  | .upload id => upload id
  | .download id => download id

def play (p : Processor σ) : List Action → Processor σ
  | [] => p
  | act :: rest => (p.perform act).2.play rest

end Processor

structure Event (σ : Type) where
  before : Processor σ
  action : Action
  answer : Except Error Unit
  after : Processor σ

namespace Processor

variable {σ : Type}

def event (p : Processor σ) (act : Action) : Event σ := ⟨p, act, (p.perform act).1, (p.perform act).2⟩

def history (p : Processor σ) : List Action → List (Event σ)
  | [] => []
  | act :: rest => p.event act :: (p.perform act).2.history rest

theorem play_append (p : Processor σ) (first rest : List Action) :
    p.play (first ++ rest) = (p.play first).play rest := by
  induction first generalizing p with
  | nil => rfl
  | cons act first ih => exact ih _

theorem history_append (p : Processor σ) (first rest : List Action) :
    p.history (first ++ rest) = p.history first ++ (p.play first).history rest := by
  induction first generalizing p with
  | nil => rfl
  | cons act first ih => exact congrArg (_ :: ·) (ih _)

theorem play_concat (p : Processor σ) (acts : List Action) (act : Action) :
    p.play (acts ++ [act]) = ((p.play acts).perform act).2 := play_append p acts [act]

theorem history_concat (p : Processor σ) (acts : List Action) (act : Action) :
    p.history (acts ++ [act]) = p.history acts ++ [(p.play acts).event act] := history_append p acts [act]

/-- A new processor over a device that keeps a record. -/
def watched (a : Adapter σ) (memory : σ) (owner : Owner) : Processor (Recorded σ) :=
  create a.recorded ⟨memory, []⟩ owner

/-- What the processor asked of its device so far. -/
def calls (p : Processor (Recorded σ)) : List DeviceCall := p.memory.calls

end Processor

def Event.calls {σ : Type} (e : Event (Recorded σ)) : List DeviceCall :=
  e.after.calls.drop e.before.calls.length

theorem Event.calls_eq {σ : Type} {e : Event (Recorded σ)} {new : List DeviceCall}
    (grown : e.after.calls = e.before.calls ++ new) : e.calls = new := by
  rw [Event.calls, grown, List.drop_left]

theorem Event.calls_of_same {σ : Type} {e : Event (Recorded σ)} (same : e.after = e.before) :
    e.calls = [] :=
  Event.calls_eq (by rw [same, List.append_nil])

namespace Processor

variable {σ : Type}

/-- What one action can do. -/
inductive Step (p : Processor (Recorded σ)) : Action → Except Error Unit → Processor (Recorded σ) → Prop
  | edited {act : Action} {edit : Graph → Except Error Graph} {graph : Graph}
      (only : act.onGraph? = some edit) (changed : edit p.graph = .ok graph)
      (early : ∀ width height, act = .setDimensions width height → p.stage = .created) :
      Step p act (.ok ()) { p with graph }
  | refused {act : Action} (e : Error) (reaches : act ≠ .allocate) : Step p act (.error e) p
  | allocated (storage : List DeviceBuffer) (memory : σ) :
      Step p .allocate (.ok ())
        { p with
          memory := ⟨memory, p.calls ++ [.allocate (descriptions p.graph) (.ok storage)]⟩
          storage
          stage := if p.stage = .created then .allocated else p.stage }
  | unallocated (e : Error) (memory : σ) :
      Step p .allocate (.error e)
        { p with
          memory := ⟨memory, p.calls ++
            .allocate (descriptions p.graph) (.error e) :: DeviceCall.releases p.compiled⟩
          storage := []
          compiled := []
          stage := .created }
  | built {units : List SourceUnit} (programs : List Program) (memory : σ)
      (late : p.stage ≠ .created) (ready : p.prepareAll p.graph.kernelEntries = .ok units)
      (each : programs.length = units.length) :
      Step p .build (.ok ())
        { p with
          memory := ⟨memory, p.calls ++
            (DeviceCall.compiles units programs ++ DeviceCall.releases p.compiled)⟩
          compiled := List.zipWith SourceUnit.compiled units programs
          stage := .built }
  | unbuilt {first : List SourceUnit} {u : SourceUnit} {rest : List SourceUnit}
      (programs : List Program) (e : Error) (memory : σ)
      (late : p.stage ≠ .created)
      (ready : p.prepareAll p.graph.kernelEntries = .ok (first ++ u :: rest))
      (each : programs.length = first.length) :
      Step p .build (.error e)
        { p with
          memory := ⟨memory, p.calls ++ (DeviceCall.compiles first programs ++
            .compile u.kernel.name u.source (.error e) ::
              DeviceCall.releases (List.zipWith SourceUnit.compiled first programs))⟩ }
  | ran {calls : List DeviceCall} (memory : σ)
      (late : p.stage = .built ∨ p.stage = .ready)
      (dispatched : Dispatches (p.compiled.map (launch p.graph p.storage)) calls (.ok ())) :
      Step p .run (.ok ()) { p with memory := ⟨memory, p.calls ++ calls⟩, stage := .ready }
  | halted {calls : List DeviceCall} (e : Error) (memory : σ)
      (late : p.stage = .built ∨ p.stage = .ready)
      (dispatched : Dispatches (p.compiled.map (launch p.graph p.storage)) calls (.error e)) :
      Step p .run (.error e) { p with memory := ⟨memory, p.calls ++ calls⟩ }
  | uploaded {id : BufferId} {d : DeviceBuffer} {b : Buffer} (answer : Except Error Unit) (memory : σ)
      (stored : p.requireStorage id = .ok d) (held : p.graph.buffer id = .ok b) :
      Step p (.upload id) answer
        { p with memory := ⟨memory, p.calls ++ [.upload d b.data answer]⟩ }
  | downloaded {id : BufferId} {d : DeviceBuffer} {b : Buffer} (answer : Except Error Unit)
      (data : Vector Single b.data.size) (memory : σ)
      (stored : p.requireStorage id = .ok d) (held : p.graph.buffer id = .ok b) :
      Step p (.download id) answer
        { p with
          memory := ⟨memory, p.calls ++ [.download d b.data.size (answer.map fun _ => data.toArray)]⟩
          graph := { p.graph with registry := { p.graph.registry with
            buffers := p.graph.registry.buffers.set id.index { b with data := data.toArray } } } }

section

variable {a : Adapter σ} {p : Processor (Recorded σ)}

theorem onGraph_step {act : Action} {edit : Graph → Except Error Graph}
    {change : Graph → Except Error (Unit × Graph)} (only : act.onGraph? = some edit)
    (same : change p.graph = (edit p.graph).map ((), ·)) (device : act ≠ .allocate)
    (early : ∀ width height, act = .setDimensions width height → p.stage = .created) :
    p.Step act (p.onGraph change).1 (p.onGraph change).2 := by
  cases h : edit p.graph with
  | error e =>
    simp only [onGraph, same, h, Except.map]
    exact .refused e device
  | ok g =>
    simp only [onGraph, same, h, Except.map]
    exact .edited only h early

theorem allocate_step (recorded : p.adapter = a.recorded) : p.Step .allocate p.allocate.1 p.allocate.2 := by
  obtain ⟨adapter, r, g, stage, storage, compiled⟩ := p
  subst recorded
  cases h : a.allocate (descriptions g) r.memory with
  | mk answer memory =>
    have call := Adapter.recorded_allocate h
    cases answer with
    | ok storage =>
      simp only [allocate, call]
      exact .allocated storage memory
    | error e =>
      simp only [allocate, call, releasePrograms, releaseAll_recorded, Recorded.note,
        List.append_assoc, List.singleton_append]
      exact .unallocated e _

theorem build_unready {e : Error} (late : p.stage ≠ .created)
    (unready : p.prepareAll p.graph.kernelEntries = .error e) : p.build = (.error e, p) := by
  simp only [build, late, ↓reduceIte, unready]

theorem build_ready {units : List SourceUnit} (recorded : p.adapter = a.recorded)
    (late : p.stage ≠ .created) (ready : p.prepareAll p.graph.kernelEntries = .ok units) :
    (∃ programs memory, programs.length = units.length ∧
      p.build = (.ok (), { p with
        memory := ⟨memory, p.calls ++
          (DeviceCall.compiles units programs ++ DeviceCall.releases p.compiled)⟩
        compiled := List.zipWith SourceUnit.compiled units programs
        stage := .built })) ∨
    ∃ first u rest programs e memory, units = first ++ u :: rest ∧ programs.length = first.length ∧
      p.build = (.error e, { p with
        memory := ⟨memory, p.calls ++ (DeviceCall.compiles first programs ++
          .compile u.kernel.name u.source (.error e) ::
            DeviceCall.releases (List.zipWith SourceUnit.compiled first programs))⟩ }) := by
  obtain ⟨adapter, r, g, stage, storage, compiled⟩ := p
  subst recorded
  have late : ¬ stage = .created := late
  rcases compileAll_recorded a [] units r with
    ⟨programs, memory, each, all⟩ | ⟨first, u, rest, programs, e, memory, split, each, failed⟩
  · refine .inl ⟨programs, releaseAll a compiled memory, each, ?_⟩
    simp only [build, late, ↓reduceIte, ready, all, releasePrograms, releaseAll_recorded,
      List.nil_append, List.append_assoc]
    rfl
  · refine .inr ⟨first, u, rest, programs, e, memory, split, each, ?_⟩
    simp only [build, late, ↓reduceIte, ready, failed, List.nil_append, List.append_assoc]
    rfl

theorem build_step (recorded : p.adapter = a.recorded) : p.Step .build p.build.1 p.build.2 := by
  by_cases early : p.stage = .created
  · simp only [build, early, ↓reduceIte]
    exact .refused _ (by simp)
  · cases ready : p.prepareAll p.graph.kernelEntries with
    | error e =>
      rw [build_unready early ready]
      exact .refused e (by simp)
    | ok units =>
      rcases build_ready recorded early ready with
        ⟨programs, memory, each, all⟩ | ⟨first, u, rest, programs, e, memory, split, each, failed⟩
      · rw [all]
        exact .built programs memory early ready each
      · rw [failed]
        exact .unbuilt programs e memory early (split ▸ ready) each

theorem run_late (recorded : p.adapter = a.recorded) (late : p.stage = .built ∨ p.stage = .ready) :
    (∃ calls memory, Dispatches (p.compiled.map (launch p.graph p.storage)) calls (.ok ()) ∧
      p.run = (.ok (), { p with memory := ⟨memory, p.calls ++ calls⟩, stage := .ready })) ∨
    ∃ e calls memory, Dispatches (p.compiled.map (launch p.graph p.storage)) calls (.error e) ∧
      p.run = (.error e, { p with memory := ⟨memory, p.calls ++ calls⟩ }) := by
  obtain ⟨adapter, r, g, stage, storage, compiled⟩ := p
  subst recorded
  have late : ¬ (stage = .created ∨ stage = .allocated) := by
    rcases late with h | h <;> simp_all
  obtain ⟨answer, calls, memory, all, dispatched⟩ := dispatchAll_recorded a g storage compiled r
  cases answer with
  | ok _ =>
    refine .inl ⟨calls, memory, dispatched, ?_⟩
    simp only [run, Bool.or_eq_true, decide_eq_true_eq, late, ↓reduceIte, all]
    rfl
  | error e =>
    refine .inr ⟨e, calls, memory, dispatched, ?_⟩
    simp only [run, Bool.or_eq_true, decide_eq_true_eq, late, ↓reduceIte, all]
    rfl

theorem run_step (recorded : p.adapter = a.recorded) : p.Step .run p.run.1 p.run.2 := by
  by_cases early : p.stage = .created ∨ p.stage = .allocated
  · have refused : p.run = (.error (.misuse .runBeforeBuild), p) := by
      simp [run, early]
    rw [refused]
    exact .refused _ (by simp)
  · have late : p.stage = .built ∨ p.stage = .ready := by
      cases h : p.stage <;> simp_all
    rcases run_late recorded late with
      ⟨calls, memory, dispatched, all⟩ | ⟨e, calls, memory, dispatched, failed⟩
    · rw [all]
      exact .ran memory late dispatched
    · rw [failed]
      exact .halted e memory late dispatched

theorem upload_eq {id : BufferId} {d : DeviceBuffer} {b : Buffer} (recorded : p.adapter = a.recorded)
    (stored : p.requireStorage id = .ok d) (held : p.graph.buffer id = .ok b) :
    let device := a.upload d b.data p.memory.memory
    p.upload id =
      (device.1, { p with memory := ⟨device.2, p.calls ++ [.upload d b.data device.1]⟩ }) := by
  obtain ⟨adapter, r, g, stage, storage, compiled⟩ := p
  subst recorded
  have held : g.buffer id = .ok b := held
  simp only [upload, stored, held, bind, Except.bind, pure, Except.pure]
  rfl

theorem upload_stored {id : BufferId} {d : DeviceBuffer} {b : Buffer} (recorded : p.adapter = a.recorded)
    (stored : p.requireStorage id = .ok d) (held : p.graph.buffer id = .ok b) : ∃ answer memory,
      p.upload id = (answer, { p with memory := ⟨memory, p.calls ++ [.upload d b.data answer]⟩ }) :=
  ⟨_, _, upload_eq recorded stored held⟩

theorem download_eq {id : BufferId} {d : DeviceBuffer} {b : Buffer} (recorded : p.adapter = a.recorded)
    (stored : p.requireStorage id = .ok d) (held : p.graph.buffer id = .ok b) :
    let device := a.download d b.data.toVector p.memory.memory
    p.download id = (device.1, { p with
      memory := ⟨device.2.2, p.calls ++ [.download d b.data.size (device.1.map fun _ => device.2.1.toArray)]⟩
      graph := { p.graph with registry := { p.graph.registry with
        buffers := p.graph.registry.buffers.set id.index { b with data := device.2.1.toArray } } } }) := by
  obtain ⟨adapter, r, g, stage, storage, compiled⟩ := p
  subst recorded
  have held : g.buffer id = .ok b := held
  simp only [download, stored, held, bind, Except.bind, pure, Except.pure]
  rfl

theorem download_stored {id : BufferId} {d : DeviceBuffer} {b : Buffer} (recorded : p.adapter = a.recorded)
    (stored : p.requireStorage id = .ok d) (held : p.graph.buffer id = .ok b) :
    ∃ answer, ∃ data : Vector Single b.data.size, ∃ memory, p.download id = (answer, { p with
      memory := ⟨memory, p.calls ++ [.download d b.data.size (answer.map fun _ => data.toArray)]⟩
      graph := { p.graph with registry := { p.graph.registry with
        buffers := p.graph.registry.buffers.set id.index { b with data := data.toArray } } } }) :=
  ⟨_, _, _, download_eq recorded stored held⟩

theorem upload_step (recorded : p.adapter = a.recorded) (id : BufferId) :
    p.Step (.upload id) (p.upload id).1 (p.upload id).2 := by
  cases stored : p.requireStorage id with
  | error e =>
    simp only [upload, stored, bind, Except.bind]
    exact .refused _ (by simp)
  | ok d =>
    cases held : p.graph.buffer id with
    | error e =>
      simp only [upload, stored, held, bind, Except.bind]
      exact .refused _ (by simp)
    | ok b =>
      obtain ⟨answer, memory, all⟩ := upload_stored recorded stored held
      rw [all]
      exact .uploaded answer memory stored held

theorem download_step (recorded : p.adapter = a.recorded) (id : BufferId) :
    p.Step (.download id) (p.download id).1 (p.download id).2 := by
  cases stored : p.requireStorage id with
  | error e =>
    simp only [download, stored, bind, Except.bind]
    exact .refused _ (by simp)
  | ok d =>
    cases held : p.graph.buffer id with
    | error e =>
      simp only [download, stored, held, bind, Except.bind]
      exact .refused _ (by simp)
    | ok b =>
      obtain ⟨answer, data, memory, all⟩ := download_stored recorded stored held
      rw [all]
      exact .downloaded answer data memory stored held

theorem perform_step (recorded : p.adapter = a.recorded) (act : Action) :
    p.Step act (p.perform act).1 (p.perform act).2 := by
  cases act with
  | setDimensions width height =>
    by_cases early : p.stage = .created
    · simp only [perform, setDimensions, early, ↓reduceIte]
      exact onGraph_step rfl rfl (by simp) fun _ _ _ => early
    · simp only [perform, setDimensions, early, ↓reduceIte]
      exact .refused _ (by simp)
  | createBuffer name channels =>
    exact onGraph_step rfl (by cases p.graph.createBuffer name channels <;> rfl) (by simp) (by simp)
  | createKernel name =>
    exact onGraph_step rfl (by cases p.graph.createKernel name <;> rfl) (by simp) (by simp)
  | editBuffer id edit => exact onGraph_step rfl rfl (by simp) (by simp)
  | editKernel id edit => exact onGraph_step rfl rfl (by simp) (by simp)
  | replaceBuffer id b => exact onGraph_step rfl rfl (by simp) (by simp)
  | replaceKernel id k => exact onGraph_step rfl rfl (by simp) (by simp)
  | allocate => exact allocate_step recorded
  | build => exact build_step recorded
  | run => exact run_step recorded
  | upload id => exact upload_step recorded id
  | download id => exact download_step recorded id

theorem Step.adapter {act : Action} {answer : Except Error Unit} {p' : Processor (Recorded σ)}
    (step : p.Step act answer p') : p'.adapter = p.adapter := by
  cases step <;> rfl

theorem Step.calls_grow {act : Action} {answer : Except Error Unit} {p' : Processor (Recorded σ)}
    (step : p.Step act answer p') : ∃ new, p'.calls = p.calls ++ new := by
  cases step with
  | edited | refused => exact ⟨[], (List.append_nil _).symm⟩
  | _ => exact ⟨_, rfl⟩

inductive Asks (p : Processor σ) : Action → DeviceCall → Prop
  | allocate (answer : Except Error (List DeviceBuffer)) :
      p.Asks .allocate (.allocate (descriptions p.graph) answer)
  | compile (kernel source : String) (answer : Except Error Program) : p.Asks .build (.compile kernel source answer)
  | release {act : Action} (program : Program) (drops : act = .allocate ∨ act = .build) :
      p.Asks act (.release program)
  | dispatch {c : CompiledKernel} {l : Launch} (answer : Except Error Unit)
      (late : p.stage = .built ∨ p.stage = .ready) (member : c ∈ p.compiled)
      (planned : launch p.graph p.storage c = .ok l) : p.Asks .run (.dispatch l answer)
  | upload {id : BufferId} {d : DeviceBuffer} {b : Buffer} (answer : Except Error Unit)
      (stored : p.requireStorage id = .ok d) (held : p.graph.buffer id = .ok b) :
      p.Asks (.upload id) (.upload d b.data answer)
  | download {id : BufferId} {d : DeviceBuffer} {b : Buffer} (answer : Except Error (Array Single))
      (stored : p.requireStorage id = .ok d) (held : p.graph.buffer id = .ok b) :
      p.Asks (.download id) (.download d b.data.size answer)

theorem Step.asks {act : Action} {answer : Except Error Unit} {p' : Processor (Recorded σ)}
    {new : List DeviceCall} (step : p.Step act answer p') (added : p'.calls = p.calls ++ new) :
    ∀ call ∈ new, p.Asks act call := by
  intro call member
  have released {compiled : List CompiledKernel} (drops : act = .allocate ∨ act = .build)
      (member : call ∈ DeviceCall.releases compiled) : p.Asks act call := by
    obtain ⟨c, -, rfl⟩ := List.mem_map.mp member
    exact .release c.program drops
  have compiled {units : List SourceUnit} {programs : List Program}
      (member : call ∈ DeviceCall.compiles units programs) : p.Asks .build call := by
    obtain ⟨_, _, _, rfl⟩ := DeviceCall.mem_compiles member
    exact .compile _ _ _
  cases step with
  | edited | refused =>
    obtain rfl := List.self_eq_append_right.mp added
    cases member
  | allocated storage memory =>
    obtain rfl := List.append_cancel_left added
    obtain rfl := List.mem_singleton.mp member
    exact .allocate _
  | unallocated fault memory =>
    obtain rfl := List.append_cancel_left added
    rcases List.mem_cons.mp member with rfl | later
    · exact .allocate _
    · exact released (.inl rfl) later
  | built programs memory late ready each =>
    obtain rfl := List.append_cancel_left added
    rcases List.mem_append.mp member with first | last
    · exact compiled first
    · exact released (.inr rfl) last
  | unbuilt programs fault memory late ready each =>
    obtain rfl := List.append_cancel_left added
    rcases List.mem_append.mp member with first | last
    · exact compiled first
    · rcases List.mem_cons.mp last with rfl | later
      · exact .compile _ _ _
      · exact released (.inr rfl) later
  | ran memory late dispatched | halted fault memory late dispatched =>
    obtain rfl := List.append_cancel_left added
    obtain ⟨l, result, rfl, planned⟩ := dispatched.planned _ member
    obtain ⟨c, listed, planned⟩ := List.mem_map.mp planned
    exact .dispatch result late listed planned
  | uploaded answer memory stored held =>
    obtain rfl := List.append_cancel_left added
    obtain rfl := List.mem_singleton.mp member
    exact .upload _ stored held
  | downloaded answer data memory stored held =>
    obtain rfl := List.append_cancel_left added
    obtain rfl := List.mem_singleton.mp member
    exact .download _ stored held

theorem play_adapter (recorded : p.adapter = a.recorded) (acts : List Action) :
    (p.play acts).adapter = a.recorded := by
  induction acts generalizing p with
  | nil => exact recorded
  | cons act rest ih => exact ih ((perform_step recorded act).adapter.trans recorded)

theorem play_step (a : Adapter σ) (memory : σ) (owner : Owner) (acts : List Action) (act : Action) :
    ((watched a memory owner).play acts).Step act
      (((watched a memory owner).play acts).perform act).1
      (((watched a memory owner).play acts).perform act).2 :=
  perform_step (play_adapter (p := watched a memory owner) rfl acts) act

theorem history_induction (sort : Action → Prop)
    {motive : List (Event (Recorded σ)) → Processor (Recorded σ) → Prop} {memory : σ} {owner : Owner}
    (start : motive [] (watched a memory owner))
    (next : ∀ events p act answer p', sort act → motive events p → p.Step act answer p' →
      motive (events ++ [⟨p, act, answer, p'⟩]) p')
    (acts : List Action) (all : ∀ act ∈ acts, sort act) :
    motive ((watched a memory owner).history acts) ((watched a memory owner).play acts) := by
  induction acts using List.reverseRecOn with
  | nil => exact start
  | append_singleton acts act ih =>
    have held := ih fun x member => all x (List.mem_append_left _ member)
    rw [history_concat, play_concat]
    exact next _ _ act _ _ (all act (by simp)) held (play_step a memory owner acts act)

end

end Processor

def HostMemory.twoKernels : HostMemory := { routines := [("k", (·.outputs)), ("l", (·.outputs))] }

def Action.twoKernels : List Action :=
  [.setDimensions 1 1, .createBuffer "b" 1, .createKernel "k", .createKernel "l",
    .editKernel ⟨⟨0⟩, 0⟩ (.bindOutput "B" ⟨⟨0⟩, 0⟩), .editKernel ⟨⟨0⟩, 0⟩ (.setSource "__kernel"),
    .editKernel ⟨⟨0⟩, 1⟩ (.bindOutput "B" ⟨⟨0⟩, 0⟩), .editKernel ⟨⟨0⟩, 1⟩ (.setSource "__kernel"),
    .allocate]

end PixelPipeline
