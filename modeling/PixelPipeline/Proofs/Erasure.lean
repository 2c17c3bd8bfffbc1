import PixelPipeline.Proofs.Session

namespace PixelPipeline.Processor

variable {σ : Type}

def unwatched (a : Adapter σ) (p : Processor (Recorded σ)) : Processor σ :=
  ⟨a, p.memory.memory, p.graph, p.stage, p.storage, p.compiled⟩

section

variable {a : Adapter σ} {p : Processor (Recorded σ)}

theorem onGraph_unwatched (change : Graph → Except Error (Unit × Graph)) :
    (p.unwatched a).onGraph change = ((p.onGraph change).1, (p.onGraph change).2.unwatched a) := by
  cases h : change p.graph <;> simp only [onGraph, unwatched, h]

theorem checkBindings_unwatched (bindings : List Binding) :
    (p.unwatched a).checkBindings bindings = p.checkBindings bindings := by
  induction bindings with
  | nil => rfl
  | cons b rest ih => simp only [checkBindings, ih]; rfl

theorem prepareAll_unwatched (entries : List (KernelId × Kernel)) :
    (p.unwatched a).prepareAll entries = p.prepareAll entries := by
  induction entries with
  | nil => rfl
  | cons entry rest ih => simp only [prepareAll, prepare, checkBindings_unwatched, ih]; rfl

theorem compileAll_unwatched (done : List CompiledKernel) (units : List SourceUnit) (r : Recorded σ) :
    compileAll a done units r.memory =
      ((compileAll a.recorded done units r).1, (compileAll a.recorded done units r).2.memory) := by
  induction units generalizing done r with
  | nil => rfl
  | cons u rest ih =>
    cases h : a.compile u.kernel.name u.source r.memory with
    | mk answer memory =>
      have call := Adapter.recorded_compile h
      cases answer with
      | error e => simp only [compileAll, h, call, releaseAll_recorded, Recorded.note]
      | ok program =>
        simp only [compileAll, h, call]
        exact ih _ (r.note memory _)

theorem dispatchAll_unwatched (g : Graph) (storage : List DeviceBuffer) (compiled : List CompiledKernel)
    (r : Recorded σ) :
    dispatchAll a g storage compiled r.memory =
      ((dispatchAll a.recorded g storage compiled r).1,
        (dispatchAll a.recorded g storage compiled r).2.memory) := by
  induction compiled generalizing r with
  | nil => rfl
  | cons c rest ih =>
    cases planned : launch g storage c with
    | error e => simp only [dispatchAll, planned]
    | ok l =>
      cases h : a.dispatch l r.memory with
      | mk answer memory =>
        have call := Adapter.recorded_dispatch h
        cases answer with
        | error e => simp only [dispatchAll, planned, h, call, Recorded.note]
        | ok _ =>
          simp only [dispatchAll, planned, h, call]
          exact ih (r.note memory _)

theorem allocate_unwatched (recorded : p.adapter = a.recorded) :
    (p.unwatched a).allocate = (p.allocate.1, p.allocate.2.unwatched a) := by
  obtain ⟨adapter, r, g, stage, storage, compiled⟩ := p
  subst recorded
  cases h : a.allocate (descriptions g) r.memory with
  | mk answer memory =>
    have call := Adapter.recorded_allocate h
    cases answer with
    | ok storage =>
      simp only [allocate, unwatched, h, call, Recorded.note]
      rfl
    | error e =>
      simp only [allocate, unwatched, h, call, releasePrograms, releaseAll_recorded, Recorded.note]

theorem build_unwatched (recorded : p.adapter = a.recorded) :
    (p.unwatched a).build = (p.build.1, p.build.2.unwatched a) := by
  obtain ⟨adapter, r, g, stage, storage, compiled⟩ := p
  subst recorded
  by_cases early : stage = .created
  · simp only [build, unwatched, early, ↓reduceIte]
  · have same := prepareAll_unwatched (a := a) (p := ⟨a.recorded, r, g, stage, storage, compiled⟩)
      g.kernelEntries
    simp only [unwatched] at same
    cases ready : prepareAll ⟨a.recorded, r, g, stage, storage, compiled⟩ g.kernelEntries with
    | error e => simp only [build, unwatched, early, ↓reduceIte, same, ready]
    | ok units =>
      have compiling := compileAll_unwatched (a := a) [] units r
      cases h : compileAll a.recorded [] units r with
      | mk answer last =>
        rw [h] at compiling
        cases answer <;>
          simp only [build, unwatched, early, ↓reduceIte, same, ready, compiling, h, releasePrograms,
            releaseAll_recorded]

theorem run_unwatched (recorded : p.adapter = a.recorded) :
    (p.unwatched a).run = (p.run.1, p.run.2.unwatched a) := by
  obtain ⟨adapter, r, g, stage, storage, compiled⟩ := p
  subst recorded
  have dispatching := dispatchAll_unwatched (a := a) g storage compiled r
  cases h : dispatchAll a.recorded g storage compiled r with
  | mk answer last =>
    rw [h] at dispatching
    cases stage <;> simp only [run, unwatched, dispatching, h] <;> cases answer <;> rfl

theorem upload_unwatched (recorded : p.adapter = a.recorded) (id : BufferId) :
    (p.unwatched a).upload id = ((p.upload id).1, (p.upload id).2.unwatched a) := by
  obtain ⟨adapter, r, g, stage, storage, compiled⟩ := p
  subst recorded
  have same : requireStorage ⟨a, r.memory, g, stage, storage, compiled⟩ id =
    requireStorage ⟨a.recorded, r, g, stage, storage, compiled⟩ id := rfl
  cases stored : requireStorage ⟨a.recorded, r, g, stage, storage, compiled⟩ id with
  | error e => simp only [upload, unwatched, same, stored, bind, Except.bind]
  | ok d =>
    cases held : g.buffer id with
    | error e => simp only [upload, unwatched, same, stored, held, bind, Except.bind]
    | ok b =>
      cases h : a.upload d b.data r.memory with
      | mk answer memory =>
        have call := Adapter.recorded_upload h
        simp only [upload, unwatched, same, stored, held, bind, Except.bind, pure, Except.pure, h, call,
          Recorded.note]

theorem download_unwatched (recorded : p.adapter = a.recorded) (id : BufferId) :
    (p.unwatched a).download id = ((p.download id).1, (p.download id).2.unwatched a) := by
  obtain ⟨adapter, r, g, stage, storage, compiled⟩ := p
  subst recorded
  have same : requireStorage ⟨a, r.memory, g, stage, storage, compiled⟩ id =
    requireStorage ⟨a.recorded, r, g, stage, storage, compiled⟩ id := rfl
  cases stored : requireStorage ⟨a.recorded, r, g, stage, storage, compiled⟩ id with
  | error e => simp only [download, unwatched, same, stored, bind, Except.bind]
  | ok d =>
    cases held : g.buffer id with
    | error e => simp only [download, unwatched, same, stored, held, bind, Except.bind]
    | ok b =>
      cases h : a.download d b.data.toVector r.memory with
      | mk answer rest =>
        obtain ⟨data, memory⟩ := rest
        have call := Adapter.recorded_download h
        simp only [download, unwatched, same, stored, held, bind, Except.bind, pure, Except.pure, h,
          call, Recorded.note]

theorem perform_unwatched (recorded : p.adapter = a.recorded) (act : Action) :
    (p.unwatched a).perform act = ((p.perform act).1, (p.perform act).2.unwatched a) := by
  cases act with
  | setDimensions width height =>
    have same : (p.unwatched a).stage = p.stage := rfl
    simp only [perform, setDimensions, same]
    split
    · exact onGraph_unwatched _
    · rfl
  | createBuffer name channels => simp only [perform, onGraph_unwatched]
  | createKernel name => simp only [perform, onGraph_unwatched]
  | editBuffer id edit => simp only [perform, modifyBuffer, onGraph_unwatched]
  | editKernel id edit => simp only [perform, onGraph_unwatched]
  | replaceBuffer id b => simp only [perform, modifyBuffer, onGraph_unwatched]
  | replaceKernel id k => simp only [perform, onGraph_unwatched]
  | allocate => exact allocate_unwatched recorded
  | build => exact build_unwatched recorded
  | run => exact run_unwatched recorded
  | upload id => exact upload_unwatched recorded id
  | download id => exact download_unwatched recorded id

theorem play_unwatched (a : Adapter σ) (memory : σ) (owner : Owner) (acts : List Action) :
    (create a memory owner).play acts = ((watched a memory owner).play acts).unwatched a := by
  suffices alike : ∀ p : Processor (Recorded σ), p.adapter = a.recorded →
      (p.unwatched a).play acts = (p.play acts).unwatched a from alike (watched a memory owner) rfl
  induction acts with
  | nil => intro p _; rfl
  | cons act rest ih =>
    intro p recorded
    have step := perform_step recorded act
    simp only [play, perform_unwatched recorded]
    exact ih _ (step.adapter.trans recorded)

end

end PixelPipeline.Processor
