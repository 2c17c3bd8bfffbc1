import PixelPipeline.Proofs.Execution
import PixelPipeline.Proofs.FileWrites

namespace PixelPipeline

open Outcome

variable {σ S α β : Type}

namespace Processor

structure Alike (p q : Processor σ) : Prop where
  adapter : q.adapter = p.adapter
  graph : q.graph.blank = p.graph.blank

variable {p q r : Processor σ}

theorem Alike.refl (p : Processor σ) : p.Alike p := ⟨rfl, rfl⟩

theorem Alike.trans (first : p.Alike q) (second : q.Alike r) : p.Alike r :=
  ⟨second.adapter.trans first.adapter, second.graph.trans first.graph⟩

theorem allocate_alike (p : Processor σ) : p.Alike p.allocate.2 := by
  unfold allocate
  rcases p.adapter.allocate (descriptions p.graph) p.memory with ⟨e | storage, memory⟩
  · exact ⟨rfl, rfl⟩
  · exact ⟨rfl, rfl⟩

theorem build_alike (p : Processor σ) : p.Alike p.build.2 := by
  unfold build
  split
  · exact .refl p
  · cases p.prepareAll p.graph.kernelEntries with
    | error e => exact .refl p
    | ok units =>
      dsimp only
      rcases compileAll p.adapter [] units p.memory with ⟨e | compiled, memory⟩
      · exact ⟨rfl, rfl⟩
      · exact ⟨rfl, rfl⟩

theorem run_alike (p : Processor σ) : p.Alike p.run.2 := by
  unfold run
  split
  · exact .refl p
  · dsimp only
    rcases dispatchAll p.adapter p.graph p.storage p.compiled p.memory with ⟨e | _, memory⟩
    · exact ⟨rfl, rfl⟩
    · exact ⟨rfl, rfl⟩

theorem upload_alike (p : Processor σ) (id : BufferId) : p.Alike (p.upload id).2 := by
  unfold upload
  split
  · exact .refl p
  · exact ⟨rfl, rfl⟩

theorem modifyBuffer_alike (p : Processor σ) (id : BufferId) {edit : Buffer → Except Error Buffer}
    (refills : ∀ b c, edit b = .ok c → c.blank = b.blank) : p.Alike (p.modifyBuffer id edit).2 := by
  unfold modifyBuffer onGraph
  dsimp only
  cases changed : p.graph.modifyBuffer id edit with
  | error e => exact .refl p
  | ok g =>
    obtain ⟨b, c, held, edited, rfl⟩ := Graph.modifyBuffer_eq_ok.mp changed
    exact ⟨rfl, Graph.blank_set (Registry.get_eq_ok.mp held).2 (refills b c edited)⟩

theorem ready_eq_ok {id : BufferId} {d : DeviceBuffer} {b : Buffer} :
    (do return (← p.requireStorage id, ← p.graph.buffer id)) = Except.ok (d, b) ↔
      p.requireStorage id = .ok d ∧ p.graph.buffer id = .ok b := by
  simp only [bind_eq_ok]
  constructor
  · rintro ⟨_, stored, _, held, made⟩
    cases made
    exact ⟨stored, held⟩
  · rintro ⟨stored, held⟩
    exact ⟨d, stored, b, held, rfl⟩

theorem blank_refilled (b : Buffer) {data : Array Single} (same : data.size = b.size) :
    ({ b with data } : Buffer).blank = b.blank := by
  simp only [Buffer.blank, Buffer.size] at same ⊢
  rw [same]

theorem download_alike (p : Processor σ) (id : BufferId) : p.Alike (p.download id).2 := by
  unfold download
  split
  · exact .refl p
  · rename_i d b ready
    obtain ⟨-, held⟩ := ready_eq_ok.mp ready
    exact ⟨rfl, Graph.blank_set (Registry.get_eq_ok.mp held).2 (blank_refilled b (Vector.size_toArray _))⟩

end Processor

namespace Run

/-- An execution that leaves its surroundings alone, and the processor but for its memory and what buffers hold. -/
def Calm (x : Running σ (StateM S) α) : Prop := ∀ p s, p.Alike (x p s).1.2 ∧ (x p s).2 = s

theorem calm_pure (a : α) : Calm (pure a : Running σ (StateM S) α) := fun p _ => ⟨.refl p, rfl⟩

theorem Calm.bind {x : Running σ (StateM S) α} {f : α → Running σ (StateM S) β} (first : Calm x)
    (later : ∀ a, Calm (f a)) : Calm (x >>= f) := by
  intro p s
  obtain ⟨alike, same⟩ := first p s
  have step : (x >>= f) p s = ExceptT.bindCont f (x p s).1.1 (x p s).1.2 (x p s).2 := rfl
  rw [step]
  cases (x p s).1.1 with
  | error e => exact ⟨alike, same⟩
  | ok a =>
    obtain ⟨alike', same'⟩ := later a (x p s).1.2 (x p s).2
    exact ⟨alike.trans alike', same'.trans same⟩

theorem Calm.forM {ι : Type} {act : ι → Running σ (StateM S) Unit} (each : ∀ i, Calm (act i)) (is : List ι) :
    Calm (is.forM act) := by
  induction is with
  | nil => exact calm_pure ()
  | cons i is ih => exact (each i).bind fun _ => ih

theorem calm_perform (activity : Option Activity) {operation : Operation σ α}
    (alike : ∀ p, Processor.Alike p (operation p).2) : Calm (perform activity operation : Running σ (StateM S) α) :=
  fun p _ => ⟨alike p, rfl⟩

theorem calm_outside {action : StateM S (Except Failure α)} (still : Still action) :
    Calm (outside action : Running σ (StateM S) α) :=
  fun p s => ⟨.refl p, still s⟩

theorem ran_bind {x : Running σ (StateM S) α} {f : α → Running σ (StateM S) β} {p q : Processor σ} {s t : S}
    {b : β} : (x >>= f) p s = ((.ok b, q), t) ↔ ∃ a p' s', x p s = ((.ok a, p'), s') ∧ f a p' s' = ((.ok b, q), t) := by
  have step : (x >>= f) p s = ExceptT.bindCont f (x p s).1.1 (x p s).1.2 (x p s).2 := rfl
  rw [step]
  rcases x p s with ⟨⟨e | a, p'⟩, s'⟩
  · constructor
    · intro ran
      cases ran
    · rintro ⟨_, _, _, failed, -⟩
      cases failed
  · constructor
    · intro ran
      exact ⟨a, p', s', rfl, ran⟩
    · rintro ⟨_, _, _, same, ran⟩
      cases same
      exact ran

theorem ran_perform {activity : Option Activity} {operation : Operation σ α} {next : α → Running σ (StateM S) β}
    {p q : Processor σ} {s t : S} {y : β} (ran : (perform activity operation >>= next) p s = ((.ok y, q), t)) :
    ∃ x r, operation p = (.ok x, r) ∧ next x r s = ((.ok y, q), t) := by
  obtain ⟨x, r, u, asked, later⟩ := ran_bind.mp ran
  have step : (perform activity operation : Running σ (StateM S) α) p s =
      (((operation p).1.mapError fun e => ⟨activity, .rejected e⟩, (operation p).2), s) := rfl
  cases done : operation p with
  | mk result o =>
    rw [step, done] at asked
    cases result with
    | error e => cases asked
    | ok z =>
      cases asked
      exact ⟨_, _, rfl, later⟩

theorem ran_outside {action : StateM S (Except Failure α)} {next : α → Running σ (StateM S) β}
    {p q : Processor σ} {s t : S} {y : β} (ran : (outside action >>= next) p s = ((.ok y, q), t)) :
    ∃ x u, action s = (.ok x, u) ∧ next x p u = ((.ok y, q), t) := by
  obtain ⟨x, r, u, asked, later⟩ := ran_bind.mp ran
  have step : (outside action : Running σ (StateM S) α) p s = (((action s).1, p), (action s).2) := rfl
  cases done : action s with
  | mk result v =>
    rw [step, done] at asked
    cases asked
    exact ⟨_, _, rfl, later⟩

section

variable {m : Type → Type} [Monad m]

/-- What is done with a declared pipeline up to the last dispatch. What is returned is the time of the build. -/
def compute (shell : Shell m) (f : PipelineFile) (declared : Declared) : Running σ m String := do
  perform (some .allocate) Processor.allocate
  (f.pipeline.buffers.zip declared.buffers).forM fun (b, id) => supply shell f b id
  let _ ← lap shell
  perform (some .build) Processor.build
  let built ← lap shell
  perform (some .run) Processor.run
  return built

def computed (shell : Shell m) (f : PipelineFile) (source : SourceText) : Running σ m (Declared × String) := do
  let declared ← declare f source
  let built ← compute shell f declared
  return (declared, built)

def delivered (shell : Shell m) (verbose : Bool) (f : PipelineFile) (declared : Declared) (built : String) :
    Running σ m Unit := do
  let ran ← lap shell
  (f.pipeline.buffers.zip declared.buffers).forM fun (b, id) => deliver shell verbose f b id
  if verbose then
    let name := (← get).adapter.name
    outside do
      shell.print s!"build {built}, run {ran} on {name}\n"
      return .ok ()

theorem steps_eq [LawfulMonad m] (shell : Shell m) (verbose : Bool) (f : PipelineFile) (source : SourceText) :
    (steps shell verbose f source : Running σ m Unit) =
      computed shell f source >>= fun (declared, built) => delivered shell verbose f declared built := by
  simp only [steps, computed, compute, delivered, bind_assoc, pure_bind]

end

section

variable {shell : Shell (StateM S)} {f : PipelineFile} {a : Adapter σ} {memory : σ} {source : SourceText}
  {p : Processor σ} {s t : S} {declared : Declared} {built : String}

theorem calm_supply (steady : ∀ path, Still (shell.files.read path)) (b : BufferDeclaration) (id : BufferId) :
    Calm (supply shell f b id : Running σ (StateM S) Unit) := by
  have uploads : Calm (perform (some (.upload b.name)) (Processor.upload id) : Running σ (StateM S) Unit) :=
    calm_perform _ fun p => p.upload_alike id
  unfold supply
  split
  · exact calm_pure ()
  · apply (calm_perform none fun p => Processor.Alike.refl p).bind
    intro buffer
    apply (calm_outside (still_floats steady _ _)).bind
    intro data
    refine (calm_perform none fun p => p.modifyBuffer_alike id fun b c edited => ?_).bind fun _ => uploads
    unfold Buffer.setData at edited
    split at edited
    · cases edited
      exact Processor.blank_refilled b ‹_›
    · cases edited
  · refine (calm_perform none fun p => p.modifyBuffer_alike id fun b c edited => ?_).bind fun _ => uploads
    cases edited
    exact Processor.blank_refilled b (Array.size_map ..)

theorem calm_compute (steady : ∀ path, Still (shell.files.read path)) (timed : Still shell.lap) (declared : Declared) :
    Calm (compute shell f declared : Running σ (StateM S) String) := by
  have laps : Calm (lap shell : Running σ (StateM S) String) := calm_outside (timed.bind fun _ _ => rfl)
  have fills : ∀ b : BufferDeclaration × BufferId, Calm (supply shell f b.1 b.2 : Running σ (StateM S) Unit) :=
    fun b => calm_supply steady b.1 b.2
  apply (calm_perform _ Processor.allocate_alike).bind
  intro _
  apply (Calm.forM fills (f.pipeline.buffers.zip declared.buffers)).bind
  intro _
  apply laps.bind
  intro _
  apply (calm_perform _ Processor.build_alike).bind
  intro _
  apply laps.bind
  intro built
  apply (calm_perform _ Processor.run_alike).bind
  intro _
  exact calm_pure built

theorem alike_of_computed (steady : ∀ path, Still (shell.files.read path)) (timed : Still shell.lap)
    (ran : computed shell f source (.create a memory ⟨0⟩) s = ((.ok (declared, built), p), t)) :
    declared = f.pipeline.handles ⟨0⟩ ∧ p.adapter = a ∧
      p.graph.blank = (f.graph (some source) a.environment ⟨0⟩).blank ∧ t = s := by
  obtain ⟨d, p', s', started, ran⟩ := ran_bind.mp ran
  obtain ⟨time, q, u, later, ran⟩ := ran_bind.mp ran
  cases ran
  have all : (Processor.create a memory ⟨0⟩).declare f (some source) = _ := f.declare_on_processor a memory ⟨0⟩
  have step : (declare f source : Running σ (StateM S) Declared) (.create a memory ⟨0⟩) s =
      ((Processor.create a memory ⟨0⟩).declare f (some source), s) := rfl
  rw [step, all] at started
  cases made : f.declare (some source) (.empty a.environment ⟨0⟩) with
  | mk outcome g =>
    rw [made] at started
    cases started
    obtain ⟨-, rfl, rfl⟩ := PipelineFile.makes_declare_from.mp made
    obtain ⟨alike, same⟩ := calm_compute (f := f) steady timed (f.pipeline.handles ⟨0⟩)
      { Processor.create a memory ⟨0⟩ with graph := f.graph (some source) a.environment ⟨0⟩ } s
    rw [later] at alike same
    exact ⟨rfl, alike.adapter, alike.graph, same⟩

end

variable {format : Pipeline.Format} {shell : Shell (StateM S)} {platform : Platform σ} {request : RunRequest}
  {f : PipelineFile} {a : Adapter σ} {memory : σ} {p q : Processor σ} {verbose : Bool} {s t : S}

/-- A run comes to its last dispatch, and this is what it has then. -/
structure Reaches (format : Pipeline.Format) (shell : Shell (StateM S)) (platform : Platform σ)
    (request : RunRequest) (s : S)
    (f : PipelineFile) (p : Processor σ) : Prop where
  loaded : (PipelineFile.load format shell.files request.pipeline s).1 = .ok f
  opened : ∃ environment a memory built, f.pipeline.environmentOr request.environment = .ok environment ∧
    platform.openDevice { environment, device := request.device, block := request.block } = (.ok a, memory) ∧
    computed shell f (f.readSources shell.files s).1 (.create a memory ⟨0⟩) s =
      ((.ok (f.pipeline.handles ⟨0⟩, built), p), s)

theorem onDevice_steps (steady : ∀ path, Still (shell.files.read path)) :
    onDevice shell verbose f a memory s =
      let ran := steps shell verbose f (f.readSources shell.files s).1 (.create a memory ⟨0⟩) s
      ((ran.1.1, ran.1.2.drop), ran.2) := by
  have read : f.readSources shell.files s = ((f.readSources shell.files s).1, s) :=
    Prod.ext rfl (still_sources steady f s)
  have step : onDevice shell verbose f a memory s = _ := next_of_ran read
  rw [step]
  rfl

theorem ran_execute {left : Option σ} (steady : ∀ path, Still (shell.files.read path))
    (ran : execute format shell platform verbose request s = ((.ok (), left), t)) :
    ∃ f environment a memory q, (PipelineFile.load format shell.files request.pipeline s).1 = .ok f ∧
      f.pipeline.environmentOr request.environment = .ok environment ∧
      platform.openDevice { environment, device := request.device, block := request.block } = (.ok a, memory) ∧
      steps shell verbose f (f.readSources shell.files s).1 (.create a memory ⟨0⟩) s = ((.ok (), q), t) := by
  have read : PipelineFile.load format shell.files request.pipeline s =
      ((PipelineFile.load format shell.files request.pipeline s).1, s) :=
    Prod.ext rfl (still_load steady format request.pipeline s)
  have step : execute format shell platform verbose request s = _ := next_of_ran read
  rw [step] at ran
  cases loaded : (PipelineFile.load format shell.files request.pipeline s).1 with
  | error e =>
    rw [loaded] at ran
    cases ran
  | ok f =>
    rw [loaded] at ran
    dsimp only at ran
    cases chosen : f.pipeline.environmentOr request.environment with
    | error cause =>
      rw [chosen] at ran
      cases ran
    | ok environment =>
      rw [chosen] at ran
      dsimp only at ran
      cases opened : platform.openDevice { environment, device := request.device, block := request.block } with
      | mk answer memory =>
        rw [opened] at ran
        cases answer with
        | error e => cases ran
        | ok a =>
          dsimp only at ran
          cases finished : onDevice shell verbose f a memory s with
          | mk pair u =>
            obtain ⟨result, remaining⟩ := pair
            rw [next_of_ran finished] at ran
            cases ran
            rw [onDevice_steps steady] at finished
            obtain ⟨both, same⟩ := Prod.mk.inj finished
            obtain ⟨succeeded, -⟩ := Prod.mk.inj both
            exact ⟨f, environment, a, memory, _, rfl, chosen, opened, Prod.ext (Prod.ext succeeded rfl) same⟩

theorem ran_of_accepted (accepted : ((Command.run request).execute format shell platform verbose s).1.code = 0) :
    ∃ left, execute format shell platform verbose request s =
      ((.ok (), left), ((Command.run request).execute format shell platform verbose s).2) := by
  have ended : (Command.run request).execute format shell platform verbose s =
      let ran := execute format shell platform verbose request s
      (.ofResult ran.1.1 ran.1.2, ran.2) := rfl
  rw [ended] at accepted ⊢
  cases ran : execute format shell platform verbose request s with
  | mk pair t =>
    obtain ⟨result, left⟩ := pair
    rw [ran] at accepted
    cases result with
    | error e => exact absurd accepted e.code_ne_zero
    | ok _ => exact ⟨left, rfl⟩

theorem Reaches.unique {g : PipelineFile} (first : Reaches format shell platform request s f p)
    (second : Reaches format shell platform request s g q) : f = g ∧ p = q := by
  obtain ⟨loaded, environment, a, memory, built, chosen, opened, ran⟩ := first
  obtain ⟨loaded', environment', a', memory', built', chosen', opened', ran'⟩ := second
  cases loaded.symm.trans loaded'
  cases chosen.symm.trans chosen'
  cases opened.symm.trans opened'
  cases ran.symm.trans ran'
  exact ⟨rfl, rfl⟩

theorem ended_of_steps {environment : Environment} (steady : ∀ path, Still (shell.files.read path))
    (loaded : (PipelineFile.load format shell.files request.pipeline s).1 = .ok f)
    (chosen : f.pipeline.environmentOr request.environment = .ok environment)
    (opened : platform.openDevice { environment, device := request.device, block := request.block } = (.ok a, memory))
    (done : steps shell verbose f (f.readSources shell.files s).1 (.create a memory ⟨0⟩) s = ((.ok (), q), t)) :
    (Command.run request).execute format shell platform verbose s = (⟨0, "", some q.drop⟩, t) := by
  have finished : onDevice shell verbose f a memory s = ((.ok (), q.drop), t) := by
    rw [onDevice_steps steady, done]
  have ran : execute format shell platform verbose request s = ((.ok (), some q.drop), t) := by
    have step : execute format shell platform verbose request s = _ :=
      next_of_ran (Prod.ext loaded (still_load steady format request.pipeline s))
    rw [step]
    dsimp only
    rw [chosen]
    dsimp only
    rw [opened]
    exact next_of_ran finished
  exact next_of_ran ran

end Run

end PixelPipeline
