import PixelPipeline.Command.Execution
import PixelPipeline.Proofs.Holding
import PixelPipeline.Proofs.Panics

namespace PixelPipeline.Run

open DeviceCall Processor

variable {σ W : Type}

section

variable {a : Adapter σ} {shell : Shell (StateM W)} {f : PipelineFile} {files : Files Id} {environment : Environment}
  {storage : List DeviceBuffer} {compiled : List CompiledKernel} {stage : Stage} {p : Processor (Recorded σ)}
  {b : BufferDeclaration × Nat} {w : W} {writes : List FileWrite} {j : Journal W}

theorem buffer_of_blank {r : Registry} (same : r.blank = (f.pipeline.graph environment ⟨0⟩).registry.blank)
    (listed : b ∈ f.pipeline.buffers.zipIdx) : ∃ c, r.get ⟨⟨0⟩, b.2⟩ = .ok c ∧ c.size = f.elements b.1 := by
  have declared : (f.pipeline.graph environment ⟨0⟩).registry.get ⟨⟨0⟩, b.2⟩ =
      .ok (b.1.buffer f.pipeline.width f.pipeline.height) := by
    refine Registry.get_eq_ok.mpr ⟨rfl, ?_⟩
    show (f.pipeline.buffers.map _)[b.2]? = _
    rw [List.getElem?_map, List.mk_mem_zipIdx_iff_getElem?.mp listed]
    rfl
  obtain ⟨c, found, blank⟩ := Registry.get_of_blank same declared
  refine ⟨c, found, (Buffer.size_of_blank blank).trans ?_⟩
  simp [BufferDeclaration.buffer, Buffer.size, PipelineFile.elements]

theorem Holding.buffer (held : Holding a (f.declared files environment) storage compiled stage p)
    (listed : b ∈ f.pipeline.buffers.zipIdx) :
    ∃ c, p.graph.buffer ⟨⟨0⟩, b.2⟩ = .ok c ∧ c.size = f.elements b.1 := by
  have same : p.graph.registry.blank = (f.pipeline.graph environment ⟨0⟩).registry.blank := held.registry
  exact buffer_of_blank same listed

theorem supply_yields (steady : shell.Steady) (listed : b ∈ f.pipeline.buffers.zipIdx) (late : stage ≠ .created)
    (held : Holding a (f.declared files environment) storage compiled stage p) :
    Yields (supply shell.recorded f b.1 ⟨⟨0⟩, b.2⟩) p ⟨w, writes⟩
      (f.supplies (Files.frozen (shell.contents w)) storage b)
      fun _ p' j' => Holding a (f.declared files environment) storage compiled stage p' ∧ j' = ⟨w, writes⟩ := by
  obtain ⟨c, buffer, size⟩ := held.buffer listed
  unfold supply PipelineFile.supplies
  cases b.1.initial with
  | none => exact .quiet rfl rfl held.closes ⟨held, rfl⟩
  | some initial =>
    cases initial with
    | fill value =>
      have edited : c.fill value = { c with data := .replicate (f.elements b.1) value } := by
        rw [Buffer.fill, Array.map_const', ← size]
        rfl
      have fits : (Array.replicate (f.elements b.1) value).size = c.size := by rw [Array.size_replicate, size]
      exact .needed rfl (held.supplies late buffer (fun b => .ok (b.fill value)) (congrArg Except.ok edited) fits _ _)
    | file path =>
      refine .silent (perform_eq none (buffer_eq buffer)) rfl rfl ?_
      have read : Sees _ ⟨w, writes⟩ _ := sees_floats steady (f.resolve path) c.size
      cases loaded : RawFloats.load (Files.frozen (shell.contents w)) (f.resolve path) c.size with
      | error e =>
        rw [loaded] at read
        have none (data : Array Single) :
            ¬ f.Initially (Files.frozen (shell.contents w)) b.1 (.file path) data := by
          rw [PipelineFile.initially_file, ← size, loaded]
          intro impossible
          cases impossible
        exact .stopped (bind_of_error (outside_eq read)) held.closes (.inr ⟨none, Duty.check_false not_false⟩)
      | ok data =>
        rw [loaded] at read
        have fits := (load_eq_ok.mp loaded).1
        exact .needed (PipelineFile.initially_file.mpr (size ▸ loaded))
          (.silent (outside_eq read) rfl rfl (held.supplies late buffer _ (if_pos fits) fits _ _))

theorem deliver_yields (verbose : Bool) (listed : b ∈ f.pipeline.buffers.zipIdx) (late : stage ≠ .created)
    (held : Holding a (f.declared files environment) storage compiled stage p) :
    Yields (deliver shell.recorded verbose f b.1 ⟨⟨0⟩, b.2⟩) p j (f.deliveries storage b)
      fun _ p' _ => Holding a (f.declared files environment) storage compiled stage p' := by
  obtain ⟨c, buffer, size⟩ := held.buffer listed
  unfold deliver PipelineFile.deliveries
  cases b.1.output with
  | none => exact .quiet rfl rfl held.closes held
  | some path =>
    refine held.transfers late buffer (fun e required => ?_) fun d required => ?_
    · have refused : Processor.download ⟨⟨0⟩, b.2⟩ p = (.error e, p) := by
        simp only [Processor.download, required, bind, Except.bind]
      exact ⟨_, bind_of_error (perform_eq (some (.download b.1.name)) refused)⟩
    · obtain ⟨data, length, downloaded⟩ := held.downloads buffer required (some (.download b.1.name)) j
      rw [size] at length downloaded
      let fetching : Duty := .asks (.download d (f.elements b.1)) (· = data)
      refine Yields.imp (?_ : Yields _ p j ([fetching] ++ [.saves (f.resolve path) data]) _)
        fun trace done all => InOrder.singleton.mpr ⟨data, length, all⟩
      refine downloaded.bind fun _ p' j' after => .silent (perform_eq none (buffer_eq after.2)) rfl rfl ?_
      refine (Yields.saves after.1.closes after.1).bind fun _ p' j' after => ?_
      cases verbose with
      | false => exact .quiet rfl rfl after.closes after
      | true => exact .quiet rfl rfl after.closes after

end

section

variable {a : Adapter σ} {shell : Shell (StateM W)} {f : PipelineFile} {files : Files Id} {g : Graph}
  {p : Processor (Recorded σ)} {memory : σ} {w : W} {j : Journal W} {rest : List Duty}

theorem zip_handles (f : PipelineFile) : f.pipeline.buffers.zip (f.pipeline.handles ⟨0⟩).buffers =
    f.pipeline.buffers.zipIdx.map fun b => (b.1, ⟨⟨0⟩, b.2⟩) := by
  rw [Pipeline.handles, List.range_eq_range', List.zip_map_right, List.zipIdx_eq_zip_range']
  rfl

theorem Yields.buffers (act : BufferDeclaration × BufferId → Watched σ W Unit)
    {duties : BufferDeclaration × Nat → List Duty} (holds : Processor (Recorded σ) → Journal W → Prop)
    (closed : ∀ p j, holds p j → Closes p p.calls)
    (each : ∀ b ∈ f.pipeline.buffers.zipIdx, ∀ p j, holds p j →
      Yields (act (b.1, ⟨⟨0⟩, b.2⟩)) p j (duties b) fun _ => holds) (held : holds p j) :
    Yields ((f.pipeline.buffers.zip (f.pipeline.handles ⟨0⟩).buffers).forM act) p j
      (f.pipeline.buffers.zipIdx.flatMap duties) fun _ => holds := by
  rw [zip_handles, List.forM_eq_forM, List.forM_map]
  exact .forM closed each held

theorem preparation_yields {γ : Type} [Inhabited γ] {next : Declared → Watched σ W Unit} (steady : shell.Steady)
    (rest : List DeviceBuffer → γ → List Duty) {post : Unit → Processor (Recorded σ) → Journal W → Prop} :
    let files := Files.frozen (shell.contents w)
    (∀ storage p, Holding a (f.declared files a.environment) storage [] .allocated p →
      ∃ c, Yields (next (f.pipeline.handles ⟨0⟩)) p ⟨w, []⟩ (rest storage c) post) →
    ∃ c : List DeviceBuffer × γ, Yields (do
        let declared ← declare f (f.sources files)
        perform (some .allocate) Processor.allocate
        (f.pipeline.buffers.zip declared.buffers).forM fun (b, id) => supply shell.recorded f b id
        next declared) (create a.recorded ⟨memory, []⟩ ⟨0⟩) ⟨w, []⟩
      (f.preparation files a.environment c.1 ++ rest c.1 c.2) post := by
  intro files later
  let allocation (storage : List DeviceBuffer) : Duty :=
    .asks (.allocate ((f.declared files a.environment).registry.buffers.map .ofBuffer)) (· = storage)
  let supplied (storage : List DeviceBuffer) := f.pipeline.buffers.zipIdx.flatMap (f.supplies files storage)
  have filled (storage : List DeviceBuffer) (p : Processor (Recorded σ)) (j : Journal W)
      (held : Holding a (f.declared files a.environment) storage [] .allocated p ∧ j = ⟨w, []⟩) :
      ∃ c, Yields (do
        (f.pipeline.buffers.zip (f.pipeline.handles ⟨0⟩).buffers).forM fun (b, id) => supply shell.recorded f b id
        next (f.pipeline.handles ⟨0⟩)) p j (supplied storage ++ rest storage c) post := by
    have loop := Yields.buffers (fun x => supply shell.recorded f x.1 x.2)
      (fun p j => Holding a (f.declared files a.environment) storage [] .allocated p ∧ j = ⟨w, []⟩)
      (fun p j held => held.1.closes)
      (fun b listed p j held => by
        obtain ⟨held, rfl⟩ := held
        exact supply_yields steady listed (by simp) held) held
    refine Yields.bind_exists _ loop fun _ p j after => ?_
    rw [after.2]
    exact later storage p after.1
  have allocated (p : Processor (Recorded σ))
      (held : Holding a (f.declared files a.environment) [] [] .created p) :
      ∃ c : List DeviceBuffer × γ, Yields (do
        perform (some .allocate) Processor.allocate
        (f.pipeline.buffers.zip (f.pipeline.handles ⟨0⟩).buffers).forM fun (b, id) => supply shell.recorded f b id
        next (f.pipeline.handles ⟨0⟩)) p ⟨w, []⟩ (allocation c.1 :: (supplied c.1 ++ rest c.1 c.2)) post := by
    obtain ⟨storage, first⟩ := allocate_yields held (some .allocate)
    obtain ⟨c, all⟩ := first.bind_exists _ fun _ => filled storage
    exact ⟨(storage, c), all⟩
  have declared := declare_yields a f files memory ⟨w, []⟩
  refine declared.bind_exists (fun (storage, c) => allocation storage :: (supplied storage ++ rest storage c))
    fun d p j started => ?_
  obtain ⟨rfl, held, rfl⟩ := started
  exact allocated p held

theorem lap_eq (shell : Shell (StateM W)) (p : Processor (Recorded σ)) (j : Journal W) :
    (lap shell.recorded : Watched σ W String) p j =
      ((.ok (shell.recorded.lap j).1, p), (shell.recorded.lap j).2) := rfl

theorem computation_yields {storage : List DeviceBuffer} {next : String → String → Watched σ W Unit}
    {post : Unit → Processor (Recorded σ) → Journal W → Prop}
    (held : Holding a (f.declared files a.environment) storage [] .allocated p)
    (later : ∀ built ran compiled p j, Holding a (f.declared files a.environment) storage compiled .ready p →
      Yields (next built ran) p j rest post) :
    ∃ programs, Yields (do
        let _ ← lap shell.recorded
        perform (some .build) build
        let built ← lap shell.recorded
        perform (some .run) Processor.run
        let ran ← lap shell.recorded
        next built ran) p j
      (f.computation files a.environment storage programs ++ rest) post := by
  obtain ⟨programs, built⟩ := build_yields (j := (shell.recorded.lap j).2) held (by simp) (some .build)
  refine ⟨programs, ?_⟩
  rw [PipelineFile.computation, List.cons_append, List.append_assoc]
  refine .silent (lap_eq shell p _) rfl rfl (built.bind fun _ p j after => ?_)
  obtain ⟨ready, each, held⟩ := after
  refine .silent (lap_eq shell p _) rfl rfl ?_
  refine (run_yields held ready each (some .run)).bind fun _ p j held => ?_
  exact .silent (lap_eq shell p _) rfl rfl (later _ _ _ p _ held)

theorem steps_yield (a : Adapter σ) (memory : σ) (f : PipelineFile) (steady : shell.Steady) (verbose : Bool) :
    let files := Files.frozen (shell.contents w)
    ∃ c : List DeviceBuffer × List Program, Yields (steps shell.recorded verbose f (f.sources files))
      (create a.recorded ⟨memory, []⟩ ⟨0⟩) ⟨w, []⟩
      (f.preparation files a.environment c.1 ++ (f.computation files a.environment c.1 c.2 ++ f.delivery c.1))
      fun _ _ _ => True := by
  intro files
  refine preparation_yields steady (fun storage programs =>
    f.computation files a.environment storage programs ++ f.delivery storage) fun storage p held => ?_
  refine computation_yields held fun built ran compiled p j held => ?_
  have loop := Yields.buffers (fun x => deliver shell.recorded verbose f x.1 x.2)
    (fun p _ => Holding a (f.declared files a.environment) storage compiled .ready p)
    (fun p j held => held.closes) (j := j) (fun b listed p j held => deliver_yields verbose listed (by simp) held) held
  rw [← List.append_nil (f.delivery storage)]
  refine loop.bind fun _ p j held => ?_
  cases verbose with
  | false => exact .quiet rfl rfl held.closes trivial
  | true => exact .quiet rfl rfl held.closes trivial

theorem onDevice_eq (steady : shell.Steady) (verbose : Bool) :
    let files := Files.frozen (shell.contents w)
    let ran := steps shell.recorded verbose f (f.sources files) (create a.recorded ⟨memory, []⟩ ⟨0⟩) ⟨w, []⟩
    onDevice shell.recorded verbose f a.recorded ⟨memory, []⟩ ⟨w, []⟩ = ((ran.1.1, ran.1.2.drop), ran.2) := by
  intro files ran
  have read : Sees _ ⟨w, []⟩ _ := sees_sources steady f
  have step : onDevice shell.recorded verbose f a.recorded ⟨memory, []⟩ ⟨w, []⟩ =
      let source := f.readSources shell.recorded.files ⟨w, []⟩
      let ran := steps shell.recorded verbose f source.1 (create a.recorded ⟨memory, []⟩ ⟨0⟩) source.2
      ((ran.1.1, ran.1.2.drop), ran.2) := rfl
  rw [step, read]
  rfl

end

def opened (format : Pipeline.Format) (files : Files Id) (platform : Platform σ) (request : RunRequest) :
    Option (PipelineFile × Adapter σ) := do
  let f ← (Id.run (PipelineFile.load format files request.pipeline)).toOption
  let environment ← (f.pipeline.environmentOr request.environment).toOption
  let a ← (platform.openDevice { environment, device := request.device, block := request.block }).1.toOption
  return (f, a)

theorem execute_cases (format : Pipeline.Format) (shell : Shell (StateM W)) (platform : Platform σ)
    (verbose : Bool) (request : RunRequest) (w : W) (steady : shell.Steady) :
    let files := Files.frozen (shell.contents w)
    let outcome := execute format shell.recorded platform.recorded verbose request ⟨w, []⟩
    (opened format files platform request = none → ∃ failure device, outcome = ((.error failure, device), ⟨w, []⟩) ∧
      failure.cause ≠ .overflow ∧ ∀ r ∈ device, r.calls = []) ∧
    ∀ f a, opened format files platform request = some (f, a) → ∃ memory,
      let ran := onDevice shell.recorded verbose f a.recorded ⟨memory, []⟩ ⟨w, []⟩
      outcome = ((ran.1.1, some ran.1.2), ran.2) := by
  intro files outcome
  have read : outcome = _ := bind_of_ran (sees_load steady format request.pipeline)
  simp only [opened, Id.run]
  cases loaded : PipelineFile.load format files request.pipeline with
  | error e =>
    rw [loaded] at read
    exact ⟨fun _ => ⟨e, none, read, PipelineFile.load_sober loaded, by simp⟩, by simp [Except.toOption]⟩
  | ok f =>
    rw [loaded] at read
    dsimp only at read
    simp only [Except.toOption, Option.bind_eq_bind, Option.bind_some]
    cases chosen : f.pipeline.environmentOr request.environment with
    | error cause =>
      rw [chosen] at read
      exact ⟨fun _ => ⟨_, none, read, Pipeline.environmentOr_sober chosen, by simp⟩, by simp⟩
    | ok environment =>
      let device : DeviceRequest := { environment, device := request.device, block := request.block }
      have recorded : platform.recorded.openDevice device =
        ((platform.openDevice device).1.map Adapter.recorded, ⟨(platform.openDevice device).2, []⟩) := rfl
      rw [chosen] at read
      dsimp only at read
      rw [recorded] at read
      simp only [Option.bind_some]
      generalize platform.openDevice device = answered at read ⊢
      rcases answered with ⟨e | a, memory⟩
      · exact ⟨fun _ => ⟨_, some ⟨memory, []⟩, read, by simp [Failure.during], by simp⟩, by simp⟩
      · refine ⟨by simp, fun _ _ found => ⟨memory, ?_⟩⟩
        cases found
        exact read

theorem ended_eq (format : Pipeline.Format) (shell : Shell (StateM W)) (platform : Platform σ)
    (verbose : Bool) (request : RunRequest)
    (j : Journal W) : (Command.run request).execute format shell.recorded platform.recorded verbose j =
      let ran := execute format shell.recorded platform.recorded verbose request j
      (.ofResult ran.1.1 ran.1.2, ran.2) := rfl

theorem execute_refused (format : Pipeline.Format) (shell : Shell (StateM W)) (platform : Platform σ)
    (verbose : Bool) (request : RunRequest) (w : W) (steady : shell.Steady) :
    let outcome := (Command.run request).execute format shell.recorded platform.recorded verbose ⟨w, []⟩
    opened format (Files.frozen (shell.contents w)) platform request = none →
      outcome.1.code = 1 ∧ outcome.1.device.elim [] (·.calls) = [] ∧ outcome.2.writes = [] := by
  intro outcome none
  obtain ⟨failure, device, ran, sober, unasked⟩ := (execute_cases format shell platform verbose request w steady).1 none
  have ended : outcome = _ := ended_eq format shell platform verbose request ⟨w, []⟩
  rw [ran] at ended
  simp only [ended, Ending.ofResult, Failure.code, sober, ↓reduceIte, true_and, and_true]
  cases device with
  | none => rfl
  | some r => exact unasked r rfl

/-- The exit code of a run: 0 if all is done, 101 if there is no room for a buffer, and 1 otherwise. -/
def Exits (p : Pipeline) (complete : Bool) (code : UInt32) : Prop :=
  complete = true ∧ code = 0 ∨ complete = false ∧ (p.Overflows ∧ code = 101 ∨ ¬ p.Overflows ∧ code = 1)

theorem Exits.complete_iff {p : Pipeline} {complete : Bool} {code : UInt32} (exits : Exits p complete code) :
    complete = true ↔ code = 0 := by
  rcases exits with ⟨rfl, rfl⟩ | ⟨rfl, ⟨-, rfl⟩ | ⟨-, rfl⟩⟩ <;> decide

theorem exits_of_result {p : Pipeline} {result : Except Failure Unit} {device : Option σ}
    (panics : (∃ e, result = .error e ∧ e.cause = .overflow) ↔ p.Overflows) :
    Exits p result.isOk (Ending.ofResult result device).code := by
  cases result with
  | ok _ => exact .inl ⟨rfl, rfl⟩
  | error e =>
    have here : e.cause = .overflow ↔ p.Overflows := by
      rw [← panics]
      constructor
      · exact fun panic => ⟨e, rfl, panic⟩
      · rintro ⟨_, same, panic⟩
        cases same
        exact panic
    refine .inr ⟨rfl, ?_⟩
    by_cases panic : e.cause = .overflow
    · exact .inl ⟨here.mp panic, if_pos panic⟩
    · exact .inr ⟨mt here.mpr panic, if_neg panic⟩

theorem execute_yields (format : Pipeline.Format) (shell : Shell (StateM W)) (platform : Platform σ)
    (verbose : Bool) (request : RunRequest) (w : W) (steady : shell.Steady) {f : PipelineFile} {a : Adapter σ} :
    let files := Files.frozen (shell.contents w)
    let outcome := (Command.run request).execute format shell.recorded platform.recorded verbose ⟨w, []⟩
    opened format files platform request = some (f, a) → ∃ storage programs trace complete,
      InOrder (f.preparation files a.environment storage ++ f.computation files a.environment storage programs ++
        f.delivery storage) trace complete ∧
      outcome.1.device.elim [] (·.calls) =
        Access.calls trace ++ ((Access.calls trace).filterMap issued?).map .release ∧
      outcome.2.writes = Access.writes trace ∧ Exits f.pipeline complete outcome.1.code := by
  intro files outcome found
  obtain ⟨memory, ran⟩ := (execute_cases format shell platform verbose request w steady).2 f a found
  rw [onDevice_eq steady] at ran
  obtain ⟨⟨storage, programs⟩, result, p, j, trace, stepped, order, written, closes, -⟩ :=
    steps_yield a memory f steady verbose (w := w)
  have ended : outcome = _ := ended_eq format shell platform verbose request ⟨w, []⟩
  have panics : Panics (steps shell.recorded verbose f (f.sources files)) (create a.recorded ⟨memory, []⟩ ⟨0⟩) ⟨w, []⟩ ↔
      f.pipeline.Overflows := panics_steps.trans (panics_declare a memory _)
  rw [ran, stepped] at ended
  rw [← List.append_assoc] at order
  have asked : outcome.1.device.elim [] (·.calls) = p.drop.calls := by
    rw [ended]
    cases result <;> rfl
  refine ⟨storage, programs, trace, result.isOk, order, asked.trans closes, ?_, ?_⟩
  · rw [ended]
    exact written
  · rw [ended]
    rw [Panics, stepped] at panics
    exact exits_of_result panics

/-- A run does the duties of its pipeline file in order, up to the first that fails, and then gives back each
program that was compiled. It exits with 0 iff none has failed, with 101 iff the declaration panics, before any call,
and otherwise with 1. It writes no file before all kernels are run. The device and the files are watched apart: how
their turns alternate shows in what is left undone once either fails. -/
theorem execute_in_order (format : Pipeline.Format) (shell : Shell (StateM W)) (platform : Platform σ)
    (verbose : Bool) (request : RunRequest) (w : W) (steady : shell.Steady) :
    let files := Files.frozen (shell.contents w)
    let outcome := (Command.run request).execute format shell.recorded platform.recorded verbose ⟨w, []⟩
    let calls := outcome.1.device.elim [] (·.calls)
    let writes := outcome.2.writes
    (opened format files platform request = none → outcome.1.code = 1 ∧ calls = [] ∧ writes = []) ∧
    ∀ f a, opened format files platform request = some (f, a) → ∃ storage programs trace complete,
      let early := f.preparation files a.environment storage ++ f.computation files a.environment storage programs
      InOrder (early ++ f.delivery storage) trace complete ∧
      calls = Access.calls trace ++ ((Access.calls trace).filterMap issued?).map .release ∧
      writes = Access.writes trace ∧
      Exits f.pipeline complete outcome.1.code ∧ (f.pipeline.Overflows → calls = [] ∧ writes = []) ∧
      (InOrder early trace false ∧ complete = false ∧ writes = [] ∨
        (∃ before after, trace = before ++ after ∧ InOrder early before true ∧
          InOrder (f.delivery storage) after complete) ∧ WrittenInOrder f.outputs writes complete) := by
  intro files outcome calls writes
  refine ⟨execute_refused format shell platform verbose request w steady, fun f a found => ?_⟩
  obtain ⟨storage, programs, trace, complete, order, asked, written, code⟩ :=
    execute_yields format shell platform verbose request w steady found
  have written : writes = Access.writes trace := written
  refine ⟨storage, programs, trace, complete, order, asked, written, code, ?_, ?_⟩
  · intro large
    have unstarted : trace = [] := by
      rw [List.append_assoc] at order
      exact PipelineFile.unstarted (Pipeline.not_declarable_of_overflows large) order
    subst unstarted
    exact ⟨asked, written⟩
  -- Only deliveries write: what is written tells how far they have come.
  have quiet : ∀ duty ∈ f.preparation files a.environment storage ++
      f.computation files a.environment storage programs, duty.Quiet :=
    List.forall_mem_append.mpr ⟨PipelineFile.quiet_preparation, PipelineFile.quiet_computation⟩
  rcases InOrder.append_iff.mp order with ⟨stopped, failed⟩ | ⟨before, after, rfl, first, last⟩
  · exact .inl ⟨stopped, failed, written.trans (stopped.quiet quiet)⟩
  · refine .inr ⟨⟨before, after, rfl, first, last⟩, ?_⟩
    rw [written, Access.writes_append, first.quiet quiet]
    exact PipelineFile.written_of_delivery last

def still (contents : List (Path × ByteArray)) (writable : List Path) : Shell (StateM Unit) where
  files := {
    read := fun path => return match contents.lookup path with
      | some bytes => .ok bytes
      | none => .error .notFound
    write := fun path _ => return if path ∈ writable then .ok () else .error .notFound
    createDirectory := fun _ => return .error .exists
    isDirectory := fun _ => return true }
  print _ := return ()
  lap := return "0s"

def halfWritable : Shell (StateM Unit) :=
  still [(⟨"p"⟩, ("width: 1\nheight: 1\nbuffers:\n- name: b\n  input: d\n  output: b\n- name: c\n  output: c\n" ++
      "kernels:\n- name: k\n  source: k\n  outputs:\n  - binding: B\n    buffer: b\n").toUTF8),
    (⟨"k"⟩, "__kernel".toUTF8), (⟨"d"⟩, ⟨#[0, 0, 64, 64]⟩)] [⟨"b"⟩]

def oneRoutine : Platform HostMemory := HostMemory.platform { routines := [("k", (·.outputs))] } none

def opening : RunRequest := ⟨⟨"p"⟩, some .openCL, .auto, 16⟩

def halfWritten : Ending (Recorded HostMemory) × Journal Unit :=
  (Command.run opening).execute Pipeline.yaml halfWritable.recorded oneRoutine.recorded false ⟨(), []⟩

def uploaded? : DeviceCall → Option (Array Single)
  | .upload _ data _ => some data
  | _ => none

theorem execute_in_order_half_written :
    let calls := halfWritten.1.device.elim [] (·.calls)
    halfWritable.Steady ∧
    (halfWritten.1.code = 1 ∧ calls.length = 7 ∧ calls.filterMap uploaded? = [#[⟨0x40400000⟩]] ∧
      calls.filterMap released? = calls.filterMap issued? ∧
      halfWritten.2.writes.map (fun x => (x.path, x.bytes.data, x.answer.isOk)) =
        [(⟨"b"⟩, #[0, 0, 64, 64], true), (⟨"c"⟩, #[0, 0, 0, 0], false)]) ∧
    ∃ (f : PipelineFile) (a : Adapter HostMemory) (storage : List DeviceBuffer) (programs : List Program)
      (trace : List Access), halfWritten.2.writes = Access.writes trace ∧
      calls = Access.calls trace ++ ((Access.calls trace).filterMap issued?).map .release ∧
      InOrder (f.preparation (Files.frozen (halfWritable.contents ())) a.environment storage ++
        f.computation (Files.frozen (halfWritable.contents ())) a.environment storage programs ++ f.delivery storage)
        trace false := by
  intro calls
  have steady : halfWritable.Steady := fun _ _ => rfl
  have shown : halfWritten.1.code = 1 ∧ (halfWritten.1.device.elim [] (·.calls)).length = 7 ∧
      (halfWritten.1.device.elim [] (·.calls)).filterMap uploaded? = [#[⟨0x40400000⟩]] ∧
      (halfWritten.1.device.elim [] (·.calls)).filterMap released? =
        (halfWritten.1.device.elim [] (·.calls)).filterMap issued? ∧
      halfWritten.2.writes.map (fun x => (x.path, x.bytes.data, x.answer.isOk)) =
        [(⟨"b"⟩, #[0, 0, 64, 64], true), (⟨"c"⟩, #[0, 0, 0, 0], false)] := by
    decide +kernel
  have ran : (Command.run opening).execute Pipeline.yaml halfWritable.recorded oneRoutine.recorded false ⟨(), []⟩ =
      halfWritten := by
    delta halfWritten
    rfl
  have all := execute_in_order Pipeline.yaml halfWritable oneRoutine false opening () steady
  rw [ran] at all
  refine ⟨steady, shown, ?_⟩
  cases found : opened Pipeline.yaml (Files.frozen (halfWritable.contents ())) oneRoutine opening with
  | none =>
    have unwritten : halfWritten.2.writes = [] := (all.1 found).2.2
    rw [unwritten] at shown
    cases shown.2.2.2.2
  | some opened =>
    obtain ⟨storage, programs, trace, complete, order, asked, written, code, -⟩ := all.2 opened.1 opened.2 found
    have failed : complete = false := by
      rw [Bool.eq_false_iff, ne_eq, code.complete_iff, shown.1]
      decide
    subst failed
    exact ⟨opened.1, opened.2, storage, programs, trace, written, asked, order⟩

def immense : Shell (StateM Unit) :=
  still [(⟨"p"⟩, "width: 2147483647\nheight: 2147483647\nbuffers:\n- name: b\n".toUTF8)] []

def immenseRun : Ending (Recorded HostMemory) × Journal Unit :=
  (Command.run opening).execute Pipeline.yaml immense.recorded oneRoutine.recorded false ⟨(), []⟩

theorem wellFormed_run_panics :
    let p : Pipeline := ⟨none, 2147483647, 2147483647, [⟨"b", 1, none, none, none⟩], []⟩
    (opened Pipeline.yaml (Files.frozen (immense.contents ())) oneRoutine opening).map (·.1) = some ⟨p, ⟨""⟩⟩ ∧
      p.WellFormed ∧ immenseRun.1.code = 101 ∧ immenseRun.1.device.map (·.calls.length) = some 0 ∧
      immenseRun.2.writes.length = 0 := by
  refine ⟨by decide +kernel, ?_, by decide +kernel, by decide +kernel, by decide +kernel⟩
  exact ⟨by decide, by decide, by decide, by decide, by decide, by simp⟩

end PixelPipeline.Run
