import PixelPipeline.Proofs.Outlines
import PixelPipeline.Proofs.Yields

/-!
What a processor holds in the course of an execution, and what its operations do then. Main statements: each
operation carries out its duties in order, up to the first that fails.
-/
namespace PixelPipeline

open DeviceCall Outcome

namespace Run

open Processor

variable {σ W : Type}

structure Holding (a : Adapter σ) (g : Graph) (storage : List DeviceBuffer) (compiled : List CompiledKernel)
    (stage : Stage) (p : Processor (Recorded σ)) : Prop where
  adapter : p.adapter = a.recorded
  graph : p.graph.blank = g.blank
  stored : p.storage = storage
  programs : p.compiled = compiled
  stage : p.stage = stage
  issued : p.calls.filterMap issued? = compiled.map (·.program)

section

variable {a : Adapter σ} {g : Graph} {storage : List DeviceBuffer} {compiled : List CompiledKernel} {stage : Stage}
  {p : Processor (Recorded σ)} {id : BufferId} {b : Buffer}

theorem Holding.registry (held : Holding a g storage compiled stage p) :
    p.graph.registry.blank = g.registry.blank := by
  show p.graph.blank.registry = g.blank.registry
  rw [held.graph]

theorem Holding.kernels (held : Holding a g storage compiled stage p) : p.graph.kernels = g.kernels := by
  show p.graph.blank.kernels = g.blank.kernels
  rw [held.graph]

theorem Holding.entries (held : Holding a g storage compiled stage p) :
    p.graph.kernelEntries = g.kernelEntries := by
  have owner : p.graph.owner = g.owner := by
    show p.graph.registry.blank.owner = g.registry.blank.owner
    rw [held.registry]
  rw [Graph.kernelEntries, owner, held.kernels]
  rfl

theorem Holding.target (held : Holding a g storage compiled stage p) : p.graph.environment = g.environment := by
  show p.graph.blank.environment = g.blank.environment
  rw [held.graph]

theorem Holding.closes (held : Holding a g storage compiled stage p) : Closes p p.calls := by
  rw [Closes, drop_calls a held.adapter, held.issued, held.programs, releases, List.map_map]
  rfl

theorem Holding.called (held : Holding a g storage compiled stage p) (memory : σ) (calls : List DeviceCall)
    (none : calls.filterMap issued? = []) :
    Holding a g storage compiled stage { p with memory := ⟨memory, p.calls ++ calls⟩ } where
  adapter := held.adapter
  graph := held.graph
  stored := held.stored
  programs := held.programs
  stage := held.stage
  issued := by
    show (p.calls ++ calls).filterMap issued? = _
    rw [List.filterMap_append, held.issued, none, List.append_nil]

theorem Holding.moved (held : Holding a g storage compiled stage p) (next : Stage) :
    Holding a g storage compiled next { p with stage := next } :=
  { held with stage := rfl }

theorem buffer_eq (buffer : p.graph.buffer id = .ok b) : Processor.buffer id p = (.ok b, p) :=
  Prod.ext buffer rfl

theorem Holding.filled (held : Holding a g storage compiled stage p) {c : Buffer}
    (buffer : p.graph.buffer id = .ok b) (same : c.blank = b.blank) :
    Holding a g storage compiled stage { p with graph := { p.graph with registry := { p.graph.registry with
      buffers := p.graph.registry.buffers.set id.index c } } } where
  adapter := held.adapter
  graph := (Graph.blank_set (Registry.get_eq_ok.mp buffer).2 same).trans held.graph
  stored := held.stored
  programs := held.programs
  stage := held.stage
  issued := held.issued

theorem Holding.transfers (held : Holding a g storage compiled stage p) (late : stage ≠ .created)
    (buffer : p.graph.buffer id = .ok b) {x : Watched σ W Unit} {j : Journal W} {duty : DeviceBuffer → Duty}
    {post : Unit → Processor (Recorded σ) → Journal W → Prop}
    (unstored : ∀ e, p.requireStorage id = .error e → ∃ r, x p j = ((.error r, p), j))
    (stored : ∀ d, p.requireStorage id = .ok d → Yields x p j [duty d] post) :
    Yields x p j [.needs (storage[id.index]? = some ·) duty] post := by
  have required : p.requireStorage id = deviceBuffer p.graph storage id := by
    rw [requireStorage_late (held.stage ▸ late), held.stored]
  rw [deviceBuffer, buffer] at required
  cases found : storage[id.index]? with
  | none =>
    rw [found] at required
    obtain ⟨r, ran⟩ := unstored _ required
    have none : ∀ d, ¬ (Option.none : Option DeviceBuffer) = some d := by simp
    exact .stopped ran held.closes (.inr ⟨none, Duty.check_false not_false⟩)
  | some d =>
    rw [found] at required
    exact .needed rfl (stored d required)

theorem Holding.uploads (held : Holding a g storage compiled stage p) (late : stage ≠ .created)
    (buffer : p.graph.buffer id = .ok b) (activity : Option Activity) (j : Journal W) :
    Yields (perform activity (Processor.upload id)) p j
      [.needs (storage[id.index]? = some ·) fun d => .asks (.upload d b.data) fun _ => True]
      fun _ p' j' => Holding a g storage compiled stage p' ∧ j' = j := by
  refine held.transfers late buffer (fun e required => ?_) fun d required => ?_
  · have refused : Processor.upload id p = (.error e, p) := by
      simp only [Processor.upload, required, bind, Except.bind]
    exact ⟨_, perform_eq activity refused⟩
  · obtain ⟨answer, memory, all⟩ := upload_stored held.adapter required buffer
    have after := held.called memory [.upload d b.data answer] rfl
    exact .asked answer all rfl rfl (fun _ _ => trivial) after.closes fun _ _ => ⟨after, rfl⟩

theorem Holding.downloads (held : Holding a g storage compiled stage p) (buffer : p.graph.buffer id = .ok b)
    {d : DeviceBuffer} (required : p.requireStorage id = .ok d) (activity : Option Activity) (j : Journal W) :
    ∃ data : Array Single, data.size = b.size ∧ Yields (perform activity (Processor.download id)) p j
      [.asks (.download d b.size) (· = data)]
      fun _ p' _ => Holding a g storage compiled stage p' ∧ p'.graph.buffer id = .ok { b with data } := by
  obtain ⟨answer, data, memory, all⟩ := download_stored held.adapter required buffer
  have same : ({ b with data := data.toArray } : Buffer).blank = b.blank := by
    simp [Buffer.blank, Buffer.size]
  have after := (held.filled buffer same).called memory [.download d b.size (answer.map fun _ => data.toArray)] rfl
  obtain ⟨own, found⟩ := Registry.get_eq_ok.mp buffer
  have early := (List.getElem?_eq_some_iff.mp found).1
  refine ⟨data.toArray, Vector.size_toArray data, .asked (answer.map fun _ => data.toArray) all rfl ?_ ?_ after.closes
    fun _ _ => ⟨after, Registry.get_eq_ok.mpr ⟨own, List.getElem?_set_self early⟩⟩⟩
  · cases answer <;> rfl
  · intro contents reported
    obtain ⟨-, -, same⟩ := map_eq_ok.mp reported
    exact same.symm

theorem Holding.supplies (held : Holding a g storage compiled stage p) (late : stage ≠ .created)
    (buffer : p.graph.buffer id = .ok b) (edit : Buffer → Except Error Buffer) {data : Array Single}
    (edited : edit b = .ok { b with data }) (size : data.size = b.size) (activity : Option Activity) (j : Journal W) :
    Yields (do
        perform none (modifyBuffer id edit)
        perform activity (Processor.upload id)) p j
      [.needs (storage[id.index]? = some ·) fun d => .asks (.upload d data) fun _ => True]
      fun _ p' j' => Holding a g storage compiled stage p' ∧ j' = j := by
  have changed := Graph.modifyBuffer_eq_ok.mpr ⟨b, _, buffer, edited, rfl⟩
  have ran : p.modifyBuffer id edit = (.ok (), { p with graph := { p.graph with registry := { p.graph.registry with
      buffers := p.graph.registry.buffers.set id.index { b with data } } } }) := by
    simp only [modifyBuffer, onGraph, changed, Except.map]
  have same : ({ b with data } : Buffer).blank = b.blank := by
    simp only [Buffer.blank, Buffer.size] at size ⊢
    rw [size]
  obtain ⟨own, found⟩ := Registry.get_eq_ok.mp buffer
  have early := (List.getElem?_eq_some_iff.mp found).1
  have now : Registry.get { p.graph.registry with
      buffers := p.graph.registry.buffers.set id.index { b with data } } id = .ok { b with data } :=
    Registry.get_eq_ok.mpr ⟨own, List.getElem?_set_self early⟩
  exact .silent (perform_eq none ran) rfl rfl ((held.filled buffer same).uploads late now activity j)

end

section

variable {a : Adapter σ} {f : PipelineFile} {files : Files Id} {g : Graph} {p : Processor (Recorded σ)} {memory : σ}
  {j : Journal W}

theorem declare_yields (a : Adapter σ) (f : PipelineFile) (files : Files Id) (memory : σ) (j : Journal W) :
    Yields (declare f (f.sources files)) (create a.recorded ⟨memory, []⟩ ⟨0⟩) j
    [.check (f.pipeline.Declarable ∧
      ∀ k ∈ f.pipeline.kernels, ∃ text, f.textOf (some (f.sources files)) k = .ok text)]
    fun d p' j' => d = f.pipeline.handles ⟨0⟩ ∧ Holding a (f.declared files a.environment) [] [] .created p' ∧
      j' = j := by
  have all : (create a.recorded ⟨memory, []⟩ ⟨0⟩).declare f (some (f.sources files)) = _ :=
    f.declare_on_processor a.recorded ⟨memory, []⟩ ⟨0⟩
  cases made : f.declare (some (f.sources files)) (.empty a.recorded.environment ⟨0⟩) with
  | mk outcome h =>
    simp only [made] at all
    have ran : (declare f (f.sources files) : Watched σ W Declared) (create a.recorded ⟨memory, []⟩ ⟨0⟩) j =
        ((outcome, { create a.recorded ⟨memory, []⟩ ⟨0⟩ with graph := h }), j) := by
      rw [← all]
      rfl
    have closes : Closes { create a.recorded (Recorded.mk memory []) ⟨0⟩ with graph := h } [] := by
      rw [Closes, drop_calls a rfl]
      rfl
    cases outcome with
    | error e =>
      refine .stopped ran closes (Duty.check_false fun valid => ?_)
      have succeeds : Declaring.Makes (f.declare (some (f.sources files))) (.empty a.recorded.environment ⟨0⟩) _ _ :=
        PipelineFile.makes_declare_from.mpr ⟨valid, rfl, rfl⟩
      rw [Declaring.Makes, made] at succeeds
      cases succeeds
    | ok d =>
      obtain ⟨valid, rfl, rfl⟩ := PipelineFile.makes_declare_from.mp made
      refine ⟨_, _, j, [], ran, InOrder.singleton.mpr (Duty.check_true valid), (List.append_nil _).symm, closes,
        fun _ same => ?_⟩
      cases same
      exact ⟨rfl, rfl, ⟨rfl, rfl, rfl, rfl, rfl, rfl⟩, rfl⟩

theorem allocate_yields (held : Holding a g [] [] .created p) (activity : Option Activity) : ∃ storage,
    Yields (perform activity Processor.allocate) p j
      [.asks (.allocate (g.registry.buffers.map .ofBuffer)) (· = storage)]
      fun _ p' j' => Holding a g storage [] .allocated p' ∧ j' = j := by
  have described : descriptions p.graph = g.registry.buffers.map .ofBuffer := by
    rw [← descriptions_blank, held.graph, descriptions_blank]
    rfl
  have step := allocate_step held.adapter
  cases ran : p.allocate with
  | mk answer p' =>
    rw [ran] at step
    cases step with
    | edited only => cases only
    | refused e reaches => exact absurd rfl reaches
    | allocated storage memory =>
      have after : Holding a g storage [] .allocated { p with
          memory := ⟨memory, p.calls ++ [.allocate (descriptions p.graph) (.ok storage)]⟩
          storage
          stage := if p.stage = .created then .allocated else p.stage } := by
        have called := held.called memory [.allocate (descriptions p.graph) (.ok storage)] rfl
        exact { called with stored := rfl, stage := if_pos held.stage }
      refine ⟨storage, .asked (.ok storage) ran ?_ rfl ?_ after.closes fun _ _ => ⟨after, rfl⟩⟩
      · rw [← described]
        rfl
      · rintro _ ⟨⟩
        rfl
    | unallocated e memory =>
      rw [held.programs, show releases [] = [] from rfl] at ran
      have after : Holding a g [] [] .created { p with
          memory := ⟨memory, p.calls ++ [.allocate (descriptions p.graph) (.error e)]⟩
          storage := []
          compiled := []
          stage := .created } := by
        have called := held.called memory [.allocate (descriptions p.graph) (.error e)] rfl
        exact { called with stored := rfl, programs := rfl, stage := rfl }
      refine ⟨[], .asked (.error e) ran ?_ rfl (fun _ impossible => ?_) after.closes fun _ impossible => ?_⟩
      · rw [← described]
        rfl
      · cases impossible
      · cases impossible

end

section

variable {a : Adapter σ} {g : Graph} {f : PipelineFile} {files : Files Id} {environment : Environment}
  {storage : List DeviceBuffer} {compiled : List CompiledKernel} {stage : Stage} {programs : List Program}
  {p : Processor (Recorded σ)} {units : List SourceUnit} {j : Journal W}

theorem Holding.ready_iff (held : Holding a g storage compiled stage p) {k : Kernel} :
    k.Ready p ↔ k.Buildable g storage := by
  have known (id : BufferId) : p.graph.registry.contains id = g.registry.contains id := by
    rw [← Registry.contains_blank, held.registry, Registry.contains_blank]
  constructor
  · rintro ⟨source, output, bindings⟩
    exact ⟨source, output, fun b member => known b.buffer ▸ held.stored ▸ bindings b member⟩
  · rintro ⟨source, output, bindings⟩
    refine ⟨source, output, fun b member => ?_⟩
    rw [Binding.Ready, known, held.stored]
    exact bindings b member

def Assembles (g : Graph) : List Kernel → List SourceUnit → Prop :=
  List.Forall₂ fun k u => u.kernel = k ∧ k.assemble g.registry g.environment = .ok u.source

theorem Holding.assembles (held : Holding a g storage compiled stage p) (assembled : p.Assembled units) :
    Assembles g g.kernels units := by
  rw [Assembles, ← held.kernels, ← kernelEntries_kernels, List.forall₂_map_left_iff]
  refine assembled.imp fun entry u unit => ⟨unit.2.1, ?_⟩
  rw [← Kernel.assemble_blank, ← held.registry, ← held.target, Kernel.assemble_blank]
  exact unit.2.2

theorem inOrder_compiles {ks : List Kernel} (assembled : Assembles (f.declared files environment) ks units)
    (each : programs.length = units.length) (before after : List Program) :
    InOrder ((ks.zipIdx before.length).map (f.compiles files environment (before ++ programs ++ after)))
      ((compiles units programs).map .call) true := by
  unfold Assembles at assembled
  induction assembled generalizing programs before with
  | nil => exact .nil
  | @cons k u ks units first rest ih =>
    cases programs with
    | nil => cases each
    | cons program programs =>
      obtain ⟨rfl, source⟩ := first
      have later := ih (Nat.succ.inj each) (before ++ [program])
      rw [List.length_append, List.length_singleton, List.append_assoc before, List.singleton_append] at later
      have here : (before ++ program :: programs ++ after)[before.length]? = some program := by simp
      refine .call ⟨u.source, source, .ok program, rfl, rfl, fun _ same => ?_⟩ later
      cases same
      exact here

theorem inOrder_compiles_refused {ks : List Kernel} {first rest : List SourceUnit} {u : SourceUnit} {e : Error}
    (assembled : Assembles (f.declared files environment) ks (first ++ u :: rest))
    (each : programs.length = first.length) :
    InOrder (ks.zipIdx.map (f.compiles files environment programs))
      ((compiles first programs ++ [DeviceCall.compile u.kernel.name u.source (.error e)]).map .call) false := by
  have early := List.forall₂_take_append _ _ _ assembled
  have late := List.forall₂_drop_append _ _ _ assembled
  rw [← List.take_append_drop first.length ks, List.zipIdx_append, List.map_append, List.map_append]
  refine InOrder.append_iff.mpr (.inr ⟨_, _, rfl, ?_, ?_⟩)
  · have all := inOrder_compiles early each [] []
    rwa [List.nil_append, List.append_nil] at all
  · cases dropped : ks.drop first.length with
    | nil =>
      rw [dropped] at late
      cases late
    | cons k others =>
      rw [dropped] at late
      cases late with
      | cons unit _ =>
        obtain ⟨rfl, source⟩ := unit
        refine .failed ⟨u.source, source, .error e, rfl, rfl, fun _ impossible => ?_⟩
        cases impossible

theorem Holding.rebuilt (held : Holding a g storage [] stage p) (memory : σ) (each : programs.length = units.length)
    (made : List.zipWith SourceUnit.compiled units programs =
      List.zipWith compiledEntry p.graph.kernelEntries programs) :
    Holding a g storage (List.zipWith compiledEntry g.kernelEntries programs) .built { p with
      memory := ⟨memory, p.calls ++ compiles units programs⟩
      compiled := List.zipWith SourceUnit.compiled units programs
      stage := .built } where
  adapter := held.adapter
  graph := held.graph
  stored := held.stored
  programs := made.trans (by rw [held.entries])
  stage := rfl
  issued := by
    show (p.calls ++ compiles units programs).filterMap issued? = _
    rw [List.filterMap_append, held.issued, issued_compiles each, ← held.entries, ← made, programs_compiled each]
    rfl

theorem Holding.undone (held : Holding a g storage [] stage p) (memory : σ) (each : programs.length = units.length)
    {refused : DeviceCall} (none : refused.issued? = none) :
    Closes { p with memory := ⟨memory, p.calls ++ (compiles units programs ++
        refused :: releases (List.zipWith SourceUnit.compiled units programs))⟩ }
      (p.calls ++ (compiles units programs ++ [refused])) := by
  have made : (p.calls ++ (compiles units programs ++ [refused])).filterMap issued? = programs := by
    rw [List.filterMap_append, List.filterMap_append, held.issued, issued_compiles each,
      List.filterMap_cons_none none, List.filterMap_nil, List.append_nil]
    rfl
  have dropped := drop_calls a (p := { p with memory := ⟨memory, p.calls ++ (compiles units programs ++
    refused :: releases (List.zipWith SourceUnit.compiled units programs))⟩ }) held.adapter
  rw [Closes, dropped, made, ← releases_compiled each, held.programs]
  simp [calls, releases]

theorem build_yields (held : Holding a (f.declared files a.environment) storage [] stage p)
    (late : stage ≠ .created) (activity : Option Activity) :
    let g := f.declared files a.environment
    ∃ programs, Yields (perform activity build) p j
      (.check (∀ k ∈ g.kernels, k.Buildable g storage) ::
        g.kernels.zipIdx.map (f.compiles files a.environment programs))
      fun _ p' _ => (∀ k ∈ g.kernels, k.Buildable g storage) ∧ programs.length = g.kernels.length ∧
        Holding a g storage (List.zipWith compiledEntry g.kernelEntries programs) .built p' := by
  intro g
  have started : p.stage ≠ .created := held.stage ▸ late
  by_cases ready : ∀ k ∈ g.kernels, k.Buildable g storage
  · have all : ∀ k ∈ p.graph.kernels, k.Ready p := by
      rw [held.kernels]
      exact fun k member => held.ready_iff.mpr (ready k member)
    obtain ⟨units, prepared⟩ := (exists_prepareAll started).mpr all
    have assembled := assembled_of_prepareAll started prepared
    have checked := Duty.check_true ready
    rcases build_ready held.adapter started prepared with
      ⟨programs, memory, each, built⟩ | ⟨first, u, rest, programs, e, memory, rfl, each, failed⟩
    · rw [held.programs, show releases [] = [] from rfl, List.append_nil] at built
      have after := held.rebuilt memory each (assembled.compiled programs)
      have carried := inOrder_compiles (held.assembles assembled) each [] []
      rw [List.nil_append, List.append_nil] at carried
      have count : programs.length = g.kernels.length := each.trans (held.assembles assembled).length_eq.symm
      exact ⟨programs, .performed built (.next checked carried) after.closes
        fun _ _ => ⟨rfl, ready, count, after⟩⟩
    · have carried := inOrder_compiles_refused (e := e) (held.assembles assembled) each
      refine ⟨programs, .performed failed (.next checked carried) (held.undone memory each rfl)
        fun _ impossible => ?_⟩
      cases impossible
  -- The build checks all kernels before it compiles the first.
  · have unready : ∃ k ∈ p.graph.kernels, ¬ k.Ready p := by
      push Not at ready
      obtain ⟨k, member, lacking⟩ := ready
      exact ⟨k, held.kernels ▸ member, fun made => lacking (held.ready_iff.mp made)⟩
    obtain ⟨_, _, _, fault, -, -, -, refused⟩ := build_of_unready started unready
    exact ⟨[], .stopped (perform_eq activity refused) held.closes (Duty.check_false ready)⟩

theorem exists_launch {k : Kernel} {i : Nat} (ready : k.Buildable g storage) (found : g.kernels[i]? = some k)
    (program : Program) : ∃ l, launch g storage (compiledEntry (⟨g.owner, i⟩, k) program) = .ok l ∧
      l.kernel = k.name ∧ l.program = program := by
  have bound (bindings : List Binding) (listed : bindings ⊆ k.inputs ++ k.outputs) :
      ∃ arguments, resolveBindings g storage bindings = .ok arguments := by
    simp only [resolveBindings_eq_mapM, exists_mapM_eq_ok, map_eq_ok]
    intro b member
    obtain ⟨known, early⟩ := ready.bindings b (listed member)
    exact ⟨_, _, deviceBuffer_eq_ok.mpr ⟨known, List.getElem?_eq_getElem early⟩, rfl⟩
  have valued : ∃ values, resolveParameters k (k.parameters.signatureOrder.map (·.name)) = .ok values := by
    simp only [resolveParameters_eq_mapM, exists_mapM_eq_ok, List.forall_mem_map, Kernel.valueOf_eq_ok]
    intro q member
    refine Option.isSome_iff_exists.mp (List.find?_isSome.mpr ⟨q, ?_, by simp⟩)
    exact ParameterSet.mem_signatureOrder member
  obtain ⟨inputs, reads⟩ := bound k.inputs (List.subset_append_left ..)
  obtain ⟨outputs, writes⟩ := bound k.outputs (List.subset_append_right ..)
  obtain ⟨values, read⟩ := valued
  refine ⟨⟨k.name, program, inputs, outputs, values, g.dimensions.1, g.dimensions.2⟩, ?_, rfl, rfl⟩
  simp only [launch, compiledEntry, bind_eq_ok]
  exact ⟨k, Graph.kernel_eq_ok.mpr ⟨rfl, found⟩, inputs, reads, outputs, writes, values, read, rfl⟩

theorem exists_launches (ready : ∀ k ∈ (f.declared files environment).kernels,
      k.Buildable (f.declared files environment) storage)
    (each : programs.length = (f.declared files environment).kernels.length) :
    let g := f.declared files environment
    ∃ launches, (List.zipWith compiledEntry g.kernelEntries programs).map (launch g storage) = launches.map .ok ∧
      List.Forall₂ (f.Launches files environment storage programs) g.kernels.zipIdx launches := by
  intro g
  have known : ∀ c ∈ g.kernels.zipIdx.zip programs,
      ∃ l, launch g storage (compiledEntry (⟨⟨0⟩, c.1.2⟩, c.1.1) c.2) = .ok l ∧
        f.Launches files environment storage programs c.1 l := by
    intro c member
    obtain ⟨i, found⟩ := List.mem_iff_getElem?.mp member
    obtain ⟨entry, program⟩ := List.getElem?_zip_eq_some.mp found
    rw [List.getElem?_zipIdx, Option.map_eq_some_iff] at entry
    obtain ⟨k, kernel, same⟩ := entry
    obtain ⟨l, planned, name, made⟩ := exists_launch (ready k (List.mem_of_getElem? kernel)) kernel c.2
    rw [← same, Nat.zero_add]
    exact ⟨l, planned, name, by rw [made]; exact program, by rw [made]; exact planned⟩
  obtain ⟨launches, planned, all⟩ := mapM_related known
  have entries : List.zipWith compiledEntry g.kernelEntries programs =
      (g.kernels.zipIdx.zip programs).map fun c => compiledEntry (⟨⟨0⟩, c.1.2⟩, c.1.1) c.2 := by
    rw [Graph.kernelEntries, List.mapIdx_eq_zipIdx_map, List.zipWith_map_left, ← List.map_uncurry_zip_eq_zipWith]
    rfl
  refine ⟨launches, ?_, ?_⟩
  · rw [entries, List.map_map, ← List.forall₂_eq_eq_eq, List.forall₂_map_left_iff, List.forall₂_map_right_iff]
    exact mapM_eq_ok.mp planned
  · have length : g.kernels.zipIdx.length ≤ programs.length := by
      rw [List.length_zipIdx, each]
    rw [← List.map_fst_zip length, List.forall₂_map_left_iff]
    exact all

theorem inOrder_dispatches {ks : List (Kernel × Nat)} {launches : List Launch} {calls : List DeviceCall}
    {answer : Except Error Unit} (planned : List.Forall₂ (f.Launches files environment storage programs) ks launches)
    (dispatched : Dispatches (launches.map .ok) calls answer) :
    InOrder (ks.map (f.dispatches files environment storage programs)) (calls.map .call) answer.isOk := by
  induction planned generalizing calls with
  | nil =>
    cases dispatched
    exact .nil
  | @cons k l ks launches first rest ih =>
    cases dispatched with
    | refused _ e =>
      refine .failed ⟨l, first, .error e, rfl, rfl, fun _ _ => trivial⟩
    | next _ later =>
      exact .call ⟨l, first, .ok (), rfl, rfl, fun _ _ => trivial⟩ (ih later)

theorem run_yields (held : Holding a (f.declared files environment) storage
      (List.zipWith compiledEntry (f.declared files environment).kernelEntries programs) .built p)
    (ready : ∀ k ∈ (f.declared files environment).kernels, k.Buildable (f.declared files environment) storage)
    (each : programs.length = (f.declared files environment).kernels.length) (activity : Option Activity) :
    let g := f.declared files environment
    Yields (perform activity Processor.run) p j
      (g.kernels.zipIdx.map (f.dispatches files environment storage programs))
      fun _ p' _ => Holding a g storage (List.zipWith compiledEntry g.kernelEntries programs) .ready p' := by
  intro g
  obtain ⟨launches, planned, all⟩ := exists_launches ready each
  -- No launch depends on what the buffers hold.
  have plan : p.compiled.map (launch p.graph p.storage) = launches.map .ok := by
    rw [held.programs, held.stored, ← planned]
    refine List.map_congr_left fun c _ => ?_
    rw [← launch_blank, held.graph, launch_blank]
  have silent {calls : List DeviceCall} {answer : Except Error Unit}
      (dispatched : Dispatches (p.compiled.map (launch p.graph p.storage)) calls answer) :
      calls.filterMap issued? = [] := by
    refine List.filterMap_eq_nil_iff.mpr fun call member => ?_
    obtain ⟨l, _, rfl, -⟩ := dispatched.planned call member
    rfl
  rcases run_late held.adapter (.inl held.stage) with
    ⟨calls, memory, dispatched, ran⟩ | ⟨e, calls, memory, dispatched, failed⟩
  · have after := (held.called memory calls (silent dispatched)).moved .ready
    exact .performed ran (inOrder_dispatches all (plan ▸ dispatched)) after.closes fun _ _ => ⟨rfl, after⟩
  · have after := held.called memory calls (silent dispatched)
    refine .performed failed (inOrder_dispatches all (plan ▸ dispatched)) after.closes fun _ impossible => ?_
    cases impossible

end

end Run

end PixelPipeline
