import PixelPipeline.Proofs.Ledger
import PixelPipeline.Proofs.Lookup

namespace PixelPipeline

open Outcome

variable {σ : Type}

def Binding.Ready (p : Processor σ) (b : Binding) : Prop :=
  p.graph.registry.contains b.buffer ∧ b.buffer.index < p.storage.length

inductive Binding.Lacks (p : Processor σ) (b : Binding) : Error → Prop
  | unresolved (absent : ¬ p.graph.registry.contains b.buffer) :
      b.Lacks p (.foreign .buffer b.buffer.index)
  | unstored {buffer : Buffer} (held : p.graph.buffer b.buffer = .ok buffer)
      (late : p.storage.length ≤ b.buffer.index) : b.Lacks p (.misuse (.noStorage buffer.name))

structure Kernel.Ready (p : Processor σ) (k : Kernel) : Prop where
  source : ¬ Text.isBlankText k.source
  output : k.outputs ≠ []
  bindings : ∀ b ∈ k.inputs ++ k.outputs, b.Ready p

inductive Kernel.Lacks (p : Processor σ) (k : Kernel) : Error → Prop
  | source (blank : Text.isBlankText k.source) : k.Lacks p (.incomplete k.name .blankSource)
  | output (source : ¬ Text.isBlankText k.source) (none : k.outputs = []) :
      k.Lacks p (.incomplete k.name .noOutput)
  | binding {before after : List Binding} {b : Binding} {e : Error}
      (source : ¬ Text.isBlankText k.source) (output : k.outputs ≠ [])
      (split : k.inputs ++ k.outputs = before ++ b :: after) (earlier : ∀ c ∈ before, c.Ready p)
      (lacks : b.Lacks p e) : k.Lacks p e

namespace Processor

open DeviceCall

def Assembled (p : Processor σ) (units : List SourceUnit) : Prop :=
  List.Forall₂ (fun entry u => u.id = entry.1 ∧ u.kernel = entry.2 ∧
    entry.2.assemble p.graph.registry p.graph.environment = .ok u.source) p.graph.kernelEntries units

variable {p : Processor σ}

theorem requireStorage_eq_error {b : Binding} {e : Error} (late : p.stage ≠ .created) :
    p.requireStorage b.buffer = .error e ↔ b.Lacks p e := by
  rw [requireStorage_late late, deviceBuffer_eq_error]
  constructor
  · rintro (⟨absent, rfl⟩ | ⟨buffer, held, behind, rfl⟩)
    · exact .unresolved absent
    · exact .unstored held behind
  · rintro (absent | ⟨held, behind⟩)
    · exact .inl ⟨absent, rfl⟩
    · exact .inr ⟨_, held, behind, rfl⟩

theorem exists_requireStorage {b : Binding} (late : p.stage ≠ .created) :
    (∃ d, p.requireStorage b.buffer = .ok d) ↔ b.Ready p := by
  simp only [requireStorage_late late, deviceBuffer_eq_ok, exists_and_left, List.getElem?_eq_some_iff]
  constructor
  · rintro ⟨known, d, early, -⟩
    exact ⟨known, early⟩
  · rintro ⟨known, early⟩
    exact ⟨known, _, early, rfl⟩

theorem checkBindings_eq_ok {bindings : List Binding} (late : p.stage ≠ .created) :
    p.checkBindings bindings = .ok () ↔ ∀ b ∈ bindings, b.Ready p := by
  simp only [checkBindings_eq_mapM, map_eq_ok, and_true, exists_mapM_eq_ok, exists_requireStorage late]

theorem checkBindings_eq_error {bindings : List Binding} {e : Error} (late : p.stage ≠ .created) :
    p.checkBindings bindings = .error e ↔ ∃ before b after,
      bindings = before ++ b :: after ∧ (∀ c ∈ before, c.Ready p) ∧ b.Lacks p e := by
  simp only [checkBindings_eq_mapM, map_eq_error, mapM_eq_error, exists_requireStorage late,
    requireStorage_eq_error late]

theorem validate_eq_ok {k : Kernel} :
    k.validate = .ok () ↔ ¬ Text.isBlankText k.source ∧ k.outputs ≠ [] := by
  by_cases blank : Text.isBlankText k.source
  · simp [Kernel.validate, blank]
  · by_cases none : k.outputs = [] <;> simp [Kernel.validate, blank, none]

theorem validate_eq_error {k : Kernel} {e : Error} :
    k.validate = .error e ↔ (Text.isBlankText k.source ∧ e = .incomplete k.name .blankSource) ∨
      (¬ Text.isBlankText k.source ∧ k.outputs = [] ∧ e = .incomplete k.name .noOutput) := by
  rw [eq_comm]
  by_cases blank : Text.isBlankText k.source
  · simp [Kernel.validate, blank]
  · by_cases none : k.outputs = [] <;> simp [Kernel.validate, blank, none]

theorem exists_assemble {k : Kernel} {r : Registry} {e : Environment}
    (known : ∀ b ∈ k.inputs ++ k.outputs, r.contains b.buffer) :
    ∃ source, k.assemble r e = .ok source := by
  have resolved (bindings : List Binding) (listed : bindings ⊆ k.inputs ++ k.outputs) :
      ∃ arguments, Signature.resolve r bindings = .ok arguments := by
    simp only [Signature.resolve_eq_mapM, exists_mapM_eq_ok, map_eq_ok]
    intro b member
    obtain ⟨buffer, held⟩ := Registry.exists_get.mpr (known b (listed member))
    exact ⟨_, buffer, held, rfl⟩
  obtain ⟨inputs, first⟩ := resolved k.inputs (List.subset_append_left ..)
  obtain ⟨outputs, second⟩ := resolved k.outputs (List.subset_append_right ..)
  unfold Kernel.assemble
  split
  · exact ⟨_, rfl⟩
  · simp only [Scaffold.ofKernel, Signature.ofKernel, first, second]
    exact ⟨_, rfl⟩

theorem prepare_eq_ok {id : KernelId} {k : Kernel} {u : SourceUnit} (late : p.stage ≠ .created) :
    p.prepare id k = .ok u ↔ k.Ready p ∧ u.id = id ∧ u.kernel = k ∧
      k.assemble p.graph.registry p.graph.environment = .ok u.source := by
  simp only [prepare, bind_eq_ok]
  constructor
  · rintro ⟨_, complete, _, checked, source, assembled, made⟩
    cases made
    obtain ⟨source, output⟩ := validate_eq_ok.mp complete
    exact ⟨⟨source, output, (checkBindings_eq_ok late).mp checked⟩, rfl, rfl, assembled⟩
  · rintro ⟨⟨source, output, bindings⟩, rfl, rfl, assembled⟩
    exact ⟨(), validate_eq_ok.mpr ⟨source, output⟩, (), (checkBindings_eq_ok late).mpr bindings, _,
      assembled, rfl⟩

theorem exists_prepare {id : KernelId} {k : Kernel} (late : p.stage ≠ .created) :
    (∃ u, p.prepare id k = .ok u) ↔ k.Ready p := by
  simp only [prepare_eq_ok late]
  constructor
  · rintro ⟨u, ready, -⟩
    exact ready
  · intro ready
    obtain ⟨source, assembled⟩ := exists_assemble fun b member => (ready.bindings b member).1
    exact ⟨⟨id, k, source⟩, ready, rfl, rfl, assembled⟩

theorem prepare_eq_error {id : KernelId} {k : Kernel} {e : Error} (late : p.stage ≠ .created) :
    p.prepare id k = .error e ↔ k.Lacks p e := by
  constructor
  · intro failed
    have unready : ¬ k.Ready p := by
      intro ready
      obtain ⟨u, made⟩ : ∃ u, p.prepare id k = .ok u := (exists_prepare late).mpr ready
      rw [failed] at made
      cases made
    simp only [prepare, bind_eq_error] at failed
    rcases failed with invalid | ⟨_, complete, unchecked | ⟨_, checked, -⟩⟩
    · rcases validate_eq_error.mp invalid with ⟨blank, rfl⟩ | ⟨source, none, rfl⟩
      · exact .source blank
      · exact .output source none
    · obtain ⟨source, output⟩ := validate_eq_ok.mp complete
      obtain ⟨before, b, after, split, earlier, lacks⟩ := (checkBindings_eq_error late).mp unchecked
      exact .binding source output split earlier lacks
    · -- Only the assembly is left to fail, and it cannot: every buffer is known.
      obtain ⟨source, output⟩ := validate_eq_ok.mp complete
      exact absurd ⟨source, output, (checkBindings_eq_ok late).mp checked⟩ unready
  · intro lacks
    simp only [prepare, bind_eq_error]
    cases lacks with
    | source blank => exact .inl (validate_eq_error.mpr (.inl ⟨blank, rfl⟩))
    | output source none => exact .inl (validate_eq_error.mpr (.inr ⟨source, none, rfl⟩))
    | binding source output split earlier lacks =>
      have unchecked := (checkBindings_eq_error late).mpr ⟨_, _, _, split, earlier, lacks⟩
      exact .inr ⟨(), validate_eq_ok.mpr ⟨source, output⟩, .inl unchecked⟩

theorem kernelEntries_kernels (g : Graph) : g.kernelEntries.map (·.2) = g.kernels :=
  List.ext_getElem (by simp [Graph.kernelEntries]) (by simp [Graph.kernelEntries])

theorem assembled_of_prepareAll {units : List SourceUnit} (late : p.stage ≠ .created)
    (made : p.prepareAll p.graph.kernelEntries = .ok units) : p.Assembled units := by
  rw [prepareAll_eq_mapM, mapM_eq_ok] at made
  exact made.imp fun _ _ prepared => ((prepare_eq_ok late).mp prepared).2

theorem exists_prepareAll (late : p.stage ≠ .created) :
    (∃ units, p.prepareAll p.graph.kernelEntries = .ok units) ↔ ∀ k ∈ p.graph.kernels, k.Ready p := by
  simp only [prepareAll_eq_mapM, exists_mapM_eq_ok, exists_prepare late]
  rw [← kernelEntries_kernels p.graph, List.forall_mem_map]

theorem prepareAll_eq_error {e : Error} (late : p.stage ≠ .created)
    (failed : p.prepareAll p.graph.kernelEntries = .error e) : ∃ before k after,
      p.graph.kernels = before ++ k :: after ∧ (∀ c ∈ before, c.Ready p) ∧ k.Lacks p e := by
  rw [prepareAll_eq_mapM, mapM_eq_error] at failed
  obtain ⟨before, entry, after, split, earlier, lacks⟩ := failed
  refine ⟨before.map (·.2), entry.2, after.map (·.2), ?_, ?_, (prepare_eq_error late).mp lacks⟩
  · rw [← kernelEntries_kernels, split, List.map_append, List.map_cons]
  · rw [List.forall_mem_map]
    exact fun other member => (exists_prepare late).mp (earlier other member)

theorem build_of_unready {p : Processor (Recorded σ)} (late : p.stage ≠ .created)
    (unready : ∃ k ∈ p.graph.kernels, ¬ k.Ready p) : ∃ before k after fault,
      p.graph.kernels = before ++ k :: after ∧ (∀ c ∈ before, c.Ready p) ∧ k.Lacks p fault ∧
        p.build = (.error fault, p) := by
  cases made : p.prepareAll p.graph.kernelEntries with
  | ok units =>
    obtain ⟨k, member, lacking⟩ := unready
    exact absurd ((exists_prepareAll late).mp ⟨units, made⟩ k member) lacking
  | error fault =>
    obtain ⟨before, k, after, split, earlier, lacks⟩ := prepareAll_eq_error late made
    exact ⟨before, k, after, fault, split, earlier, lacks, build_unready late made⟩

theorem releases_compiled {units : List SourceUnit} {programs : List Program}
    (each : programs.length = units.length) :
    releases (List.zipWith SourceUnit.compiled units programs) = programs.map .release := by
  calc releases (List.zipWith SourceUnit.compiled units programs)
      = ((List.zipWith SourceUnit.compiled units programs).map (·.program)).map .release :=
        List.map_map.symm
    _ = programs.map .release := by rw [programs_compiled each]

theorem Step.of_failed_build {p p' : Processor (Recorded σ)} {fault : Error} {new : List DeviceCall}
    (step : p.Step .build (.error fault) p') (grown : p'.calls = p.calls ++ new) :
    p' = { p with memory := p'.memory } ∧
      (Fresh (outstanding p.calls) new → outstanding p'.calls = outstanding p.calls) := by
  cases step with
  | refused => exact ⟨rfl, fun _ => rfl⟩
  | unbuilt programs _ _ late ready each =>
    obtain rfl := List.append_cancel_left grown
    refine ⟨rfl, fun fresh => ?_⟩
    rw [grown, outstanding, loans_append]
    exact loans_of_failure each fresh

/-- A build replaces the last one as a whole or keeps it. It fails at once if a kernel is not ready, with
what the first such kernel lacks, and else at the first unit that the device refuses. -/
theorem build_replaces_or_keeps (a : Adapter σ) (memory : σ) (owner : Owner) (acts : List Action) :
    let p := (watched a memory owner).play acts
    let e := p.event .build
    (∀ fault, e.answer = .error fault →
      e.after = { p with memory := e.after.memory } ∧
      (Fresh (outstanding p.calls) e.calls → outstanding e.after.calls = outstanding p.calls)) ∧
    (p.stage = .created → e.answer = .error (.misuse .buildBeforeAllocate) ∧ e.calls = []) ∧
    (p.stage ≠ .created → (∃ k ∈ p.graph.kernels, ¬ k.Ready p) →
      ∃ before k after fault, p.graph.kernels = before ++ k :: after ∧ (∀ c ∈ before, c.Ready p) ∧
        k.Lacks p fault ∧ e.answer = .error fault ∧ e.calls = []) ∧
    (p.stage ≠ .created → (∀ k ∈ p.graph.kernels, k.Ready p) → ∃ units, p.Assembled units ∧
      ((∃ programs, programs.length = units.length ∧ e.answer = .ok () ∧
          e.calls = compiles units programs ++ releases p.compiled ∧
          e.after = { p with
            memory := e.after.memory
            compiled := List.zipWith SourceUnit.compiled units programs
            stage := .built }) ∨
        ∃ first u rest programs fault, units = first ++ u :: rest ∧ programs.length = first.length ∧
          e.answer = .error fault ∧
          e.calls = compiles first programs ++
            .compile u.kernel.name u.source (.error fault) :: programs.map .release)) := by
  intro p e
  have recorded : p.adapter = a.recorded := play_adapter (p := watched a memory owner) rfl acts
  have answer : e.answer = p.build.1 := rfl
  have after : e.after = p.build.2 := rfl
  refine ⟨?_, ?_, ?_, ?_⟩
  · intro fault failed
    have step : p.Step .build e.answer e.after := play_step a memory owner acts .build
    rw [failed] at step
    obtain ⟨new, grown⟩ := step.calls_grow
    rw [Event.calls_eq (e := e) grown]
    exact step.of_failed_build grown
  · intro created
    have refused : p.build = (.error (.misuse .buildBeforeAllocate), p) := by
      simp only [build, created, ↓reduceIte]
    exact ⟨by rw [answer, refused], Event.calls_of_same (by rw [after, refused]; rfl)⟩
  · intro late unready
    obtain ⟨before, k, later, fault, split, earlier, lacks, refused⟩ := build_of_unready late unready
    exact ⟨before, k, later, fault, split, earlier, lacks, by rw [answer, refused],
      Event.calls_of_same (by rw [after, refused]; rfl)⟩
  · intro late ready
    obtain ⟨units, made⟩ := (exists_prepareAll late).mpr ready
    refine ⟨units, assembled_of_prepareAll late made, ?_⟩
    rcases build_ready recorded late made with
      ⟨programs, last, each, all⟩ | ⟨first, u, rest, programs, fault, last, split, each, failed⟩
    · refine .inl ⟨programs, each, by rw [answer, all], ?_, ?_⟩
      · exact Event.calls_eq (by rw [after, all]; rfl)
      · rw [after, all]
    · refine .inr ⟨first, u, rest, programs, fault, split, each, by rw [answer, failed], ?_⟩
      rw [← releases_compiled each]
      exact Event.calls_eq (by rw [after, failed]; rfl)

def refusesSecond : List Action :=
  Action.twoKernels ++ [.build, .editKernel ⟨⟨0⟩, 1⟩ (.setSource "__kernel #error")]

theorem build_replaces_or_keeps_second_refused :
    let p := (watched (HostMemory.adapter .openCL) .twoKernels ⟨0⟩).play refusesSecond
    let e := p.event .build
    e.answer = .error (.compile "l" "error: #error directive") ∧
      Fresh (outstanding p.calls) e.calls ∧ e.calls.length = 3 ∧ p.programs.length = 2 ∧
      e.after = { p with memory := e.after.memory } ∧
      outstanding e.after.calls = outstanding p.calls := by
  have failed : (((watched (HostMemory.adapter .openCL) .twoKernels ⟨0⟩).play refusesSecond).event
      .build).answer = .error (.compile "l" "error: #error directive") := by decide +kernel
  have fresh : Fresh
      (outstanding ((watched (HostMemory.adapter .openCL) .twoKernels ⟨0⟩).play refusesSecond).calls)
      (((watched (HostMemory.adapter .openCL) .twoKernels ⟨0⟩).play refusesSecond).event
        .build).calls := by decide +kernel
  have kept := (build_replaces_or_keeps (HostMemory.adapter .openCL) .twoKernels ⟨0⟩ refusesSecond).1
    _ failed
  exact ⟨failed, fresh, by decide +kernel, by decide +kernel, kept.1, kept.2 fresh⟩

theorem first_lack_unanswered_before_allocation :
    ¬ ∀ (acts : List Action) (before after : List Kernel) (k : Kernel) (fault : Error),
      let p := (watched (HostMemory.adapter .openCL) .twoKernels ⟨0⟩).play acts
      p.graph.kernels = before ++ k :: after → (∀ c ∈ before, c.Ready p) → k.Lacks p fault →
        (p.event .build).answer = .error fault := by
  intro every
  have blank : Text.isBlankText (Kernel.empty "k" ⟨0⟩).source := by decide +kernel
  have answered := every [.createKernel "k"] [] [] (.empty "k" ⟨0⟩) (.incomplete "k" .blankSource) rfl
    (by simp) (.source blank)
  have refused : (((watched (HostMemory.adapter .openCL) .twoKernels ⟨0⟩).play
      [.createKernel "k"]).event .build).answer = .error (.misuse .buildBeforeAllocate) := rfl
  rw [refused] at answered
  cases answered

end Processor

end PixelPipeline
