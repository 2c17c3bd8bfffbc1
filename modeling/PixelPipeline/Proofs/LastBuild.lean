import PixelPipeline.Proofs.Build
import PixelPipeline.Proofs.Lifecycle
import PixelPipeline.Proofs.Values

namespace PixelPipeline.Processor

open DeviceCall Event Outcome

variable {σ : Type}

structure BuiltFrom (events : List (Event (Recorded σ))) (build : Event (Recorded σ)) (units : List SourceUnit)
    (programs : List Program) (p : Processor (Recorded σ)) : Prop where
  last : latest built events = some build
  assembled : build.before.Assembled units
  each : programs.length = units.length
  calls : build.calls = compiles units programs ++ releases build.before.compiled
  compiled : p.compiled = List.zipWith SourceUnit.compiled units programs

variable {events : List (Event (Recorded σ))} {p p' : Processor (Recorded σ)} {act : Action}
  {answer : Except Error Unit} {build e : Event (Recorded σ)} {units : List SourceUnit} {programs : List Program}

theorem BuiltFrom.kept (made : BuiltFrom events build units programs p) (quiet : e.built = false)
    (same : p'.compiled = p.compiled) : BuiltFrom (events ++ [e]) build units programs p' where
  last := by simp [latest_concat, quiet, made.last]
  assembled := made.assembled
  each := made.each
  calls := made.calls
  compiled := same.trans made.compiled

theorem Step.builds (step : p.Step act answer p') (late : p'.stage = .built ∨ p'.stage = .ready) :
    (∃ units programs, p'.calls = p.calls ++ (compiles units programs ++ releases p.compiled) ∧
      ∀ events, BuiltFrom (events ++ [⟨p, act, answer, p'⟩]) ⟨p, act, answer, p'⟩ units programs p') ∨
    ((p.stage = .built ∨ p.stage = .ready) ∧ p'.compiled = p.compiled ∧
      (⟨p, act, answer, p'⟩ : Event (Recorded σ)).built = false) := by
  cases step with
  | edited only => exact .inr ⟨late, rfl, (Idle.of_onGraph only).built⟩
  | refused fault reaches => exact .inr ⟨late, rfl, (Idle.of_error reaches).built⟩
  | allocated storage memory =>
    refine .inr ⟨?_, rfl, rfl⟩
    by_cases fresh : p.stage = .created
    · simp [fresh] at late
    · simpa [fresh] using late
  | unallocated => simp at late
  | built programs memory before ready each =>
    refine .inl ⟨_, programs, rfl, fun events => ?_⟩
    exact {
      last := by simp [latest_concat, Event.built]
      assembled := assembled_of_prepareAll before ready
      each := each
      calls := Event.calls_eq rfl
      compiled := rfl }
  | unbuilt | uploaded | downloaded => exact .inr ⟨late, rfl, rfl⟩
  | ran memory before => exact .inr ⟨before, rfl, rfl⟩
  | halted fault memory before => exact .inr ⟨before, rfl, rfl⟩

theorem builtFrom_history (a : Adapter σ) (memory : σ) (owner : Owner) (acts : List Action) :
    let p := (watched a memory owner).play acts
    p.stage = .built ∨ p.stage = .ready → ∃ build units programs,
      BuiltFrom ((watched a memory owner).history acts) build units programs p := by
  refine history_induction (a := a) (fun _ => True) (motive := fun events p => p.stage = .built ∨ p.stage = .ready →
    ∃ build units programs, BuiltFrom events build units programs p) ?_ ?_ acts fun _ _ => trivial
  · intro late
    simp [watched, create] at late
  · intro events p act answer p' _ earlier step late
    rcases step.builds late with ⟨units, programs, -, made⟩ | ⟨before, same, quiet⟩
    · exact ⟨_, units, programs, made events⟩
    · obtain ⟨build, units, programs, made⟩ := earlier before
      exact ⟨build, units, programs, made.kept quiet same⟩

def compiledEntry (entry : KernelId × Kernel) (program : Program) : CompiledKernel :=
  ⟨entry.1, program, entry.2.inputs, entry.2.outputs, entry.2.parameters.signatureOrder.map (·.name)⟩

theorem Assembled.compiled (assembled : p.Assembled units) (programs : List Program) :
    List.zipWith SourceUnit.compiled units programs =
      List.zipWith compiledEntry p.graph.kernelEntries programs := by
  unfold Assembled at assembled
  generalize p.graph.kernelEntries = entries at assembled ⊢
  induction assembled generalizing programs with
  | nil => rfl
  | cons first rest ih =>
    cases programs with
    | nil => rfl
    | cons program programs =>
      obtain ⟨id, kernel, -⟩ := first
      simp only [List.zipWith_cons_cons, ih, SourceUnit.compiled, compiledEntry, id, kernel]

theorem Assembled.bindings_of_compiled (assembled : p.Assembled units) {programs : List Program} {c : CompiledKernel}
    (member : c ∈ List.zipWith SourceUnit.compiled units programs) :
    ∃ k ∈ p.graph.kernels, c.inputs = k.inputs ∧ c.outputs = k.outputs := by
  rw [assembled.compiled, ← List.map_uncurry_zip_eq_zipWith] at member
  obtain ⟨made, listed, rfl⟩ := List.mem_map.mp member
  obtain ⟨i, inside, same⟩ := List.mem_mapIdx.mp (List.of_mem_zip listed).1
  refine ⟨made.1.2, ?_, rfl, rfl⟩
  rw [← same]
  exact List.getElem_mem inside

theorem launch_compiledEntry {g : Graph} {storage : List DeviceBuffer} {entry : KernelId × Kernel}
    {program : Program} {l : Launch} (planned : launch g storage (compiledEntry entry program) = .ok l) :
    ∃ now, g.kernels[entry.1.index]? = some now ∧ l.kernel = now.name ∧ l.program = program ∧
      resolveBindings g storage entry.2.inputs = .ok l.inputs ∧
      resolveBindings g storage entry.2.outputs = .ok l.outputs ∧
      resolveParameters now (entry.2.parameters.signatureOrder.map (·.name)) = .ok l.parameters := by
  obtain ⟨now, held, kernel, program, reads, writes, values, -⟩ := launch_eq_ok.mp planned
  exact ⟨now, (Graph.kernel_eq_ok.mp held).2, kernel, program, reads, writes, values⟩

end PixelPipeline.Processor
