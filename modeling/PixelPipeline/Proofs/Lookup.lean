import PixelPipeline.Proofs.Outcome

namespace PixelPipeline

open Outcome

theorem Registry.contains_iff {r : Registry} {id : BufferId} :
    r.contains id ↔ id.owner = r.owner ∧ id.index < r.buffers.length := by
  simp [contains]

theorem Registry.get_eq_ok {r : Registry} {id : BufferId} {b : Buffer} :
    r.get id = .ok b ↔ id.owner = r.owner ∧ r.buffers[id.index]? = some b := by
  by_cases own : id.owner = r.owner
  · simp only [get, own, ↓reduceIte, true_and]
    cases r.buffers[id.index]? <;> simp
  · simp [get, own]

theorem Registry.get_eq_error {r : Registry} {id : BufferId} {e : Error} :
    r.get id = .error e ↔ ¬ r.contains id ∧ e = .foreign .buffer id.index := by
  rw [contains_iff]
  by_cases own : id.owner = r.owner
  · simp only [get, own, ↓reduceIte, true_and]
    cases found : r.buffers[id.index]? with
    | none =>
      have late : ¬ id.index < r.buffers.length := by simpa using found
      simp [late, eq_comm]
    | some b =>
      have early : id.index < r.buffers.length := (List.getElem?_eq_some_iff.mp found).1
      simp [early]
  · simp [get, own, eq_comm]

theorem Registry.exists_get {r : Registry} {id : BufferId} : (∃ b, r.get id = .ok b) ↔ r.contains id := by
  simp only [get_eq_ok, contains_iff, exists_and_left, List.getElem?_eq_some_iff]
  constructor
  · rintro ⟨own, b, early, -⟩
    exact ⟨own, early⟩
  · rintro ⟨own, early⟩
    exact ⟨own, _, early, rfl⟩

theorem Graph.kernel_eq_ok {g : Graph} {id : KernelId} {k : Kernel} :
    g.kernel id = .ok k ↔ id.owner = g.owner ∧ g.kernels[id.index]? = some k := by
  by_cases own : id.owner = g.owner
  · simp only [kernel, own, ↓reduceIte, true_and]
    cases g.kernels[id.index]? <;> simp
  · simp [kernel, own]

namespace Processor

variable {σ : Type} {p : Processor σ} {g : Graph} {storage : List DeviceBuffer} {id : BufferId}

theorem deviceBuffer_eq_ok {d : DeviceBuffer} :
    deviceBuffer g storage id = .ok d ↔ g.registry.contains id ∧ storage[id.index]? = some d := by
  simp only [deviceBuffer, bind_eq_ok, ← Registry.exists_get]
  constructor
  · rintro ⟨b, held, stored⟩
    refine ⟨⟨b, held⟩, ?_⟩
    cases found : storage[id.index]? with
    | none => simp [found] at stored
    | some d => simpa [found] using stored
  · rintro ⟨⟨b, held⟩, found⟩
    exact ⟨b, held, by simp [found]⟩

theorem deviceBuffer_eq_error {e : Error} :
    deviceBuffer g storage id = .error e ↔
      (¬ g.registry.contains id ∧ e = .foreign .buffer id.index) ∨
      ∃ b, g.buffer id = .ok b ∧ storage.length ≤ id.index ∧ e = .misuse (.noStorage b.name) := by
  simp only [deviceBuffer, bind_eq_error]
  refine or_congr Registry.get_eq_error (exists_congr fun b => and_congr_right fun _ => ?_)
  cases found : storage[id.index]? with
  | none =>
    have late : storage.length ≤ id.index := List.getElem?_eq_none_iff.mp found
    simp [late, eq_comm]
  | some d =>
    have early : ¬ storage.length ≤ id.index := by
      have := (List.getElem?_eq_some_iff.mp found).1
      omega
    simp [early]

theorem requireStorage_late (late : p.stage ≠ .created) :
    p.requireStorage id = deviceBuffer p.graph p.storage id := if_neg late

theorem stored_of_requireStorage {d : DeviceBuffer} (stored : p.requireStorage id = .ok d) :
    p.stage ≠ .created ∧ p.graph.registry.contains id ∧ p.storage[id.index]? = some d := by
  have late : p.stage ≠ .created := by
    intro early
    simp [requireStorage, early] at stored
  rw [requireStorage_late late, deviceBuffer_eq_ok] at stored
  exact ⟨late, stored⟩

theorem launch_eq_ok {c : CompiledKernel} {l : Launch} : launch g storage c = .ok l ↔
    ∃ k, g.kernel c.kernel = .ok k ∧ l.kernel = k.name ∧ l.program = c.program ∧
      resolveBindings g storage c.inputs = .ok l.inputs ∧ resolveBindings g storage c.outputs = .ok l.outputs ∧
      resolveParameters k c.parameters = .ok l.parameters ∧ (l.width, l.height) = g.dimensions := by
  simp only [launch, bind_eq_ok]
  constructor
  · rintro ⟨k, held, inputs, reads, outputs, writes, parameters, values, made⟩
    cases made
    exact ⟨k, held, rfl, rfl, reads, writes, values, rfl⟩
  · rintro ⟨k, held, name, program, reads, writes, values, size⟩
    obtain ⟨kernel, q, inputs, outputs, parameters, width, height⟩ := l
    cases name
    cases program
    exact ⟨k, held, inputs, reads, outputs, writes, parameters, values, by rw [← size]; rfl⟩

theorem resolveBindings_eq_ok {bindings : List Binding} {arguments : List (String × DeviceBuffer)} :
    resolveBindings g storage bindings = .ok arguments ↔ List.Forall₂ (fun b argument =>
      argument.1 = b.name ∧ g.registry.contains b.buffer ∧ storage[b.buffer.index]? = some argument.2)
      bindings arguments := by
  rw [resolveBindings_eq_mapM, mapM_eq_ok]
  refine iff_of_eq (congrArg (List.Forall₂ · bindings arguments) ?_)
  funext b argument
  rw [map_eq_ok, eq_iff_iff]
  simp only [deviceBuffer_eq_ok]
  constructor
  · rintro ⟨d, found, rfl⟩
    exact ⟨rfl, found⟩
  · rintro ⟨name, found⟩
    exact ⟨argument.2, found, by rw [← name]⟩

theorem binding_of_argument {bindings : List Binding} {arguments : List (String × DeviceBuffer)}
    (resolved : resolveBindings g storage bindings = .ok arguments) :
    ∀ argument ∈ arguments, ∃ b ∈ bindings,
      g.registry.contains b.buffer ∧ storage[b.buffer.index]? = some argument.2 := by
  rw [resolveBindings_eq_ok] at resolved
  induction resolved with
  | nil => simp
  | @cons b argument _ _ first _ ih =>
    refine List.forall_mem_cons.mpr ⟨⟨b, List.mem_cons_self, first.2⟩, fun other member => ?_⟩
    obtain ⟨c, bound, found⟩ := ih other member
    exact ⟨c, List.mem_cons_of_mem _ bound, found⟩

end Processor

end PixelPipeline
