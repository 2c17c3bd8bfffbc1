import PixelPipeline.Proofs.Build

namespace PixelPipeline

open Outcome

variable {σ : Type}

/-- The same buffer with zeros in it. -/
def Buffer.blank (b : Buffer) : Buffer := { b with data := .replicate b.size .zero }

def Registry.blank (r : Registry) : Registry := { r with buffers := r.buffers.map Buffer.blank }

def Graph.blank (g : Graph) : Graph := { g with registry := g.registry.blank }

theorem Buffer.size_of_blank {b c : Buffer} (same : b.blank = c.blank) : b.size = c.size := by
  have sizes : b.blank.data.size = c.blank.data.size := by rw [same]
  simpa [blank] using sizes

theorem Registry.get_blank (r : Registry) (id : BufferId) : r.blank.get id = (r.get id).map Buffer.blank := by
  by_cases own : id.owner = r.owner
  · simp only [get, own, ↓reduceIte, blank, List.getElem?_map]
    cases r.buffers[id.index]? <;> rfl
  · simp only [get, own, ↓reduceIte, blank]
    rfl

theorem Registry.contains_blank (r : Registry) (id : BufferId) : r.blank.contains id = r.contains id := by
  rw [Bool.eq_iff_iff, contains_iff, contains_iff, blank, List.length_map]

theorem Registry.get_of_blank {r s : Registry} (same : r.blank = s.blank) {id : BufferId} {b : Buffer}
    (held : s.get id = .ok b) : ∃ c, r.get id = .ok c ∧ c.blank = b.blank := by
  have blanked : (r.get id).map Buffer.blank = .ok b.blank := by
    rw [← get_blank, same, get_blank, held]
    rfl
  exact map_eq_ok.mp blanked

theorem Graph.blank_set {g : Graph} {i : Nat} {b c : Buffer} (held : g.registry.buffers[i]? = some b)
    (same : c.blank = b.blank) :
    ({ g with registry := { g.registry with buffers := g.registry.buffers.set i c } } : Graph).blank = g.blank := by
  have kept : (g.registry.buffers.map Buffer.blank).set i b.blank = g.registry.buffers.map Buffer.blank := by
    refine List.ext_getElem? fun j => ?_
    rw [List.getElem?_set]
    split
    · rename_i here
      subst here
      have early : i < (g.registry.buffers.map Buffer.blank).length := by
        rw [List.length_map]
        exact (List.getElem?_eq_some_iff.mp held).1
      rw [if_pos early, List.getElem?_map, held]
      rfl
    · rfl
  simp only [blank, Registry.blank, List.map_set, same, kept]

theorem Signature.resolve_blank (r : Registry) (bindings : List Binding) :
    resolve r.blank bindings = resolve r bindings := by
  simp only [resolve_eq_mapM, Registry.get_blank]
  congr 1
  funext b
  cases r.get b.buffer <;> rfl

theorem Kernel.assemble_blank (k : Kernel) (r : Registry) (e : Environment) :
    k.assemble r.blank e = k.assemble r e := by
  simp only [assemble, Scaffold.ofKernel, Signature.ofKernel, Signature.resolve_blank]

namespace Processor

theorem descriptions_blank (g : Graph) : descriptions g.blank = descriptions g := by
  simp only [descriptions, Graph.blank, Registry.blank, List.map_map]
  rfl

theorem deviceBuffer_blank (g : Graph) (storage : List DeviceBuffer) (id : BufferId) :
    deviceBuffer g.blank storage id = deviceBuffer g storage id := by
  have held : g.blank.buffer id = (g.buffer id).map Buffer.blank := Registry.get_blank g.registry id
  rw [deviceBuffer, deviceBuffer, held]
  cases g.buffer id <;> rfl

theorem launch_blank (g : Graph) (storage : List DeviceBuffer) (c : CompiledKernel) :
    launch g.blank storage c = launch g storage c := by
  have kernel (id : KernelId) : g.blank.kernel id = g.kernel id := rfl
  have size : g.blank.dimensions = g.dimensions := rfl
  simp only [launch, resolveBindings_eq_mapM, deviceBuffer_blank, kernel, size]

end Processor

end PixelPipeline
