import PixelPipeline.Proofs.Lookup

namespace PixelPipeline

open Outcome

namespace Kernel

variable {k l : Kernel} {name : String} {buffer : BufferId} {p : Parameter}

theorem isBound_iff : k.isBound name ↔ name ∈ k.bindings.map (·.name) := by
  simp [isBound]

theorem checkBinding_eq_ok : k.checkBinding name buffer = .ok () ↔
    buffer.owner = k.owner ∧ name ∉ k.bindings.map (·.name) ∧ name ∉ k.parameters.entries.map (·.name) := by
  have declared : (k.parameters.find? name).isSome ↔ name ∈ k.parameters.entries.map (·.name) := by
    simp [ParameterSet.find?, List.find?_isSome]
  simp only [checkBinding, guard_eq_ok, not_not, Bool.or_eq_true, isBound_iff, declared, not_or, and_true]

theorem bindInput_eq_ok : k.bindInput name buffer = .ok l ↔
    k.checkBinding name buffer = .ok () ∧ l = { k with inputs := k.inputs ++ [⟨name, buffer⟩] } := by
  rw [bindInput, bind_eq_ok]
  constructor
  · rintro ⟨_, checked, made⟩
    exact ⟨checked, (Except.ok.inj made).symm⟩
  · rintro ⟨checked, rfl⟩
    exact ⟨(), checked, rfl⟩

theorem bindOutput_eq_ok : k.bindOutput name buffer = .ok l ↔
    k.checkBinding name buffer = .ok () ∧ l = { k with outputs := k.outputs ++ [⟨name, buffer⟩] } := by
  rw [bindOutput, bind_eq_ok]
  constructor
  · rintro ⟨_, checked, made⟩
    exact ⟨checked, (Except.ok.inj made).symm⟩
  · rintro ⟨checked, rfl⟩
    exact ⟨(), checked, rfl⟩

theorem setParameter_eq_ok : k.setParameter p = .ok l ↔ p.name ∉ k.bindings.map (·.name) ∧
    ∃ s, k.parameters.set p = .ok s ∧ l = { k with parameters := s } := by
  rw [← isBound_iff, setParameter]
  split
  · rename_i bound
    constructor
    · intro set
      cases set
    · rintro ⟨free, -⟩
      exact absurd bound free
  · rename_i free
    simp only [bind_eq_ok, free, not_false_eq_true, true_and, Bool.false_eq_true]
    constructor
    · rintro ⟨s, changed, made⟩
      exact ⟨s, changed, (Except.ok.inj made).symm⟩
    · rintro ⟨s, changed, rfl⟩
      exact ⟨s, changed, rfl⟩

end Kernel

def Registry.HasRoom (r : Registry) (channels : UInt32) : Prop :=
  4 * (Buffer.elementCount r.width r.height channels).toNat ≤ largestBlock

instance (r : Registry) (channels : UInt32) : Decidable (r.HasRoom channels) :=
  inferInstanceAs (Decidable (_ ≤ largestBlock))

namespace Graph

variable {g h : Graph}

theorem setDimensions_eq_ok {width height : UInt32} : g.setDimensions width height = .ok h ↔
    (1 ≤ width.toNat ∧ width.toNat ≤ 2147483647) ∧ (1 ≤ height.toNat ∧ height.toNat ≤ 2147483647) ∧
      g.registry.buffers = [] ∧ h = { g with registry := { g.registry with width, height } } := by
  have outside : (width = 0 || height = 0 || largestDimension < width || largestDimension < height) ↔
      ¬ ((1 ≤ width.toNat ∧ width.toNat ≤ 2147483647) ∧ (1 ≤ height.toNat ∧ height.toNat ≤ 2147483647)) := by
    simp only [Bool.or_eq_true, decide_eq_true_eq, UInt32.lt_iff_toNat_lt, ← UInt32.toNat_inj,
      largestDimension, UInt32.reduceToNat]
    omega
  unfold setDimensions
  split
  · rename_i invalid
    constructor
    · intro made
      cases made
    · rintro ⟨wide, high, -⟩
      exact absurd ⟨wide, high⟩ (outside.mp invalid)
  · rename_i valid
    obtain ⟨wide, high⟩ := not_not.mp (mt outside.mpr valid)
    have empty : g.registry.buffers.isEmpty ↔ g.registry.buffers = [] := List.isEmpty_iff
    simp only [wide, high, and_self, true_and, bind_eq_ok, Registry.setDimensions]
    constructor
    · rintro ⟨r, changed, made⟩
      split at changed
      · rename_i none
        cases changed
        exact ⟨empty.mp none, (Except.ok.inj made).symm⟩
      · cases changed
    · rintro ⟨none, rfl⟩
      exact ⟨_, if_pos (empty.mpr none), rfl⟩

/-- In the order of the checks: the dimensions, the channels, the name and the size. -/
theorem createBuffer_eq {name : String} {channels : UInt32} : g.createBuffer name channels =
    if ¬ (g.registry.width ≠ 0 ∧ g.registry.height ≠ 0) then .error (.misuse .dimensionsUnset)
    else if ¬ (1 ≤ channels.toNat ∧ channels.toNat ≤ 4) then .error (.invalidChannels channels)
    else if name ∈ g.registry.buffers.map (·.name) then .error (.duplicateName .buffer name)
    else if ¬ g.registry.HasRoom channels then .error .overflow
    else .ok (⟨g.owner, g.registry.buffers.length⟩, { g with registry := { g.registry with
      buffers := g.registry.buffers ++ [.zeroed name g.registry.width g.registry.height channels] } }) := by
  have unset : (g.registry.width = 0 || g.registry.height = 0) ↔
      ¬ (g.registry.width ≠ 0 ∧ g.registry.height ≠ 0) := by
    simp only [Bool.or_eq_true, decide_eq_true_eq, not_and_or, not_not]
  have outside : (channels < 1 || 4 < channels) ↔ ¬ (1 ≤ channels.toNat ∧ channels.toNat ≤ 4) := by
    simp only [Bool.or_eq_true, decide_eq_true_eq, UInt32.lt_iff_toNat_lt, UInt32.reduceToNat]
    omega
  have taken : g.registry.buffers.any (·.name == name) ↔ name ∈ g.registry.buffers.map (·.name) := by simp
  have large : largestBlock <
      Single.byteCount * (Buffer.elementCount g.registry.width g.registry.height channels).toNat ↔
      ¬ g.registry.HasRoom channels := Nat.not_le.symm
  simp only [createBuffer, Registry.create, unset, outside, taken, large]
  split_ifs <;> rfl

theorem createBuffer_eq_ok {id : BufferId} {name : String} {channels : UInt32} :
    g.createBuffer name channels = .ok (id, h) ↔
      (g.registry.width ≠ 0 ∧ g.registry.height ≠ 0) ∧ (1 ≤ channels.toNat ∧ channels.toNat ≤ 4) ∧
        name ∉ g.registry.buffers.map (·.name) ∧ g.registry.HasRoom channels ∧
        id = ⟨g.owner, g.registry.buffers.length⟩ ∧
        h = { g with registry := { g.registry with buffers := g.registry.buffers ++
          [.zeroed name g.registry.width g.registry.height channels] } } := by
  simp only [createBuffer_eq, guard_eq_ok, not_not, Except.ok.injEq, Prod.mk.injEq, @eq_comm _ id, @eq_comm _ h]

theorem createBuffer_eq_overflow {name : String} {channels : UInt32} :
    g.createBuffer name channels = .error .overflow ↔
      (g.registry.width ≠ 0 ∧ g.registry.height ≠ 0) ∧ (1 ≤ channels.toNat ∧ channels.toNat ≤ 4) ∧
        name ∉ g.registry.buffers.map (·.name) ∧ ¬ g.registry.HasRoom channels := by
  simp only [createBuffer_eq, guard_eq_error, not_not, reduceCtorEq, and_false, false_or, or_false, and_true]

theorem createKernel_eq_ok {id : KernelId} {name : String} : g.createKernel name = .ok (id, h) ↔
    name ∉ g.kernels.map (·.name) ∧ id = ⟨g.owner, g.kernels.length⟩ ∧
      h = { g with kernels := g.kernels ++ [.empty name g.owner] } := by
  have taken : g.kernels.any (·.name == name) ↔ name ∈ g.kernels.map (·.name) := by simp
  simp only [createKernel, guard_eq_ok, taken, Except.ok.injEq, Prod.mk.injEq]
  exact and_congr_right fun _ => and_congr eq_comm eq_comm

theorem modifyBuffer_eq_ok {id : BufferId} {edit : Buffer → Except Error Buffer} :
    g.modifyBuffer id edit = .ok h ↔ ∃ b c, g.buffer id = .ok b ∧ edit b = .ok c ∧
      h = { g with registry := { g.registry with buffers := g.registry.buffers.set id.index c } } := by
  simp only [modifyBuffer, Registry.modify, bind_eq_ok]
  constructor
  · rintro ⟨r, ⟨b, held, c, edited, made⟩, done⟩
    cases made
    cases done
    exact ⟨b, c, held, edited, rfl⟩
  · rintro ⟨b, c, held, edited, rfl⟩
    exact ⟨_, ⟨b, held, c, edited, rfl⟩, rfl⟩

theorem modifyKernel_eq_ok {id : KernelId} {edit : Kernel → Except Error Kernel} :
    g.modifyKernel id edit = .ok h ↔ ∃ k l, g.kernel id = .ok k ∧ edit k = .ok l ∧
      h = { g with kernels := g.kernels.set id.index l } := by
  simp only [modifyKernel, bind_eq_ok]
  constructor
  · rintro ⟨k, held, l, edited, made⟩
    cases made
    exact ⟨k, l, held, edited, rfl⟩
  · rintro ⟨k, l, held, edited, rfl⟩
    exact ⟨k, held, l, edited, rfl⟩

end Graph

end PixelPipeline
