import Mathlib.Data.List.Nodup
import PixelPipeline.Proofs.Edits
import PixelPipeline.Proofs.Session

/-!
What stays of a graph while it is edited in place. Main statement: buffers keep their shape, and kernels
their names and the types of their parameters.
-/
namespace PixelPipeline

open Outcome

namespace ParameterSet

def Distinct (s : ParameterSet) : Prop := (s.entries.map (·.name)).Nodup

theorem replaceFirst_names (p : Parameter) (entries : List Parameter) :
    (replaceFirst p entries).map (·.name) = entries.map (·.name) := by
  induction entries with
  | nil => rfl
  | cons q rest ih =>
    by_cases same : q.name = p.name
    · simp [replaceFirst, same]
    · simp [replaceFirst, same, ih]

theorem find?_replaceFirst {p q : Parameter} {entries : List Parameter} {name : String}
    (known : entries.find? (·.name == p.name) = some q) :
    (replaceFirst p entries).find? (·.name == name) =
      if name = p.name then some p else entries.find? (·.name == name) := by
  induction entries with
  | nil => cases known
  | cons r rest ih =>
    by_cases here : r.name = p.name
    · by_cases asked : name = p.name
      · simp [replaceFirst, here, asked]
      · have other : ¬ p.name = name := fun same => asked same.symm
        simp [replaceFirst, here, asked, other]
    · have later := ih (by simpa [here] using known)
      by_cases first : r.name = name
      · have asked : ¬ name = p.name := fun same => here (first.trans same)
        simp [replaceFirst, first, asked]
      · simp [replaceFirst, here, first, later]

theorem find?_set {s t : ParameterSet} {p : Parameter} (set : s.set p = .ok t) (name : String) :
    t.find? name = if name = p.name then some p else s.find? name := by
  unfold ParameterSet.set at set
  split at set
  · rename_i absent
    cases set
    simp only [find?, List.find?_append] at absent ⊢
    by_cases asked : name = p.name
    · simp [asked, absent]
    · have other : ¬ p.name = name := fun same => asked same.symm
      simp [asked, other]
  · rename_i q known
    split at set
    · cases set
      exact find?_replaceFirst known
    · cases set

theorem type_of_set {s t : ParameterSet} {p q : Parameter} (set : s.set p = .ok t)
    (known : s.find? p.name = some q) : p.value.type = q.value.type := by
  simp only [ParameterSet.set, known] at set
  split at set
  · rename_i same
    exact same.symm
  · cases set

theorem names_set {s t : ParameterSet} {p : Parameter} (set : s.set p = .ok t) :
    t.entries.map (·.name) =
      if p.name ∈ s.entries.map (·.name) then s.entries.map (·.name) else s.entries.map (·.name) ++ [p.name] := by
  have declared : p.name ∈ s.entries.map (·.name) ↔ (s.find? p.name).isSome := by
    simp [find?, List.find?_isSome]
  unfold ParameterSet.set at set
  split at set
  · rename_i absent
    cases set
    simp [declared, absent]
  · rename_i known
    split at set
    · cases set
      simp [declared, known, replaceFirst_names]
    · cases set

theorem Distinct.set {s t : ParameterSet} {p : Parameter} (distinct : s.Distinct)
    (set : s.set p = .ok t) : t.Distinct := by
  rw [Distinct, names_set set]
  split
  · exact distinct
  · rename_i new
    exact List.concat_eq_append ▸ List.Nodup.concat new distinct

theorem Distinct.find? {s : ParameterSet} {p : Parameter} (distinct : s.Distinct)
    (member : p ∈ s.entries) : s.find? p.name = some p := by
  obtain ⟨entries⟩ := s
  simp only [ParameterSet.find?, Distinct] at distinct member ⊢
  induction entries with
  | nil => cases member
  | cons q rest ih =>
    rw [List.map_cons, List.nodup_cons] at distinct
    rcases List.mem_cons.mp member with rfl | later
    · simp
    · have other : ¬ q.name = p.name := fun same =>
        distinct.1 (same ▸ List.mem_map_of_mem later)
      simpa [other] using ih distinct.2 later

end ParameterSet

/-- Every item is related to the later one in its place. -/
def Kept {α : Type} (related : α → α → Prop) (before after : List α) : Prop :=
  ∀ (i : Nat) x, before[i]? = some x → ∃ y, after[i]? = some y ∧ related x y

section

variable {α : Type} {related : α → α → Prop}

theorem Kept.refl (same : ∀ x, related x x) (xs : List α) : Kept related xs xs :=
  fun _ x known => ⟨x, known, same x⟩

theorem Kept.trans (through : ∀ x y z, related x y → related y z → related x z) {xs ys zs : List α}
    (first : Kept related xs ys) (last : Kept related ys zs) : Kept related xs zs := by
  intro i x known
  obtain ⟨y, middle, early⟩ := first i x known
  obtain ⟨z, found, late⟩ := last i y middle
  exact ⟨z, found, through x y z early late⟩

theorem Kept.append (same : ∀ x, related x x) (xs new : List α) : Kept related xs (xs ++ new) := by
  intro i x known
  have early : i < xs.length := (List.getElem?_eq_some_iff.mp known).1
  exact ⟨x, by rw [List.getElem?_append_left early, known], same x⟩

theorem Kept.set (same : ∀ x, related x x) {xs : List α} {i : Nat} {x y : α} (known : xs[i]? = some x)
    (changed : related x y) : Kept related xs (xs.set i y) := by
  intro j z found
  have early : i < xs.length := (List.getElem?_eq_some_iff.mp known).1
  by_cases here : i = j
  · subst here
    rw [known] at found
    cases found
    exact ⟨y, List.getElem?_set_self early, changed⟩
  · exact ⟨z, by rw [List.getElem?_set_ne here, found], same z⟩

end

structure Kernel.Grows (k l : Kernel) : Prop where
  name : l.name = k.name
  parameters : ∀ name q, k.parameters.find? name = some q →
    ∃ r, l.parameters.find? name = some r ∧ r.value.type = q.value.type

def Buffer.SameShape (b c : Buffer) : Prop := BufferDescription.ofBuffer c = .ofBuffer b

theorem Buffer.SameShape.refl (b : Buffer) : b.SameShape b := rfl

structure Graph.Grows (g h : Graph) : Prop where
  owner : h.owner = g.owner
  buffers : Kept Buffer.SameShape g.registry.buffers h.registry.buffers
  kernels : Kept Kernel.Grows g.kernels h.kernels

theorem Kernel.Grows.of_same {k l : Kernel} (name : l.name = k.name)
    (parameters : l.parameters = k.parameters) : k.Grows l :=
  ⟨name, fun _ q known => ⟨q, parameters ▸ known, rfl⟩⟩

theorem Kernel.Grows.trans {k l m : Kernel} (first : k.Grows l) (last : l.Grows m) : k.Grows m := by
  refine ⟨last.name.trans first.name, fun name q known => ?_⟩
  obtain ⟨r, middle, early⟩ := first.parameters name q known
  obtain ⟨s, found, late⟩ := last.parameters name r middle
  exact ⟨s, found, late.trans early⟩

theorem Graph.Grows.of_buffers {g h : Graph} (owner : h.owner = g.owner) (kernels : h.kernels = g.kernels)
    (buffers : Kept Buffer.SameShape g.registry.buffers h.registry.buffers) : g.Grows h :=
  ⟨owner, buffers, kernels ▸ .refl (fun _ => .of_same rfl rfl) _⟩

theorem Graph.Grows.of_kernels {g h : Graph} (registry : h.registry = g.registry)
    (kernels : Kept Kernel.Grows g.kernels h.kernels) : g.Grows h :=
  ⟨congrArg (·.owner) registry, registry ▸ .refl .refl _, kernels⟩

theorem Graph.Grows.refl (g : Graph) : g.Grows g := .of_buffers rfl rfl (.refl .refl _)

theorem Graph.Grows.trans {g h j : Graph} (first : g.Grows h) (last : h.Grows j) : g.Grows j where
  owner := last.owner.trans first.owner
  buffers := first.buffers.trans (fun _ _ _ early late => late.trans early) last.buffers
  kernels := first.kernels.trans (fun _ _ _ => .trans) last.kernels

def Kernel.names (k : Kernel) : List String := k.bindings.map (·.name) ++ k.parameters.entries.map (·.name)

inductive Kernel.Edited (k : Kernel) : KernelEdit → Kernel → Prop
  | input {name : String} {buffer : BufferId} (own : buffer.owner = k.owner) (free : name ∉ k.names) :
      k.Edited (.bindInput name buffer) { k with inputs := k.inputs ++ [⟨name, buffer⟩] }
  | output {name : String} {buffer : BufferId} (own : buffer.owner = k.owner) (free : name ∉ k.names) :
      k.Edited (.bindOutput name buffer) { k with outputs := k.outputs ++ [⟨name, buffer⟩] }
  | parameter {p : Parameter} {s : ParameterSet} (unbound : p.name ∉ k.bindings.map (·.name))
      (set : k.parameters.set p = .ok s) : k.Edited (.setParameter p) { k with parameters := s }
  | source (source : String) : k.Edited (.setSource source) { k with source }

theorem KernelEdit.edited {edit : KernelEdit} {k l : Kernel} (edited : edit.apply k = .ok l) : k.Edited edit l := by
  cases edit with
  | bindInput name buffer =>
    obtain ⟨checked, rfl⟩ := Kernel.bindInput_eq_ok.mp edited
    obtain ⟨own, unbound, undeclared⟩ := Kernel.checkBinding_eq_ok.mp checked
    exact .input own (by simp [Kernel.names, unbound, undeclared])
  | bindOutput name buffer =>
    obtain ⟨checked, rfl⟩ := Kernel.bindOutput_eq_ok.mp edited
    obtain ⟨own, unbound, undeclared⟩ := Kernel.checkBinding_eq_ok.mp checked
    exact .output own (by simp [Kernel.names, unbound, undeclared])
  | setParameter p =>
    obtain ⟨unbound, s, set, rfl⟩ := Kernel.setParameter_eq_ok.mp edited
    exact .parameter unbound set
  | setSource source =>
    cases edited
    exact .source source

theorem KernelEdit.grows {edit : KernelEdit} {k l : Kernel} (edited : edit.apply k = .ok l) :
    k.Grows l := by
  cases edit.edited edited with
  | input | output | source => exact .of_same rfl rfl
  | @parameter p s unbound set =>
    refine ⟨rfl, fun name q known => ?_⟩
    by_cases asked : name = p.name
    · subst asked
      exact ⟨p, by simp [ParameterSet.find?_set set], ParameterSet.type_of_set set known⟩
    · exact ⟨q, by simp [ParameterSet.find?_set set, asked, known], rfl⟩

theorem KernelEdit.owner_of_apply {edit : KernelEdit} {k l : Kernel} (edited : edit.apply k = .ok l) :
    l.owner = k.owner := by
  cases edit.edited edited <;> rfl

theorem BufferEdit.same_shape {edit : BufferEdit} {b c : Buffer} (edited : edit.apply b = .ok c) :
    b.SameShape c := by
  cases edit with
  | overwrite change =>
    cases edited
    rfl
  | setData data =>
    simp only [apply, Buffer.setData] at edited
    split at edited
    · cases edited
      rfl
    · cases edited

inductive Graph.Operated (g : Graph) : Action → Graph → Prop
  | measured {width height : UInt32} (wide : 1 ≤ width.toNat ∧ width.toNat ≤ 2147483647)
      (high : 1 ≤ height.toNat ∧ height.toNat ≤ 2147483647) (none : g.registry.buffers = []) :
      g.Operated (.setDimensions width height) { g with registry := { g.registry with width, height } }
  | buffer {name : String} {channels : UInt32} (set : g.registry.width ≠ 0 ∧ g.registry.height ≠ 0)
      (few : 1 ≤ channels.toNat ∧ channels.toNat ≤ 4) (new : name ∉ g.registry.buffers.map (·.name)) :
      g.Operated (.createBuffer name channels)
        { g with registry := { g.registry with
          buffers := g.registry.buffers ++ [.zeroed name g.registry.width g.registry.height channels] } }
  | kernel {name : String} (new : name ∉ g.kernels.map (·.name)) :
      g.Operated (.createKernel name) { g with kernels := g.kernels ++ [.empty name g.owner] }
  | bufferEdited {id : BufferId} {edit : BufferEdit} {b c : Buffer} (known : g.registry.buffers[id.index]? = some b)
      (edited : edit.apply b = .ok c) :
      g.Operated (.editBuffer id edit)
        { g with registry := { g.registry with buffers := g.registry.buffers.set id.index c } }
  | kernelEdited {id : KernelId} {edit : KernelEdit} {k l : Kernel} (held : g.kernel id = .ok k)
      (edited : edit.apply k = .ok l) :
      g.Operated (.editKernel id edit) { g with kernels := g.kernels.set id.index l }
  | bufferReplaced {id : BufferId} {b c : Buffer} (known : g.registry.buffers[id.index]? = some b) :
      g.Operated (.replaceBuffer id c)
        { g with registry := { g.registry with buffers := g.registry.buffers.set id.index c } }
  | kernelReplaced {id : KernelId} {k l : Kernel} (known : g.kernels[id.index]? = some k) :
      g.Operated (.replaceKernel id l) { g with kernels := g.kernels.set id.index l }

theorem Action.operated {act : Action} {edit : Graph → Except Error Graph} {g h : Graph}
    (only : act.onGraph? = some edit) (changed : edit g = .ok h) : g.Operated act h := by
  cases act with
  | setDimensions width height =>
    cases only
    obtain ⟨wide, high, none, rfl⟩ := Graph.setDimensions_eq_ok.mp changed
    exact .measured wide high none
  | createBuffer name channels =>
    cases only
    obtain ⟨⟨id, h⟩, created, rfl⟩ := map_eq_ok.mp changed
    obtain ⟨set, few, new, -, -, rfl⟩ := Graph.createBuffer_eq_ok.mp created
    exact .buffer set few new
  | createKernel name =>
    cases only
    obtain ⟨⟨id, h⟩, created, rfl⟩ := map_eq_ok.mp changed
    obtain ⟨new, -, rfl⟩ := Graph.createKernel_eq_ok.mp created
    exact .kernel new
  | editBuffer id edit =>
    cases only
    obtain ⟨b, c, held, edited, rfl⟩ := Graph.modifyBuffer_eq_ok.mp changed
    exact .bufferEdited (Registry.get_eq_ok.mp held).2 edited
  | editKernel id edit =>
    cases only
    obtain ⟨k, l, held, edited, rfl⟩ := Graph.modifyKernel_eq_ok.mp changed
    exact .kernelEdited held edited
  | replaceBuffer id c =>
    cases only
    obtain ⟨b, _, held, replaced, rfl⟩ := Graph.modifyBuffer_eq_ok.mp changed
    cases replaced
    exact .bufferReplaced (Registry.get_eq_ok.mp held).2
  | replaceKernel id l =>
    cases only
    obtain ⟨k, _, held, replaced, rfl⟩ := Graph.modifyKernel_eq_ok.mp changed
    cases replaced
    exact .kernelReplaced (Graph.kernel_eq_ok.mp held).2
  | allocate | build | run | upload | download => cases only

inductive Graph.Edited (g : Graph) : Action → Graph → Prop
  | registry {act : Action} (registry : Registry) (owner : registry.owner = g.owner)
      (buffers : Kept Buffer.SameShape g.registry.buffers registry.buffers)
      (other : ∀ id edit, act ≠ .editKernel id edit) : g.Edited act { g with registry }
  | added (name : String) :
      g.Edited (.createKernel name) { g with kernels := g.kernels ++ [.empty name g.owner] }
  | kernel {id : KernelId} {edit : KernelEdit} {k l : Kernel} (held : g.kernel id = .ok k)
      (edited : edit.apply k = .ok l) :
      g.Edited (.editKernel id edit) { g with kernels := g.kernels.set id.index l }

theorem Action.edited {act : Action} {edit : Graph → Except Error Graph} {g h : Graph}
    (inPlace : act.EditsInPlace) (only : act.onGraph? = some edit) (changed : edit g = .ok h) :
    g.Edited act h := by
  cases act.operated only changed with
  | measured => exact .registry _ rfl (.refl .refl _) (by simp)
  | buffer => exact .registry _ rfl (.append .refl _ _) (by simp)
  | kernel => exact .added _
  | @bufferEdited id edit _ _ known edited =>
    exact .registry _ rfl (.set .refl known (edit.same_shape edited)) (by simp)
  | kernelEdited held edited => exact .kernel held edited
  | bufferReplaced | kernelReplaced => cases inPlace

theorem Graph.Edited.grows {act : Action} {g h : Graph} (edited : g.Edited act h) : g.Grows h := by
  cases edited with
  | registry registry owner buffers other => exact .of_buffers owner rfl buffers
  | added name => exact .of_kernels rfl (.append (fun _ => .of_same rfl rfl) _ _)
  | kernel held edited =>
    have known := (Graph.kernel_eq_ok.mp held).2
    exact .of_kernels rfl (.set (fun _ => .of_same rfl rfl) known (KernelEdit.grows edited))

theorem Processor.Step.grows {σ : Type} {p p' : Processor (Recorded σ)} {act : Action}
    {answer : Except Error Unit} (step : p.Step act answer p') (inPlace : act.EditsInPlace) :
    p.graph.Grows p'.graph := by
  cases step with
  | edited only changed _ => exact (act.edited inPlace only changed).grows
  | downloaded answer data memory stored held =>
    exact .of_buffers rfl rfl (.set .refl (Registry.get_eq_ok.mp held).2 rfl)
  | _ => exact .refl _

theorem Processor.Step.graph_grows {σ : Type} {p p' : Processor (Recorded σ)} {act : Action}
    {answer : Except Error Unit} (step : p.Step act answer p') : p'.graph.owner = p.graph.owner ∧
    p.graph.registry.buffers.length ≤ p'.graph.registry.buffers.length ∧
      p.graph.kernels.length ≤ p'.graph.kernels.length := by
  cases step with
  | edited only changed _ =>
    cases act.operated only changed with
    | measured => exact ⟨rfl, Nat.le_refl _, Nat.le_refl _⟩
    | buffer | bufferEdited | bufferReplaced => exact ⟨rfl, by simp, Nat.le_refl _⟩
    | kernel | kernelEdited | kernelReplaced => exact ⟨rfl, Nat.le_refl _, by simp⟩
  | downloaded => exact ⟨rfl, by simp, Nat.le_refl _⟩
  | _ => exact ⟨rfl, Nat.le_refl _, Nat.le_refl _⟩

end PixelPipeline
