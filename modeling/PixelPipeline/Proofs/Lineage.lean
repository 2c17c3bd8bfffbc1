import PixelPipeline.Proofs.Erasure
import PixelPipeline.Proofs.Growth

namespace PixelPipeline

open Outcome

inductive Handle where
  | buffer (id : BufferId)
  | kernel (id : KernelId)
  deriving DecidableEq

def Handle.owner : Handle → Owner
  | buffer id => id.owner
  | kernel id => id.owner

namespace Graph

def nameAt (g : Graph) : Handle → Except Error String
  | .buffer id => (g.buffer id).map (·.name)
  | .kernel id => (g.kernel id).map (·.name)

def bufferNames (g : Graph) : List String := g.registry.buffers.map (·.name)

def kernelNames (g : Graph) : List String := g.kernels.map (·.name)

section

variable {g h : Graph} {name : String}

theorem nameAt_buffer_eq_ok {id : BufferId} :
    g.nameAt (.buffer id) = .ok name ↔ id.owner = g.owner ∧ g.bufferNames[id.index]? = some name := by
  simp only [nameAt, map_eq_ok, buffer, Registry.get_eq_ok, bufferNames, List.getElem?_map, Option.map_eq_some_iff]
  exact ⟨fun ⟨b, ⟨own, held⟩, same⟩ => ⟨own, b, held, same⟩, fun ⟨own, b, held, same⟩ => ⟨b, ⟨own, held⟩, same⟩⟩

theorem nameAt_kernel_eq_ok {id : KernelId} :
    g.nameAt (.kernel id) = .ok name ↔ id.owner = g.owner ∧ g.kernelNames[id.index]? = some name := by
  simp only [nameAt, map_eq_ok, kernel_eq_ok, kernelNames, List.getElem?_map, Option.map_eq_some_iff]
  exact ⟨fun ⟨k, ⟨own, held⟩, same⟩ => ⟨own, k, held, same⟩, fun ⟨own, k, held, same⟩ => ⟨k, ⟨own, held⟩, same⟩⟩

theorem owner_of_nameAt {handle : Handle} (known : g.nameAt handle = .ok name) : handle.owner = g.owner := by
  cases handle with
  | buffer id => exact (nameAt_buffer_eq_ok.mp known).1
  | kernel id => exact (nameAt_kernel_eq_ok.mp known).1

theorem nameAt_error {handle : Handle} {e : Error} (refused : g.nameAt handle = .error e) :
    e.kind = .notFound := by
  cases handle with
  | buffer id =>
    obtain ⟨-, rfl⟩ := Registry.get_eq_error.mp (map_eq_error.mp refused)
    rfl
  | kernel id =>
    have refused := map_eq_error.mp refused
    unfold kernel at refused
    split at refused
    · split at refused <;> cases refused
      rfl
    · cases refused
      rfl

end

end Graph

/-- What is asked of a graph. Nothing is replaced as a whole. -/
inductive Request where
  | perform (act : Action) (inPlace : act.EditsInPlace)
  | findBuffer (name : String)
  | findKernel (name : String)
  | listBuffers
  | listKernels

/-- The handles that a graph gives out, each with the name of what it is issued for. -/
def Graph.issues (g : Graph) : Request → List (Handle × String)
  | .perform (.createBuffer name channels) _ =>
    match g.createBuffer name channels with
    | .ok (id, _) => [(.buffer id, name)]
    | .error _ => []
  | .perform (.createKernel name) _ =>
    match g.createKernel name with
    | .ok (id, _) => [(.kernel id, name)]
    | .error _ => []
  | .perform .. => []
  | .findBuffer name =>
    match g.bufferNamed name with
    | .ok id => [(.buffer id, name)]
    | .error _ => []
  | .findKernel name =>
    match g.kernelNamed name with
    | .ok id => [(.kernel id, name)]
    | .error _ => []
  | .listBuffers => g.registry.entries.map fun entry => (.buffer entry.1, entry.2.name)
  | .listKernels => g.kernelEntries.map fun entry => (.kernel entry.1, entry.2.name)

def Graph.after (g : Graph) (act : Action) : Graph :=
  match act.onGraph? with
  | some edit =>
    match edit g with
    | .ok h => h
    | .error _ => g
  | none => g

inductive Site (σ : Type) where
  | alone (g : Graph)
  | within (p : Processor σ)

namespace Site

variable {σ : Type}

def graph : Site σ → Graph
  | alone g => g
  | within p => p.graph

def perform (act : Action) : Site σ → Site σ
  | alone g => .alone (g.after act)
  | within p => .within (p.perform act).2

def ask : Request → Site σ → Site σ
  | .perform act _, s => s.perform act
  | _, s => s

end Site

structure Member (σ : Type) where
  /-- Which of the graphs that were opened it is, or is a copy of, directly or through other copies. -/
  origin : Nat
  site : Site σ
  /-- Handles that it gave out, and before it was copied, the one that it is a copy of. -/
  issued : List (Handle × String)

def Member.ask {σ : Type} (r : Request) (m : Member σ) : Member σ :=
  { m with site := m.site.ask r, issued := m.issued ++ m.site.graph.issues r }

inductive Deed (σ : Type) where
  | openGraph (environment : Environment)
  | openProcessor (adapter : Adapter σ) (memory : σ)
  | copy (member : Nat)
  | ask (member : Nat) (r : Request)

structure World (σ : Type) where
  opened : Nat
  members : List (Member σ)

namespace World

variable {σ : Type}

def empty : World σ := ⟨0, []⟩

def add (w : World σ) (m : Member σ) : World σ := { w with members := w.members ++ [m] }

def nextOwner (w : World σ) : Owner := ⟨w.opened + 1⟩

def next (w : World σ) : Deed σ → World σ
  | .openGraph environment =>
    { w with opened := w.opened + 1 }.add ⟨w.opened, .alone (.empty environment w.nextOwner), []⟩
  | .openProcessor adapter memory =>
    { w with opened := w.opened + 1 }.add ⟨w.opened, .within (.create adapter memory w.nextOwner), []⟩
  | .copy i =>
    match w.members[i]? with
    | some m => w.add { m with site := .alone m.site.graph }
    | none => w
  | .ask i r =>
    match w.members[i]? with
    | some m => { w with members := w.members.set i (m.ask r) }
    | none => w

def after (deeds : List (Deed σ)) : World σ := deeds.foldl next empty

end World

/-- The later graph has the names of the earlier one where they were, and those that it gave out handles for. -/
structure Graph.Extends (g h : Graph) (issued : List (Handle × String)) : Prop where
  owner : h.owner = g.owner
  names : ∀ handle name, h.nameAt handle = .ok name ↔ g.nameAt handle = .ok name ∨ (handle, name) ∈ issued
  kernels : (∀ k ∈ g.kernels, k.owner = g.owner) → ∀ k ∈ h.kernels, k.owner = h.owner

namespace Graph.Extends

variable {g h : Graph}

theorem of_names (owner : h.owner = g.owner) (buffers : h.bufferNames = g.bufferNames)
    (kernels : h.kernelNames = g.kernelNames)
    (owned : (∀ k ∈ g.kernels, k.owner = g.owner) → ∀ k ∈ h.kernels, k.owner = h.owner) : g.Extends h [] where
  owner
  names handle name := by
    cases handle <;> simp [nameAt_buffer_eq_ok, nameAt_kernel_eq_ok, owner, buffers, kernels]
  kernels := owned

theorem refl (g : Graph) : g.Extends g [] := of_names rfl rfl rfl id

theorem of_registry {registry : Registry} (owner : registry.owner = g.owner)
    (names : registry.buffers.map (·.name) = g.bufferNames) : g.Extends { g with registry } [] :=
  of_names owner names rfl fun owned k member => (owned k member).trans owner.symm

end Graph.Extends

theorem map_set_of_same {α β : Type} {f : α → β} {xs : List α} {i : Nat} {x y : α} (known : xs[i]? = some x)
    (same : f y = f x) : (xs.set i y).map f = xs.map f := by
  obtain ⟨early, rfl⟩ := List.getElem?_eq_some_iff.mp known
  have there : i < (xs.map f).length := by simpa using early
  have unchanged : (xs.map f).set i (xs.map f)[i] = xs.map f := List.set_getElem_self there
  rwa [List.map_set, same, ← List.getElem_map f]

theorem getElem?_concat_eq_some {α : Type} {xs : List α} {x y : α} {i : Nat} :
    (xs ++ [x])[i]? = some y ↔ xs[i]? = some y ∨ i = xs.length ∧ y = x := by
  grind

namespace Graph

variable {g h : Graph}

theorem Extends.of_known {issued : List (Handle × String)}
    (known : ∀ entry ∈ issued, g.nameAt entry.1 = .ok entry.2) : g.Extends g issued where
  owner := rfl
  names handle name := by
    constructor
    · exact .inl
    · rintro (there | member)
      · exact there
      · exact known _ member
  kernels := id

theorem createBuffer_extends {id : BufferId} {name : String} {channels : UInt32}
    (created : g.createBuffer name channels = .ok (id, h)) : g.Extends h [(.buffer id, name)] := by
  obtain ⟨-, -, -, -, rfl, rfl⟩ := createBuffer_eq_ok.mp created
  refine ⟨rfl, fun handle found => ?_, fun owned => owned⟩
  cases handle with
  | buffer id =>
    obtain ⟨owner, index⟩ := id
    have names : bufferNames { g with registry := { g.registry with buffers := g.registry.buffers ++
        [.zeroed name g.registry.width g.registry.height channels] } } = g.bufferNames ++ [name] := by
      simp [bufferNames, Buffer.zeroed]
    have length : g.bufferNames.length = g.registry.buffers.length := by simp [bufferNames]
    simp only [nameAt_buffer_eq_ok, names, getElem?_concat_eq_some, length, List.mem_singleton, Prod.mk.injEq,
      Handle.buffer.injEq, BufferId.mk.injEq]
    simp only [Graph.owner]
    tauto
  | kernel id =>
    simp [nameAt_kernel_eq_ok, kernelNames, Graph.owner]

theorem createKernel_extends {id : KernelId} {name : String}
    (created : g.createKernel name = .ok (id, h)) : g.Extends h [(.kernel id, name)] := by
  obtain ⟨-, rfl, rfl⟩ := createKernel_eq_ok.mp created
  refine ⟨rfl, fun handle found => ?_, fun owned => ?_⟩
  · cases handle with
    | buffer id =>
      simp [nameAt_buffer_eq_ok, bufferNames, Graph.owner]
    | kernel id =>
      obtain ⟨owner, index⟩ := id
      have names : kernelNames { g with kernels := g.kernels ++ [.empty name g.owner] } =
          g.kernelNames ++ [name] := by
        simp [kernelNames, Kernel.empty]
      have length : g.kernelNames.length = g.kernels.length := by simp [kernelNames]
      simp only [nameAt_kernel_eq_ok, names, getElem?_concat_eq_some, length, List.mem_singleton, Prod.mk.injEq,
        Handle.kernel.injEq, KernelId.mk.injEq]
      simp only [Graph.owner]
      tauto
  · exact List.forall_mem_append.mpr ⟨owned, by simp [Kernel.empty, Graph.owner]⟩

theorem bufferNamed_known {name : String} {id : BufferId} (found : g.bufferNamed name = .ok id) :
    g.nameAt (.buffer id) = .ok name := by
  unfold bufferNamed Registry.idOf at found
  split at found
  · rename_i index place
    cases found
    obtain ⟨early, named, -⟩ := List.findIdx?_eq_some_iff_getElem.mp place
    have named : g.registry.buffers[index].name = name := by simpa using named
    exact nameAt_buffer_eq_ok.mpr ⟨rfl, by simp [bufferNames, early, named]⟩
  · cases found

theorem kernelNamed_known {name : String} {id : KernelId} (found : g.kernelNamed name = .ok id) :
    g.nameAt (.kernel id) = .ok name := by
  unfold kernelNamed at found
  split at found
  · rename_i index place
    cases found
    obtain ⟨early, named, -⟩ := List.findIdx?_eq_some_iff_getElem.mp place
    have named : g.kernels[index].name = name := by simpa using named
    exact nameAt_kernel_eq_ok.mpr ⟨rfl, by simp [kernelNames, early, named]⟩
  · cases found

theorem entries_known {entry : BufferId × Buffer} (member : entry ∈ g.registry.entries) :
    g.nameAt (.buffer entry.1) = .ok entry.2.name := by
  obtain ⟨index, early, rfl⟩ := List.mem_mapIdx.mp member
  exact nameAt_buffer_eq_ok.mpr ⟨rfl, by simp [bufferNames, early]⟩

theorem kernelEntries_known {entry : KernelId × Kernel} (member : entry ∈ g.kernelEntries) :
    g.nameAt (.kernel entry.1) = .ok entry.2.name := by
  obtain ⟨index, early, rfl⟩ := List.mem_mapIdx.mp member
  exact nameAt_kernel_eq_ok.mpr ⟨rfl, by simp [kernelNames, early]⟩

end Graph

theorem Graph.editKernel_extends {g h : Graph} {id : KernelId} {edit : KernelEdit}
    (edited : g.modifyKernel id edit.apply = .ok h) : g.Extends h [] := by
  obtain ⟨k, l, held, changed, rfl⟩ := modifyKernel_eq_ok.mp edited
  have known := (kernel_eq_ok.mp held).2
  refine .of_names rfl rfl (map_set_of_same known (KernelEdit.grows changed).name) fun owned m member => ?_
  rcases List.mem_or_eq_of_mem_set member with old | rfl
  · exact owned m old
  · exact (edit.owner_of_apply changed).trans (owned k (List.mem_of_getElem? known))

theorem Graph.editBuffer_extends {g h : Graph} {id : BufferId} {edit : BufferEdit}
    (edited : g.modifyBuffer id edit.apply = .ok h) : g.Extends h [] := by
  obtain ⟨b, c, held, changed, rfl⟩ := modifyBuffer_eq_ok.mp edited
  have shape : BufferDescription.ofBuffer c = .ofBuffer b := edit.same_shape changed
  exact .of_registry rfl (map_set_of_same (Registry.get_eq_ok.mp held).2 (congrArg (·.name) shape))

theorem Graph.after_extends (g : Graph) (act : Action) (inPlace : act.EditsInPlace) :
    g.Extends (g.after act) (g.issues (.perform act inPlace)) := by
  cases act with
  | setDimensions width height =>
    simp only [after, Action.onGraph?, issues]
    cases set : g.setDimensions width height with
    | error e => exact .refl g
    | ok h =>
      obtain ⟨-, -, -, rfl⟩ := setDimensions_eq_ok.mp set
      exact .of_registry rfl rfl
  | createBuffer name channels =>
    simp only [after, Action.onGraph?, issues]
    cases created : g.createBuffer name channels with
    | error e => exact .refl g
    | ok made => exact createBuffer_extends created
  | createKernel name =>
    simp only [after, Action.onGraph?, issues]
    cases created : g.createKernel name with
    | error e => exact .refl g
    | ok made => exact createKernel_extends created
  | editBuffer id edit =>
    simp only [after, Action.onGraph?, issues]
    cases edited : g.modifyBuffer id edit.apply with
    | error e => exact .refl g
    | ok h => exact editBuffer_extends edited
  | editKernel id edit =>
    simp only [after, Action.onGraph?, issues]
    cases edited : g.modifyKernel id edit.apply with
    | error e => exact .refl g
    | ok h => exact editKernel_extends edited
  | replaceBuffer | replaceKernel => cases inPlace
  | allocate | build | run | upload | download => exact .refl g

namespace Processor

variable {σ : Type}

def withRecord (p : Processor σ) : Processor (Recorded σ) :=
  ⟨p.adapter.recorded, ⟨p.memory, []⟩, p.graph, p.stage, p.storage, p.compiled⟩

theorem withRecord_step (p : Processor σ) (act : Action) : ∃ answer p',
    p.withRecord.Step act answer p' ∧ p'.graph = (p.perform act).2.graph := by
  have same := perform_unwatched (a := p.adapter) (p := p.withRecord) rfl act
  refine ⟨_, _, perform_step (a := p.adapter) rfl act, ?_⟩
  exact (congrArg (fun made => made.2.graph) same).symm

theorem device_extends (p : Processor σ) {act : Action} (device : act.onGraph? = none) :
    p.graph.Extends (p.perform act).2.graph [] := by
  obtain ⟨answer, p', step, same⟩ := p.withRecord_step act
  rw [← same]
  cases step with
  | edited only => rw [device] at only; cases only
  | downloaded answer data memory stored held =>
    exact .of_registry rfl (map_set_of_same (Registry.get_eq_ok.mp held).2 rfl)
  | _ => exact .refl _

theorem onGraph_graph (p : Processor σ) (act : Action) {edit : Graph → Except Error Graph}
    {change : Graph → Except Error (Unit × Graph)} (only : act.onGraph? = some edit)
    (same : change p.graph = (edit p.graph).map ((), ·)) : (p.onGraph change).2.graph = p.graph.after act := by
  cases h : edit p.graph <;> simp only [onGraph, same, Graph.after, only, h, Except.map]

theorem perform_extends (p : Processor σ) (act : Action) (inPlace : act.EditsInPlace) :
    p.graph.Extends (p.perform act).2.graph (p.graph.issues (.perform act inPlace)) := by
  have alone := p.graph.after_extends act inPlace
  cases act with
  | setDimensions width height =>
    by_cases early : p.stage = .created
    · simp only [perform, setDimensions, if_pos early]
      rwa [p.onGraph_graph (.setDimensions width height) rfl rfl]
    · simp only [perform, setDimensions, if_neg early]
      exact .refl _
  | createBuffer name channels =>
    rwa [perform, p.onGraph_graph (.createBuffer name channels) rfl
      (by cases p.graph.createBuffer name channels <;> rfl)]
  | createKernel name =>
    rwa [perform, p.onGraph_graph (.createKernel name) rfl (by cases p.graph.createKernel name <;> rfl)]
  | editBuffer id edit => rwa [perform, modifyBuffer, p.onGraph_graph (.editBuffer id edit) rfl rfl]
  | editKernel id edit => rwa [perform, p.onGraph_graph (.editKernel id edit) rfl rfl]
  | replaceBuffer | replaceKernel => cases inPlace
  | allocate | build | run | upload | download => exact p.device_extends rfl

end Processor

theorem Site.ask_extends {σ : Type} (s : Site σ) (r : Request) :
    s.graph.Extends (s.ask r).graph (s.graph.issues r) := by
  cases r with
  | perform act inPlace =>
    cases s with
    | alone g => exact g.after_extends act inPlace
    | within p => exact p.perform_extends act inPlace
  | findBuffer name =>
    refine .of_known fun entry member => ?_
    simp only [Graph.issues] at member
    split at member
    · rename_i id found
      obtain rfl := List.mem_singleton.mp member
      exact Graph.bufferNamed_known found
    · cases member
  | findKernel name =>
    refine .of_known fun entry member => ?_
    simp only [Graph.issues] at member
    split at member
    · rename_i id found
      obtain rfl := List.mem_singleton.mp member
      exact Graph.kernelNamed_known found
    · cases member
  | listBuffers =>
    refine .of_known fun entry member => ?_
    obtain ⟨listed, known, rfl⟩ := List.mem_map.mp member
    exact Graph.entries_known known
  | listKernels =>
    refine .of_known fun entry member => ?_
    obtain ⟨listed, known, rfl⟩ := List.mem_map.mp member
    exact Graph.kernelEntries_known known

/-- The identity of the graph is that of its origin, the handles given out are those that lead somewhere, and
the kernels belong to the graph. -/
structure Member.Sound {σ : Type} (m : Member σ) : Prop where
  owner : m.site.graph.owner = ⟨m.origin + 1⟩
  names : ∀ handle name, m.site.graph.nameAt handle = .ok name ↔ (handle, name) ∈ m.issued
  kernels : ∀ k ∈ m.site.graph.kernels, k.owner = m.site.graph.owner

theorem Member.Sound.opened {σ : Type} {origin : Nat} {site : Site σ} {environment : Environment}
    (fresh : site.graph = .empty environment ⟨origin + 1⟩) : Member.Sound ⟨origin, site, []⟩ where
  owner := by rw [fresh]; rfl
  names handle name := by
    rw [fresh]
    cases handle with
    | buffer id => simp [Graph.nameAt_buffer_eq_ok, Graph.empty, Registry.empty, Graph.bufferNames]
    | kernel id => simp [Graph.nameAt_kernel_eq_ok, Graph.empty, Graph.kernelNames]
  kernels := by
    rw [fresh]
    exact fun _ member => absurd member List.not_mem_nil

theorem Member.Sound.ask {σ : Type} {m : Member σ} (sound : m.Sound) (r : Request) : (m.ask r).Sound where
  owner := (m.site.ask_extends r).owner.trans sound.owner
  names handle name := by
    simp only [Member.ask, (m.site.ask_extends r).names, sound.names, List.mem_append]
  kernels := (m.site.ask_extends r).kernels sound.kernels

namespace World

variable {σ : Type}

theorem sound_next {w : World σ} (all : ∀ m ∈ w.members, m.Sound) (deed : Deed σ) :
    ∀ m ∈ (w.next deed).members, m.Sound := by
  cases deed with
  | openGraph environment =>
    exact List.forall_mem_append.mpr ⟨all, List.forall_mem_singleton.mpr (.opened rfl)⟩
  | openProcessor adapter memory =>
    exact List.forall_mem_append.mpr ⟨all, List.forall_mem_singleton.mpr (.opened rfl)⟩
  | copy i =>
    simp only [next]
    split
    · rename_i m known
      -- A copy leads where the original does, by the handles that were issued so far.
      obtain ⟨owner, names, kernels⟩ := all m (List.mem_of_getElem? known)
      exact List.forall_mem_append.mpr ⟨all, List.forall_mem_singleton.mpr ⟨owner, names, kernels⟩⟩
    · exact all
  | ask i r =>
    simp only [next]
    split
    · rename_i m known
      intro n member
      rcases List.mem_or_eq_of_mem_set member with old | rfl
      · exact all n old
      · exact (all m (List.mem_of_getElem? known)).ask r
    · exact all

theorem sound_after (deeds : List (Deed σ)) : ∀ m ∈ (after deeds).members, m.Sound := by
  induction deeds using List.reverseRecOn with
  | nil => exact fun _ member => absurd member List.not_mem_nil
  | append_singleton deeds deed ih =>
    rw [after, List.foldl_concat]
    exact sound_next ih deed

end World

namespace Kernel

variable {k : Kernel} {binding : String} {id : BufferId} {bind : Kernel → String → BufferId → Except Error Kernel}

theorem bind_foreign (which : bind ∈ [bindInput, bindOutput]) (foreign : id.owner ≠ k.owner) :
    bind k binding id = .error (.foreignBinding id.index binding) := by
  have refused : k.checkBinding binding id = .error (.foreignBinding id.index binding) := if_pos foreign
  rcases List.mem_pair.mp which with rfl | rfl
  · exact bind_eq_error.mpr (.inl refused)
  · exact bind_eq_error.mpr (.inl refused)

theorem bind_own (which : bind ∈ [bindInput, bindOutput]) (own : id.owner = k.owner) :
    (∃ l, bind k binding id = .ok l) ↔
      binding ∉ k.bindings.map (·.name) ∧ binding ∉ k.parameters.entries.map (·.name) := by
  have checked : k.checkBinding binding id = .ok () ↔
      binding ∉ k.bindings.map (·.name) ∧ binding ∉ k.parameters.entries.map (·.name) := by
    rw [checkBinding_eq_ok, eq_true own, true_and]
  rcases List.mem_pair.mp which with rfl | rfl
  · simp only [bindInput_eq_ok, exists_and_left, exists_eq, and_true, checked]
  · simp only [bindOutput_eq_ok, exists_and_left, exists_eq, and_true, checked]

end Kernel

namespace World

variable {σ : Type}

/-- A graph takes a handle of another one iff its lineage gave out the same handle, and then for what its own
lineage has issued it for. Graphs of different origins refuse each other's handles, and so do their kernels.
Kernels take every buffer handle of a graph of the same origin. -/
theorem handles_by_lineage (deeds : List (Deed σ)) (i j : Nat) (s t : Member σ) (handle : Handle) (name : String)
    (holder : (after deeds).members[i]? = some s) (user : (after deeds).members[j]? = some t)
    (issued : (handle, name) ∈ s.issued) :
    (∀ found, t.site.graph.nameAt handle = .ok found ↔ (handle, found) ∈ t.issued) ∧
    (∀ e, t.site.graph.nameAt handle = .error e → e.kind = .notFound) ∧
    (s.origin ≠ t.origin →
      (∃ e, t.site.graph.nameAt handle = .error e ∧ e.kind = .notFound) ∧
      ∀ id, handle = .buffer id → ∀ k ∈ t.site.graph.kernels, ∀ binding,
        ∀ bind ∈ [Kernel.bindInput, Kernel.bindOutput],
          ∃ e, bind k binding id = .error e ∧ e.kind = .notFound) ∧
    (s.origin = t.origin → ∀ id, handle = .buffer id → ∀ k ∈ t.site.graph.kernels, ∀ binding,
      ∀ bind ∈ [Kernel.bindInput, Kernel.bindOutput],
        ((∃ l, bind k binding id = .ok l) ↔
          binding ∉ k.bindings.map (·.name) ∧ binding ∉ k.parameters.entries.map (·.name))) := by
  have giver := sound_after deeds s (List.mem_of_getElem? holder)
  have taker := sound_after deeds t (List.mem_of_getElem? user)
  have issuer : handle.owner = ⟨s.origin + 1⟩ :=
    (Graph.owner_of_nameAt ((giver.names handle name).mpr issued)).trans giver.owner
  refine ⟨taker.names handle, fun e => Graph.nameAt_error, fun apart => ⟨?_, ?_⟩, ?_⟩
  · cases found : t.site.graph.nameAt handle with
    | error e => exact ⟨e, rfl, Graph.nameAt_error found⟩
    | ok other =>
      have same : (⟨s.origin + 1⟩ : Owner) = ⟨t.origin + 1⟩ :=
        issuer.symm.trans ((Graph.owner_of_nameAt found).trans taker.owner)
      exact absurd (by simpa using same) apart
  · rintro id rfl k member binding bind which
    have issuer : id.owner = ⟨s.origin + 1⟩ := issuer
    have foreign : id.owner ≠ k.owner := by
      rw [taker.kernels k member, issuer, taker.owner]
      simpa using apart
    exact ⟨_, Kernel.bind_foreign which foreign, rfl⟩
  -- Kernels ask for the owner alone, not whether their graph has the buffer.
  · rintro kin id rfl k member binding bind which
    have issuer : id.owner = ⟨s.origin + 1⟩ := issuer
    have own : id.owner = k.owner := by
      rw [taker.kernels k member, issuer, taker.owner, kin]
    exact Kernel.bind_own which own

def twoCopies : List (Deed Unit) :=
  [.openGraph .openCL, .ask 0 (.perform (.setDimensions 1 1) trivial), .copy 0,
    .ask 0 (.perform (.createBuffer "a" 1) trivial), .ask 1 (.perform (.createBuffer "b" 1) trivial),
    .ask 1 (.perform (.createKernel "k") trivial)]

theorem handles_by_lineage_two_copies : ∃ s t, (after twoCopies).members[0]? = some s ∧
    (after twoCopies).members[1]? = some t ∧ (.buffer ⟨⟨1⟩, 0⟩, "a") ∈ s.issued ∧
    ∀ found, t.site.graph.nameAt (.buffer ⟨⟨1⟩, 0⟩) = .ok found ↔ (.buffer ⟨⟨1⟩, 0⟩, found) ∈ t.issued :=
  ⟨_, _, rfl, rfl, by decide,
    (handles_by_lineage twoCopies 0 1 _ _ (.buffer ⟨⟨1⟩, 0⟩) "a" rfl rfl (by decide)).1⟩

theorem copy_takes_later_handle : ∃ s t, (after twoCopies).members[0]? = some s ∧
    (after twoCopies).members[1]? = some t ∧ (.buffer ⟨⟨1⟩, 0⟩, "a") ∈ s.issued ∧
    (.buffer ⟨⟨1⟩, 0⟩, "a") ∉ t.issued ∧ t.site.graph.nameAt (.buffer ⟨⟨1⟩, 0⟩) = .ok "b" ∧
    ∃ k ∈ t.site.graph.kernels, ∃ l, k.bindInput "x" ⟨⟨1⟩, 0⟩ = .ok l :=
  ⟨_, _, rfl, rfl, by decide, by decide, by decide, .empty "k" ⟨1⟩, by decide, _, rfl⟩

end World

end PixelPipeline
