import PixelPipeline.Pipeline.Declaration
import PixelPipeline.Proofs.Edits
import PixelPipeline.Proofs.Parameters

namespace PixelPipeline

open Outcome

structure KernelDeclaration.WellFormed (buffers : List String) (k : KernelDeclaration) : Prop where
  known : ∀ b ∈ k.inputs ++ k.outputs, b.buffer ∈ buffers
  distinct : ((k.inputs ++ k.outputs).map (·.name)).Nodup
  apart : ∀ q ∈ k.parameters, q.name ∉ (k.inputs ++ k.outputs).map (·.name)
  types : OneType k.parameters

structure Pipeline.WellFormed (p : Pipeline) : Prop where
  width : 1 ≤ p.width.toNat ∧ p.width.toNat ≤ 2147483647
  height : 1 ≤ p.height.toNat ∧ p.height.toNat ≤ 2147483647
  channels : ∀ b ∈ p.buffers, 1 ≤ b.channels.toNat ∧ b.channels.toNat ≤ 4
  buffers : (p.buffers.map (·.name)).Nodup
  kernels : (p.kernels.map (·.name)).Nodup
  each : ∀ k ∈ p.kernels, k.WellFormed (p.buffers.map (·.name))

def ParameterDeclaration.Decided (d : ParameterDeclaration) : Prop := d.int.isSome ≠ d.float.isSome

/-- The contents of a buffer fit into one allocation. -/
def Pipeline.Fits (p : Pipeline) (b : BufferDeclaration) : Prop :=
  4 * (p.width.toNat * p.height.toNat * b.channels.toNat) ≤ largestBlock

structure Pipeline.Declarable (p : Pipeline) : Prop where
  valid : p.WellFormed
  decided : ∀ k ∈ p.kernels, ∀ d ∈ k.params, d.Decided
  room : ∀ b ∈ p.buffers, p.Fits b

theorem ParameterDeclaration.exists_parameter {d : ParameterDeclaration} :
    (∃ p, d.parameter = .ok p) ↔ d.Decided := by
  obtain ⟨name, int, float⟩ := d
  cases int <;> cases float <;> simp [parameter, Decided]

def BindingDeclaration.binding (owner : Owner) (buffers : List String) (b : BindingDeclaration) : Binding :=
  ⟨b.name, ⟨owner, buffers.idxOf b.buffer⟩⟩

def BufferDeclaration.buffer (width height : UInt32) (b : BufferDeclaration) : Buffer :=
  ⟨b.name, width, height, b.channels,
    Array.replicate (width.toNat * height.toNat * b.channels.toNat) .zero⟩

def KernelDeclaration.kernel (owner : Owner) (buffers : List String) (k : KernelDeclaration) : Kernel where
  name := k.name
  owner
  source := ""
  inputs := k.inputs.map (·.binding owner buffers)
  outputs := k.outputs.map (·.binding owner buffers)
  parameters := ⟨lastValues k.parameters⟩

def Pipeline.graph (environment : Environment) (owner : Owner) (p : Pipeline) : Graph where
  environment
  registry := ⟨owner, p.width, p.height, p.buffers.map (·.buffer p.width p.height)⟩
  kernels := p.kernels.map (·.kernel owner (p.buffers.map (·.name)))

def Pipeline.handles (owner : Owner) (p : Pipeline) : Declared where
  buffers := (List.range p.buffers.length).map (⟨owner, ·⟩)
  kernels := (List.range p.kernels.length).map (⟨owner, ·⟩)

/-- Acceptable items, whose names differ from each other and from those taken. -/
def Apart {α : Type} (taken : List String) (acceptable : α → Prop) (name : α → String) (xs : List α) : Prop :=
  (∀ x ∈ xs, acceptable x) ∧ (taken ++ xs.map name).Nodup

section

variable {α : Type} {taken : List String} {acceptable : α → Prop} {name : α → String}

theorem Apart.nil (distinct : taken.Nodup) : Apart taken acceptable name [] :=
  ⟨fun _ member => absurd member List.not_mem_nil, by simpa using distinct⟩

theorem Apart.of_append {xs ys : List α} (all : Apart taken acceptable name (xs ++ ys)) :
    Apart taken acceptable name xs := by
  obtain ⟨each, distinct⟩ := all
  rw [List.map_append, ← List.append_assoc] at distinct
  exact ⟨(List.forall_mem_append.mp each).1, (List.nodup_append.mp distinct).1⟩

theorem Apart.concat {xs : List α} {x : α} : Apart taken acceptable name (xs ++ [x]) ↔
    Apart taken acceptable name xs ∧ acceptable x ∧ name x ∉ taken ++ xs.map name := by
  have distinct : (taken ++ (xs ++ [x]).map name).Nodup ↔
      (taken ++ xs.map name).Nodup ∧ name x ∉ taken ++ xs.map name := by
    rw [List.map_append, ← List.append_assoc, List.map_singleton, ← List.concat_eq_append, List.nodup_concat,
      and_comm]
  simp only [Apart, distinct, List.forall_mem_append, List.forall_mem_singleton]
  tauto

end

namespace Declaring

variable {α β : Type}

/-- The step succeeds on a graph with a result and another graph. -/
def Makes (x : Declaring α) (g : Graph) (a : α) (h : Graph) : Prop := x g = (Except.ok a, h)

section

variable {x : Declaring α} {f : α → Declaring β} {g h : Graph} {a : α} {b : β}

theorem makes_pure {c : α} : Makes (pure c) g a h ↔ c = a ∧ g = h := by
  constructor
  · intro made
    cases made
    exact ⟨rfl, rfl⟩
  · rintro ⟨rfl, rfl⟩
    rfl

theorem run_bind : (x >>= f) g = match x g with
    | (.ok a, between) => f a between
    | (.error e, between) => (.error e, between) := by
  show (x g >>= fun y => ExceptT.bindCont f y.1 y.2) = _
  rcases x g with ⟨_ | _, _⟩ <;> rfl

theorem makes_bind : Makes (x >>= f) g b h ↔ ∃ a between, Makes x g a between ∧ Makes (f a) between b h :=
  ran_bind

theorem makes_step {change : Graph → Except Error (α × Graph)} :
    Makes (step change) g a h ↔ change g = .ok (a, h) := by
  unfold Makes step
  rcases change g with e | ⟨made, between⟩
  · constructor <;> intro made <;> cases made
  · constructor <;> intro made <;> cases made <;> rfl

end

theorem makes_mapM_after (Allowed : List α → Prop) (handle : Nat → β) (state : List α → Graph)
    {act : α → Declaring β} (start : ∀ xs ys, Allowed (xs ++ ys) → Allowed xs)
    (each : ∀ xs x a h, Allowed xs → (Makes (act x) (state xs) a h ↔
      Allowed (xs ++ [x]) ∧ a = handle xs.length ∧ h = state (xs ++ [x])))
    {xs ys : List α} {as : List β} {h : Graph} (allowed : Allowed xs) :
    Makes (ys.mapM act) (state xs) as h ↔ Allowed (xs ++ ys) ∧
      as = (List.range' xs.length ys.length).map handle ∧ h = state (xs ++ ys) := by
  induction ys generalizing xs as with
  | nil =>
    rw [List.mapM_nil, makes_pure, List.append_nil]
    simp [allowed, eq_comm]
  | cons y ys ih =>
    simp only [List.mapM_cons, makes_bind, makes_pure, each _ _ _ _ allowed]
    have assoc : xs ++ y :: ys = xs ++ [y] ++ ys := by simp
    have next : (xs ++ [y]).length = xs.length + 1 := by simp
    rw [assoc]
    constructor
    · rintro ⟨_, _, ⟨first, rfl, rfl⟩, _, _, later, rfl, rfl⟩
      obtain ⟨all, rfl, rfl⟩ := (ih first).mp later
      exact ⟨all, by rw [next]; rfl, rfl⟩
    · rintro ⟨all, rfl, rfl⟩
      have first := start _ _ all
      exact ⟨_, _, ⟨first, rfl, rfl⟩, _, _, (ih first).mpr ⟨all, rfl, rfl⟩, by rw [next]; rfl, rfl⟩

theorem makes_mapM (Allowed : List α → Prop) (handle : Nat → β) (state : List α → Graph)
    {act : α → Declaring β} (start : ∀ xs ys, Allowed (xs ++ ys) → Allowed xs)
    (each : ∀ xs x a h, Allowed xs → (Makes (act x) (state xs) a h ↔
      Allowed (xs ++ [x]) ∧ a = handle xs.length ∧ h = state (xs ++ [x])))
    {xs : List α} {as : List β} {h : Graph} (none : Allowed []) :
    Makes (xs.mapM act) (state []) as h ↔ Allowed xs ∧ as = (List.range xs.length).map handle ∧ h = state xs := by
  rw [List.range_eq_range']
  exact makes_mapM_after Allowed handle state start each none

theorem makes_forM_iff_mapM {act : α → Declaring Unit} {xs : List α} {g h : Graph} :
    Makes (xs.forM act) g () h ↔ ∃ units, Makes (xs.mapM act) g units h := by
  induction xs generalizing g with
  | nil => simp [makes_pure]
  | cons x xs ih =>
    have unfolded : (x :: xs).forM act = act x >>= fun _ => xs.forM act := rfl
    simp only [unfolded, List.mapM_cons, makes_bind, makes_pure, ih]
    constructor
    · rintro ⟨_, between, first, units, later⟩
      exact ⟨_, (), between, first, units, h, later, rfl, rfl⟩
    · rintro ⟨_, _, between, first, units, _, later, -, rfl⟩
      exact ⟨(), between, first, units, later⟩

theorem makes_forM (Allowed : List α → Prop) (state : List α → Graph) {act : α → Declaring Unit}
    (start : ∀ xs ys, Allowed (xs ++ ys) → Allowed xs)
    (each : ∀ xs x h, Allowed xs → (Makes (act x) (state xs) () h ↔
      Allowed (xs ++ [x]) ∧ h = state (xs ++ [x])))
    {xs : List α} {h : Graph} (none : Allowed []) :
    Makes (xs.forM act) (state []) () h ↔ Allowed xs ∧ h = state xs := by
  have all (units : List Unit) : Makes (xs.mapM act) (state []) units h ↔ Allowed xs ∧
      units = (List.range xs.length).map (fun _ => ()) ∧ h = state xs :=
    makes_mapM Allowed (fun _ => ()) state start (fun xs x _ h allowed => by simpa using each xs x h allowed) none
  rw [makes_forM_iff_mapM]
  constructor
  · rintro ⟨units, made⟩
    obtain ⟨accepted, -, rfl⟩ := (all units).mp made
    exact ⟨accepted, rfl⟩
  · rintro ⟨accepted, rfl⟩
    exact ⟨_, (all _).mpr ⟨accepted, rfl, rfl⟩⟩

end Declaring

def Graph.draft (g : Graph) (k : Kernel) : Graph := { g with kernels := g.kernels ++ [k] }

def Graph.nextKernel (g : Graph) : KernelId := ⟨g.owner, g.kernels.length⟩

theorem Graph.modifyKernel_draft {g h : Graph} {k : Kernel} {edit : Kernel → Except Error Kernel} :
    (g.draft k).modifyKernel g.nextKernel edit = .ok h ↔ ∃ l, edit k = .ok l ∧ h = g.draft l := by
  have held : (g.draft k).kernel g.nextKernel = .ok k :=
    Graph.kernel_eq_ok.mpr ⟨rfl, by simp [draft, nextKernel]⟩
  simp only [modifyKernel_eq_ok, held]
  constructor
  · rintro ⟨_, l, same, edited, rfl⟩
    cases same
    exact ⟨l, edited, by simp [draft, nextKernel]⟩
  · rintro ⟨l, edited, rfl⟩
    exact ⟨k, l, rfl, edited, by simp [draft, nextKernel]⟩

theorem Declaring.makes_onKernel {g h : Graph} {k : Kernel} {edit : Kernel → Except Error Kernel} :
    Makes (onKernel g.nextKernel edit) (g.draft k) () h ↔ ∃ l, edit k = .ok l ∧ h = g.draft l := by
  rw [onKernel, makes_step, map_eq_ok, ← Graph.modifyKernel_draft]
  constructor
  · rintro ⟨_, modified, same⟩
    cases same
    exact modified
  · exact fun modified => ⟨h, modified, rfl⟩

namespace PipelineFile

open Declaring

variable {f : PipelineFile} {g h : Graph}

def bufferNames (f : PipelineFile) : List String := f.pipeline.buffers.map (·.name)

theorem makes_bufferNamed {owner : Owner} {name : String} {id : BufferId} :
    Makes (f.bufferNamed (f.pipeline.handles owner).buffers name) g id h ↔
      name ∈ f.bufferNames ∧ id = ⟨owner, f.bufferNames.idxOf name⟩ ∧ h = g := by
  have searched : f.pipeline.buffers.findIdx? (·.name == name) = f.bufferNames.findIdx? (· == name) := by
    rw [bufferNames, List.findIdx?_map]
    rfl
  unfold bufferNamed
  rw [searched]
  by_cases known : name ∈ f.bufferNames
  · have place : f.bufferNames.findIdx? (· == name) = some (f.bufferNames.idxOf name) :=
      List.findIdx?_eq_some_iff_findIdx_eq.mpr ⟨List.idxOf_lt_length_iff.mpr known, rfl⟩
    have early : f.bufferNames.idxOf name < f.pipeline.buffers.length := by
      simpa [bufferNames] using List.idxOf_lt_length_iff.mpr known
    have issued : (f.pipeline.handles owner).buffers[f.bufferNames.idxOf name]? =
        some ⟨owner, f.bufferNames.idxOf name⟩ := by
      simp [Pipeline.handles, early]
    simp only [place, Option.bind_some, issued, makes_pure, known, true_and]
    exact and_congr eq_comm eq_comm
  · have absent : f.bufferNames.findIdx? (· == name) = none := by
      rw [List.findIdx?_eq_none_iff]
      intro other member
      exact beq_false_of_ne fun same => known (same ▸ member)
    simp only [absent, Option.bind_none, known, false_and, iff_false]
    intro made
    cases made

section

variable {owner : Owner}

theorem makes_bindings (kernel : List BindingDeclaration → Kernel) (given : List BindingDeclaration)
    (bind : Kernel → String → BufferId → Except Error Kernel) {bs : List BindingDeclaration}
    (owned : ∀ xs, (kernel xs).owner = owner) (free : ∀ xs, (kernel xs).parameters = ∅)
    (names : ∀ xs, (kernel xs).bindings.map (·.name) = (given ++ xs).map (·.name))
    (binds : ∀ xs b l, bind (kernel xs) b.name (b.binding owner f.bufferNames).buffer = .ok l ↔
      (kernel xs).checkBinding b.name (b.binding owner f.bufferNames).buffer = .ok () ∧
        l = kernel (xs ++ [b]))
    (distinct : (given.map (·.name)).Nodup) :
    Makes (bs.forM fun b => do
        let buffer ← f.bufferNamed (f.pipeline.handles owner).buffers b.buffer
        onKernel g.nextKernel (bind · b.name buffer)) (g.draft (kernel [])) () h ↔
      (∀ b ∈ bs, b.buffer ∈ f.bufferNames) ∧ ((given ++ bs).map (·.name)).Nodup ∧
        h = g.draft (kernel bs) := by
  rw [← and_assoc, List.map_append]
  refine makes_forM (Apart (given.map (·.name)) (·.buffer ∈ f.bufferNames) (·.name))
    (fun xs => g.draft (kernel xs)) (fun _ _ => Apart.of_append) (fun xs b h allowed => ?_) (.nil distinct)
  -- No parameter is set yet, so a name is taken by other bindings only.
  have checked : (kernel xs).checkBinding b.name (b.binding owner f.bufferNames).buffer = .ok () ↔
      b.name ∉ given.map (·.name) ++ xs.map (·.name) := by
    rw [Kernel.checkBinding_eq_ok, names, owned, free]
    simp [BindingDeclaration.binding, EmptyCollection.emptyCollection, ParameterSet.empty]
  simp only [Apart.concat, allowed, true_and]
  rw [makes_bind]
  constructor
  · rintro ⟨_, _, found, bound⟩
    obtain ⟨known, rfl, rfl⟩ := makes_bufferNamed.mp found
    obtain ⟨l, made, rfl⟩ := makes_onKernel.mp bound
    obtain ⟨fresh, rfl⟩ := (binds xs b l).mp made
    exact ⟨⟨known, checked.mp fresh⟩, rfl⟩
  · rintro ⟨⟨known, new⟩, rfl⟩
    exact ⟨_, _, makes_bufferNamed.mpr ⟨known, rfl, rfl⟩,
      makes_onKernel.mpr ⟨_, (binds xs b _).mpr ⟨checked.mpr new, rfl⟩, rfl⟩⟩

theorem makes_parameters {k : Kernel} {ps : List Parameter} (free : k.parameters = ∅) :
    Makes (ps.forM fun p => onKernel g.nextKernel (·.setParameter p)) (g.draft k) () h ↔
      (∀ q ∈ ps, q.name ∉ k.bindings.map (·.name)) ∧ OneType ps ∧
        h = g.draft { k with parameters := ⟨lastValues ps⟩ } := by
  let Allowed (ps : List Parameter) : Prop := (∀ q ∈ ps, q.name ∉ k.bindings.map (·.name)) ∧ OneType ps
  have start : ∀ xs ys, Allowed (xs ++ ys) → Allowed xs := by
    rintro xs ys ⟨apart, types⟩
    exact ⟨(List.forall_mem_append.mp apart).1, fun q member r other =>
      types q (List.mem_append_left _ member) r (List.mem_append_left _ other)⟩
  have none : Allowed [] := ⟨fun _ member => absurd member List.not_mem_nil,
    fun _ member => absurd member List.not_mem_nil⟩
  have empty : g.draft k = g.draft { k with parameters := ⟨lastValues []⟩ } := by
    obtain ⟨name, owner, source, inputs, outputs, parameters⟩ := k
    cases free
    rfl
  rw [← and_assoc, empty]
  refine makes_forM Allowed (fun ps => g.draft { k with parameters := ⟨lastValues ps⟩ }) start
    (fun ps p h allowed => ?_) none
  have bound : ({ k with parameters := ⟨lastValues ps⟩ } : Kernel).bindings = k.bindings := rfl
  simp only [makes_onKernel, Kernel.setParameter_eq_ok, bound, ParameterSet.set_lastValues_eq_ok allowed.2]
  constructor
  · rintro ⟨_, ⟨apart, _, ⟨types, rfl⟩, rfl⟩, rfl⟩
    exact ⟨⟨List.forall_mem_append.mpr ⟨allowed.1, by simpa using apart⟩, types⟩, rfl⟩
  · rintro ⟨⟨apart, types⟩, rfl⟩
    exact ⟨_, ⟨apart p (by simp), _, ⟨types, rfl⟩, rfl⟩, rfl⟩

theorem forM_setParameter {id : KernelId} {ds : List ParameterDeclaration} (decided : ∀ d ∈ ds, d.Decided) :
    ds.forM (setParameter id) =
      (ds.filterMap (·.parameter.toOption)).forM fun p => onKernel id (·.setParameter p) := by
  induction ds with
  | nil => rfl
  | cons d ds ih =>
    obtain ⟨first, rest⟩ := List.forall_mem_cons.mp decided
    obtain ⟨p, given⟩ := ParameterDeclaration.exists_parameter.mpr first
    have listed : (d :: ds).filterMap (·.parameter.toOption) = p :: ds.filterMap (·.parameter.toOption) :=
      List.filterMap_cons_some (toOption_eq_some.mpr given)
    have unfolded : (d :: ds).forM (setParameter id) = setParameter id d >>= fun _ => ds.forM (setParameter id) := rfl
    rw [unfolded, ih rest, listed, setParameter, given]
    rfl

theorem decided_of_makes {id : KernelId} {ds : List ParameterDeclaration}
    (made : Makes (ds.forM (setParameter id)) g () h) : ∀ d ∈ ds, d.Decided := by
  induction ds generalizing g with
  | nil => exact fun d member => absurd member List.not_mem_nil
  | cons d ds ih =>
    obtain ⟨_, between, first, later⟩ := makes_bind.mp made
    refine List.forall_mem_cons.mpr ⟨ParameterDeclaration.exists_parameter.mp ?_, ih later⟩
    cases given : d.parameter with
    | ok p => exact ⟨p, rfl⟩
    | error cause =>
      rw [setParameter, given] at first
      cases first

theorem makes_params {k : Kernel} {d : KernelDeclaration} (free : k.parameters = ∅) :
    Makes (d.params.forM (setParameter g.nextKernel)) (g.draft k) () h ↔ (∀ p ∈ d.params, p.Decided) ∧
      (∀ q ∈ d.parameters, q.name ∉ k.bindings.map (·.name)) ∧ OneType d.parameters ∧
        h = g.draft { k with parameters := ⟨lastValues d.parameters⟩ } := by
  constructor
  · intro made
    have decided := decided_of_makes made
    rw [forM_setParameter decided] at made
    exact ⟨decided, (makes_parameters free).mp made⟩
  · rintro ⟨decided, rest⟩
    rw [forM_setParameter decided]
    exact (makes_parameters free).mpr rest

def boundKernel (f : PipelineFile) (owner : Owner) (name : String) (inputs outputs : List BindingDeclaration) :
    Kernel :=
  { Kernel.empty name owner with
    inputs := inputs.map (·.binding owner f.bufferNames)
    outputs := outputs.map (·.binding owner f.bufferNames) }

theorem boundKernel_names {name : String} {inputs outputs : List BindingDeclaration} :
    (f.boundKernel owner name inputs outputs).bindings.map (·.name) = (inputs ++ outputs).map (·.name) := by
  simp [boundKernel, Kernel.bindings, BindingDeclaration.binding, Function.comp_def]

theorem makes_inputs {name : String} {bs : List BindingDeclaration} :
    Makes (bs.forM fun b => do
        let buffer ← f.bufferNamed (f.pipeline.handles owner).buffers b.buffer
        onKernel g.nextKernel (·.bindInput b.name buffer)) (g.draft (f.boundKernel owner name [] [])) () h ↔
      (∀ b ∈ bs, b.buffer ∈ f.bufferNames) ∧ (bs.map (·.name)).Nodup ∧
        h = g.draft (f.boundKernel owner name bs []) := by
  refine makes_bindings (f.boundKernel owner name · []) [] Kernel.bindInput (fun _ => rfl) (fun _ => rfl)
    (fun xs => by simp [boundKernel_names]) (fun xs b l => ?_) List.nodup_nil
  rw [Kernel.bindInput_eq_ok]
  simp [boundKernel, BindingDeclaration.binding]

theorem makes_outputs {name : String} {inputs bs : List BindingDeclaration}
    (distinct : (inputs.map (·.name)).Nodup) :
    Makes (bs.forM fun b => do
        let buffer ← f.bufferNamed (f.pipeline.handles owner).buffers b.buffer
        onKernel g.nextKernel (·.bindOutput b.name buffer)) (g.draft (f.boundKernel owner name inputs [])) () h ↔
      (∀ b ∈ bs, b.buffer ∈ f.bufferNames) ∧ ((inputs ++ bs).map (·.name)).Nodup ∧
        h = g.draft (f.boundKernel owner name inputs bs) := by
  refine makes_bindings (f.boundKernel owner name inputs) inputs Kernel.bindOutput (fun _ => rfl) (fun _ => rfl)
    (fun xs => boundKernel_names) (fun xs b l => ?_) distinct
  rw [Kernel.bindOutput_eq_ok]
  simp [boundKernel, BindingDeclaration.binding]

def textOf (f : PipelineFile) (source : Option SourceText) (k : KernelDeclaration) :
    Except FileError (Option String) :=
  match source, k.source with
  | some read, some path => (read (f.resolve path)).map some
  | _, _ => .ok none

def kernel (f : PipelineFile) (source : Option SourceText) (owner : Owner) (k : KernelDeclaration) : Kernel :=
  { k.kernel owner f.bufferNames with source := (f.textOf source k).toOption.join.getD "" }

def graph (f : PipelineFile) (source : Option SourceText) (environment : Environment) (owner : Owner) : Graph :=
  { f.pipeline.graph environment owner with kernels := f.pipeline.kernels.map (f.kernel source owner) }

variable {source : Option SourceText}

theorem makes_sourceOf {k : KernelDeclaration} {text : Option String} :
    Makes (f.sourceOf source k) g text h ↔ f.textOf source k = .ok text ∧ h = g := by
  have none : Makes (pure none) g text h ↔ (.ok none : Except FileError (Option String)) = .ok text ∧ h = g := by
    rw [makes_pure, Except.ok.injEq]
    exact and_congr_right fun _ => eq_comm
  unfold sourceOf textOf
  cases source with
  | none => exact none
  | some read =>
    cases k.source with
    | none => exact none
    | some path =>
      dsimp only
      cases read (f.resolve path) with
      | error e =>
        constructor
        · intro made
          cases made
        · rintro ⟨impossible, -⟩
          cases impossible
      | ok contents =>
        simp only [Except.map, makes_pure, Except.ok.injEq]
        exact and_congr_right fun _ => eq_comm

theorem makes_setText {k : Kernel} {id : KernelId} (text : Option String) :
    Makes (do
        match text with
        | some text => onKernel g.nextKernel fun k => .ok (k.setSource text)
        | none => pure ()
        return g.nextKernel) (g.draft k) id h ↔
      id = g.nextKernel ∧ h = g.draft { k with source := text.getD k.source } := by
  cases text with
  | none => exact makes_pure.trans (and_congr eq_comm eq_comm)
  | some text =>
    rw [makes_bind]
    constructor
    · rintro ⟨_, _, changed, returned⟩
      obtain ⟨rfl, rfl⟩ := makes_pure.mp returned
      obtain ⟨_, made, rfl⟩ := makes_onKernel.mp changed
      cases made
      exact ⟨rfl, rfl⟩
    · rintro ⟨rfl, rfl⟩
      exact ⟨(), _, makes_onKernel.mpr ⟨_, rfl, rfl⟩, makes_pure.mpr ⟨rfl, rfl⟩⟩

theorem makes_declareKernel {k : KernelDeclaration} {id : KernelId} (own : g.owner = owner) :
    Makes (f.declareKernel (f.pipeline.handles owner).buffers source k) g id h ↔
      k.name ∉ g.kernels.map (·.name) ∧
        ((k.WellFormed f.bufferNames ∧ ∀ d ∈ k.params, d.Decided) ∧ ∃ text, f.textOf source k = .ok text) ∧
        id = g.nextKernel ∧ h = g.draft (f.kernel source owner k) := by
  have started : ({ g with kernels := g.kernels ++ [.empty k.name g.owner] } : Graph) =
      g.draft (f.boundKernel owner k.name [] []) := by rw [own]; rfl
  have handle : (⟨g.owner, g.kernels.length⟩ : KernelId) = g.nextKernel := rfl
  have sourced (text : Option String) (given : f.textOf source k = .ok text) : f.kernel source owner k =
      { k.kernel owner f.bufferNames with source := text.getD "" } := by
    rw [PipelineFile.kernel, given]
    rfl
  simp only [declareKernel, makes_bind, makes_step, Graph.createKernel_eq_ok, makes_sourceOf, started, handle]
  constructor
  · rintro ⟨_, _, ⟨new, rfl, rfl⟩, text, _, ⟨given, rfl⟩, _, _, inputs, _, _, outputs, _, _, parameters, last⟩
    obtain ⟨known, distinct, rfl⟩ := makes_inputs.mp inputs
    obtain ⟨known_outputs, distinct, rfl⟩ := (makes_outputs distinct).mp outputs
    obtain ⟨decided, apart, types, rfl⟩ := (makes_params rfl).mp parameters
    rw [boundKernel_names] at apart
    have valid : k.WellFormed f.bufferNames :=
      ⟨List.forall_mem_append.mpr ⟨known, known_outputs⟩, distinct, apart, types⟩
    refine ⟨new, ⟨⟨valid, decided⟩, text, given⟩, ?_⟩
    rw [sourced text given]
    exact (makes_setText text).mp last
  · rintro ⟨new, ⟨⟨⟨known, distinct, apart, types⟩, decided⟩, text, given⟩, rfl, rfl⟩
    obtain ⟨known_inputs, known_outputs⟩ := List.forall_mem_append.mp known
    have distinct_inputs : (k.inputs.map (·.name)).Nodup := by
      rw [List.map_append] at distinct
      exact (List.nodup_append.mp distinct).1
    refine ⟨_, _, ⟨new, rfl, rfl⟩, text, _, ⟨given, rfl⟩, (), _,
      makes_inputs.mpr ⟨known_inputs, distinct_inputs, rfl⟩,
      (), _, (makes_outputs distinct_inputs).mpr ⟨known_outputs, distinct, rfl⟩,
      (), _, (makes_params rfl).mpr ⟨decided, ?_, types, rfl⟩, ?_⟩
    · rw [boundKernel_names]
      exact apart
    · rw [sourced text given]
      exact (makes_setText text).mpr ⟨rfl, rfl⟩

theorem makes_kernels {ids : List KernelId} (own : g.owner = owner) (fresh : g.kernels = []) :
    Makes (f.pipeline.kernels.mapM (f.declareKernel (f.pipeline.handles owner).buffers source)) g ids h ↔
      ((∀ k ∈ f.pipeline.kernels, (k.WellFormed f.bufferNames ∧ ∀ d ∈ k.params, d.Decided) ∧
            ∃ text, f.textOf source k = .ok text) ∧
          (f.pipeline.kernels.map (·.name)).Nodup) ∧
        ids = (f.pipeline.handles owner).kernels ∧
        h = { g with kernels := f.pipeline.kernels.map (f.kernel source owner) } := by
  let state (ks : List KernelDeclaration) : Graph := { g with kernels := ks.map (f.kernel source owner) }
  have start : state [] = g := by
    obtain ⟨environment, registry, kernels⟩ := g
    cases fresh
    rfl
  have all : Makes (f.pipeline.kernels.mapM (f.declareKernel (f.pipeline.handles owner).buffers source))
      (state []) ids h ↔
        Apart [] (fun k => (k.WellFormed f.bufferNames ∧ ∀ d ∈ k.params, d.Decided) ∧
          ∃ text, f.textOf source k = .ok text) (·.name) f.pipeline.kernels ∧
        ids = (List.range f.pipeline.kernels.length).map (⟨owner, ·⟩) ∧ h = state f.pipeline.kernels := by
    refine makes_mapM _ _ state (fun _ _ => Apart.of_append) (fun ks k id h allowed => ?_)
      (.nil List.nodup_nil)
    have named : (state ks).kernels.map (·.name) = [] ++ ks.map (·.name) := by
      simp [state, PipelineFile.kernel, KernelDeclaration.kernel, Function.comp_def]
    have next : (state ks).nextKernel = ⟨owner, ks.length⟩ := by
      simp [state, Graph.nextKernel, ← own, Graph.owner]
    have added : state (ks ++ [k]) = (state ks).draft (f.kernel source owner k) := by
      simp [state, Graph.draft]
    have own : (state ks).owner = owner := own
    rw [makes_declareKernel own, Apart.concat, named, next, added]
    simp only [allowed, true_and]
    tauto
  rw [start] at all
  simpa [Apart, Pipeline.handles] using all

theorem elementCount_toNat {width height channels : UInt32} (wide : width.toNat ≤ 2147483647)
    (high : height.toNat ≤ 2147483647) (few : channels.toNat ≤ 4) :
    (Buffer.elementCount width height channels).toNat = width.toNat * height.toNat * channels.toNat := by
  have pixels : width.toNat * height.toNat ≤ 2147483647 * 2147483647 := Nat.mul_le_mul wide high
  have elements : width.toNat * height.toNat * channels.toNat ≤ 2147483647 * 2147483647 * 4 :=
    Nat.mul_le_mul pixels few
  -- Two lengths of 31 bits and a channel count of three fit in 64, so neither product wraps.
  have small : width.toNat * height.toNat % 2 ^ 64 = width.toNat * height.toNat :=
    Nat.mod_eq_of_lt (by omega)
  simp only [Buffer.elementCount, UInt64.toNat_mul, UInt32.toNat_toUInt64, small]
  exact Nat.mod_eq_of_lt (by omega)

theorem makes_buffers {ids : List BufferId} {bs : List BufferDeclaration}
    (wide : 1 ≤ f.pipeline.width.toNat ∧ f.pipeline.width.toNat ≤ 2147483647)
    (high : 1 ≤ f.pipeline.height.toNat ∧ f.pipeline.height.toNat ≤ 2147483647)
    (fresh : g.registry = ⟨owner, f.pipeline.width, f.pipeline.height, []⟩) :
    Makes (bs.mapM fun b => step (·.createBuffer b.name b.channels)) g ids h ↔
      ((∀ b ∈ bs, (1 ≤ b.channels.toNat ∧ b.channels.toNat ≤ 4) ∧ f.pipeline.Fits b) ∧ (bs.map (·.name)).Nodup) ∧
        ids = (List.range bs.length).map (⟨owner, ·⟩) ∧
        h = { g with registry := ⟨owner, f.pipeline.width, f.pipeline.height,
          bs.map (·.buffer f.pipeline.width f.pipeline.height)⟩ } := by
  let state (bs : List BufferDeclaration) : Graph := { g with registry := ⟨owner, f.pipeline.width, f.pipeline.height,
    bs.map (·.buffer f.pipeline.width f.pipeline.height)⟩ }
  have start : state [] = g := by
    obtain ⟨environment, registry, kernels⟩ := g
    cases fresh
    rfl
  have set : f.pipeline.width ≠ 0 ∧ f.pipeline.height ≠ 0 := by
    simp only [ne_eq, ← UInt32.toNat_inj, UInt32.toNat_zero]
    omega
  have all : Makes (bs.mapM fun b => step (·.createBuffer b.name b.channels)) (state []) ids h ↔
      Apart [] (fun b => (1 ≤ b.channels.toNat ∧ b.channels.toNat ≤ 4) ∧ f.pipeline.Fits b) (·.name) bs ∧
        ids = (List.range bs.length).map (⟨owner, ·⟩) ∧ h = state bs := by
    refine makes_mapM _ _ state (fun _ _ => Apart.of_append) (fun bs b id h allowed => ?_)
      (.nil List.nodup_nil)
    have named : (state bs).registry.buffers.map (·.name) = [] ++ bs.map (·.name) := by
      simp [state, BufferDeclaration.buffer, Function.comp_def]
    have next : (⟨(state bs).owner, (state bs).registry.buffers.length⟩ : BufferId) = ⟨owner, bs.length⟩ := by
      simp [state, Graph.owner]
    have room (few : b.channels.toNat ≤ 4) : (state bs).registry.HasRoom b.channels ↔ f.pipeline.Fits b := by
      rw [Registry.HasRoom, elementCount_toNat wide.2 high.2 few]
      rfl
    have added (few : b.channels.toNat ≤ 4) : state (bs ++ [b]) = { state bs with registry := {
        (state bs).registry with buffers := (state bs).registry.buffers ++
          [.zeroed b.name (state bs).registry.width (state bs).registry.height b.channels] } } := by
      simp [state, BufferDeclaration.buffer, Buffer.zeroed, elementCount_toNat wide.2 high.2 few]
    rw [makes_step, Graph.createBuffer_eq_ok, Apart.concat, named, next]
    constructor
    · rintro ⟨-, range, new, fits, rfl, rfl⟩
      exact ⟨⟨allowed, ⟨range, (room range.2).mp fits⟩, new⟩, rfl, (added range.2).symm⟩
    · rintro ⟨⟨-, ⟨range, fits⟩, new⟩, rfl, rfl⟩
      exact ⟨set, range, new, (room range.2).mpr fits, rfl, added range.2⟩
  rw [start] at all
  simpa [Apart] using all

theorem makes_declareContents {d : Declared}
    (wide : 1 ≤ f.pipeline.width.toNat ∧ f.pipeline.width.toNat ≤ 2147483647)
    (high : 1 ≤ f.pipeline.height.toNat ∧ f.pipeline.height.toNat ≤ 2147483647)
    (unused : g.registry = ⟨owner, f.pipeline.width, f.pipeline.height, []⟩) (fresh : g.kernels = []) :
    Makes (f.declareContents source) g d h ↔
      (f.pipeline.Declarable ∧ ∀ k ∈ f.pipeline.kernels, ∃ text, f.textOf source k = .ok text) ∧
        d = f.pipeline.handles owner ∧ h = f.graph source g.environment owner := by
  let filled : Graph := { g with registry := ⟨owner, f.pipeline.width, f.pipeline.height,
    f.pipeline.buffers.map (·.buffer f.pipeline.width f.pipeline.height)⟩ }
  have own : filled.owner = owner := rfl
  have empty : filled.kernels = [] := fresh
  simp only [declareContents, makes_bind, makes_pure]
  constructor
  · rintro ⟨_, _, buffers, _, _, kernels, rfl, rfl⟩
    obtain ⟨⟨proper, distinct⟩, rfl, rfl⟩ := (makes_buffers wide high unused).mp buffers
    obtain ⟨⟨each, apart⟩, rfl, rfl⟩ := (makes_kernels own empty).mp kernels
    obtain ⟨channels, room⟩ := forall₂_and.mp proper
    obtain ⟨valid, readable⟩ := forall₂_and.mp each
    obtain ⟨valid, decided⟩ := forall₂_and.mp valid
    exact ⟨⟨⟨⟨wide, high, channels, distinct, apart, valid⟩, decided, room⟩, readable⟩, rfl, rfl⟩
  · rintro ⟨⟨⟨⟨-, -, channels, distinct, apart, valid⟩, decided, room⟩, readable⟩, rfl, rfl⟩
    have each := forall₂_and.mpr ⟨forall₂_and.mpr ⟨valid, decided⟩, readable⟩
    exact ⟨_, filled, (makes_buffers wide high unused).mpr ⟨⟨forall₂_and.mpr ⟨channels, room⟩, distinct⟩, rfl, rfl⟩,
      _, _, (makes_kernels own empty).mpr ⟨⟨each, apart⟩, rfl, rfl⟩, rfl, rfl⟩

theorem makes_declare_from {environment : Environment} {d : Declared} :
    Makes (f.declare source) (.empty environment owner) d h ↔
      (f.pipeline.Declarable ∧ ∀ k ∈ f.pipeline.kernels, ∃ text, f.textOf source k = .ok text) ∧
        d = f.pipeline.handles owner ∧ h = f.graph source environment owner := by
  simp only [declare, makes_bind, makes_step, map_eq_ok, Graph.setDimensions_eq_ok]
  constructor
  · rintro ⟨_, _, ⟨_, ⟨wide, high, -, rfl⟩, same⟩, contents⟩
    cases same
    exact (makes_declareContents wide high rfl rfl).mp contents
  · rintro ⟨accepted, made⟩
    have valid := accepted.1.valid
    exact ⟨(), _, ⟨_, ⟨valid.width, valid.height, rfl, rfl⟩, rfl⟩,
      (makes_declareContents valid.width valid.height rfl rfl).mpr ⟨accepted, made⟩⟩

theorem makes_declare {environment : Environment} {d : Declared} :
    Makes (f.declare none) (.empty environment owner) d h ↔ f.pipeline.Declarable ∧
      d = f.pipeline.handles owner ∧ h = f.pipeline.graph environment owner := by
  have unread : ∀ k ∈ f.pipeline.kernels, ∃ text, f.textOf none k = .ok text := fun _ _ => ⟨none, rfl⟩
  rw [makes_declare_from, and_iff_left unread]
  rfl

theorem declare_on_processor {σ : Type} (f : PipelineFile) (adapter : Adapter σ) (memory : σ) (owner : Owner) :
    let outcome := f.declare source (.empty adapter.environment owner)
    Processor.declare f source (.create adapter memory owner) =
      (outcome.1, { Processor.create adapter memory owner with graph := outcome.2 }) := by
  have fresh : (Processor.create adapter memory owner).stage = .created := rfl
  simp only [Processor.declare, Processor.setDimensions, if_pos fresh, Processor.onGraph, declare, run_bind,
    Declaring.step]
  have graph : (Processor.create adapter memory owner).graph = .empty adapter.environment owner := rfl
  rw [graph]
  cases Graph.setDimensions (.empty adapter.environment owner) f.pipeline.width f.pipeline.height with
  | error e => rfl
  | ok g => rfl

end

end PipelineFile

end PixelPipeline
