import PixelPipeline.Command.Execution
import PixelPipeline.Proofs.Declaration
import PixelPipeline.Proofs.Journal

namespace PixelPipeline

open Outcome

variable {W α : Type}

namespace PipelineFile

variable {f : PipelineFile} {k : KernelDeclaration} {environment : Environment} {owner : Owner}

def channels (f : PipelineFile) (name : String) : UInt32 :=
  (f.pipeline.buffers[f.bufferNames.idxOf name]?.map (·.channels)).getD 0

def argument (f : PipelineFile) (b : BindingDeclaration) : Argument := ⟨b.name, f.channels b.buffer⟩

def signature (f : PipelineFile) (k : KernelDeclaration) : Signature where
  kernel := k.name
  inputs := k.inputs.map f.argument
  outputs := k.outputs.map f.argument
  ints := (ParameterSet.mk (lastValues k.parameters)).ints.map (·.1)
  floats := (ParameterSet.mk (lastValues k.parameters)).floats.map (·.1)

def scaffold (f : PipelineFile) (e : Environment) (k : KernelDeclaration) : Scaffold :=
  .ofSignature (f.signature k) e

theorem epilogue_scaffold (f : PipelineFile) (e : Environment) (k : KernelDeclaration) :
    (f.scaffold e k).epilogue = "\x7d" := by
  cases e <;> rfl

theorem resolve_binding {bs : List BindingDeclaration} (known : ∀ b ∈ bs, b.buffer ∈ f.bufferNames) :
    Signature.resolve (f.pipeline.graph environment owner).registry (bs.map (·.binding owner f.bufferNames)) =
      .ok (bs.map f.argument) := by
  rw [Signature.resolve_eq_mapM, mapM_eq_ok, List.forall₂_map_left_iff, List.forall₂_map_right_iff,
    List.forall₂_same]
  intro b member
  have early : f.bufferNames.idxOf b.buffer < f.pipeline.buffers.length := by
    simpa [bufferNames] using List.idxOf_lt_length_iff.mpr (known b member)
  rw [map_eq_ok]
  refine ⟨f.pipeline.buffers[f.bufferNames.idxOf b.buffer].buffer f.pipeline.width f.pipeline.height,
    Registry.get_eq_ok.mpr ⟨rfl, ?_⟩, ?_⟩
  · simp [Pipeline.graph, BindingDeclaration.binding, early]
  · simp [argument, channels, early, BufferDeclaration.buffer, BindingDeclaration.binding]

theorem ofKernel_kernel (environment : Environment) (valid : k.WellFormed f.bufferNames) (source : Option SourceText)
    (e : Environment) :
    Scaffold.ofKernel (f.kernel source owner k) (f.pipeline.graph environment owner).registry e =
      .ok (f.scaffold e k) := by
  obtain ⟨inputs, outputs⟩ := List.forall_mem_append.mp valid.known
  have made : Signature.ofKernel (f.kernel source owner k) (f.pipeline.graph environment owner).registry =
      .ok (f.signature k) := by
    simp only [Signature.ofKernel, bind_eq_ok]
    exact ⟨_, resolve_binding inputs, _, resolve_binding outputs, rfl⟩
  rw [Scaffold.ofKernel, made]
  rfl

def Selects (f : PipelineFile) : Option String → List KernelDeclaration → Prop
  | some name, ks => ∃ k ∈ f.pipeline.kernels, k.name = name ∧ ks = [k]
  | none, ks => ks = f.pipeline.kernels

def sheet (f : PipelineFile) (e : Environment) (k : KernelDeclaration) : Boilerplate.Sheet :=
  ⟨k.name, (f.scaffold e k).prologue ++ (f.scaffold e k).zeroBody ++ "\x7d"⟩

end PipelineFile

/-- The surroundings, and the texts printed so far, in order. -/
structure Transcript (W : Type) where
  world : W
  printed : List String

def Transcript.onWorld (action : StateM W α) : StateM (Transcript W) α := fun t =>
  let (a, world) := action t.world
  (a, { t with world })

namespace Boilerplate

section

variable {f : PipelineFile} {k : KernelDeclaration} {e : Environment} {owner : Owner} {i : Nat}

theorem sheet_eq (valid : f.pipeline.WellFormed) (found : f.pipeline.kernels[i]? = some k) :
    sheet (f.pipeline.graph e owner) ⟨owner, i⟩ = .ok (f.sheet e k) := by
  have held : (f.pipeline.graph e owner).kernel ⟨owner, i⟩ = .ok (f.kernel none owner k) := by
    refine Graph.kernel_eq_ok.mpr ⟨rfl, ?_⟩
    show (f.pipeline.kernels.map _)[i]? = _
    rw [List.getElem?_map, found]
    rfl
  have made : Scaffold.ofKernel (f.kernel none owner k) (f.pipeline.graph e owner).registry
      (f.pipeline.graph e owner).environment = .ok (f.scaffold e k) :=
    PipelineFile.ofKernel_kernel e (valid.each k (List.mem_of_getElem? found)) none e
  simp only [sheet, Graph.boilerplate, held, made, bind, Except.bind, pure, Except.pure, PipelineFile.sheet,
    Scaffold.boilerplate, PipelineFile.epilogue_scaffold]
  rfl

theorem sheets_of_handles (valid : f.pipeline.WellFormed) :
    List.Forall₂ (fun id k => sheet (f.pipeline.graph e owner) id = .ok (f.sheet e k))
      (f.pipeline.handles owner).kernels f.pipeline.kernels := by
  refine List.forall₂_iff_get.mpr ⟨by simp [Pipeline.handles], fun i _ early => ?_⟩
  simpa [Pipeline.handles] using sheet_eq valid (List.getElem?_eq_getElem early)

theorem sheet_of_kernelNamed (valid : f.pipeline.WellFormed) {name : String} {id : KernelId}
    (named : (f.pipeline.graph e owner).kernelNamed name = .ok id) :
    ∃ k ∈ f.pipeline.kernels, k.name = name ∧ sheet (f.pipeline.graph e owner) id = .ok (f.sheet e k) := by
  have searched : (f.pipeline.graph e owner).kernels.findIdx? (·.name == name) =
      f.pipeline.kernels.findIdx? (·.name == name) := List.findIdx?_map
  rw [Graph.kernelNamed, searched] at named
  cases place : f.pipeline.kernels.findIdx? (·.name == name) with
  | none =>
    rw [place] at named
    cases named
  | some i =>
    rw [place] at named
    cases named
    obtain ⟨early, here, -⟩ := List.findIdx?_eq_some_iff_getElem.mp place
    exact ⟨_, List.getElem_mem early, eq_of_beq here, sheet_eq valid (List.getElem?_eq_getElem early)⟩

theorem sheets_of_select {kernel : Option String} {g : Graph} {ids : List KernelId}
    (selection : select f e kernel = .ok (g, ids)) : g.environment = e ∧ ∃ ks, f.Selects kernel ks ∧
      List.Forall₂ (fun id s => sheet g id = .ok s) ids (ks.map (f.sheet e)) := by
  unfold select at selection
  cases made : f.declare none (.empty e ⟨0⟩) with
  | mk outcome h =>
    rw [made] at selection
    cases outcome with
    | error failure => cases selection
    | ok d =>
      obtain ⟨⟨valid, -, -⟩, rfl, rfl⟩ := PipelineFile.makes_declare.mp made
      dsimp only at selection
      cases kernel with
      | none =>
        cases selection
        exact ⟨rfl, _, rfl, List.forall₂_map_right_iff.mpr (sheets_of_handles valid)⟩
      | some name =>
        cases named : (f.pipeline.graph e ⟨0⟩).kernelNamed name with
        | error error =>
          simp only [selected, named] at selection
          cases selection
        | ok id =>
          simp only [selected, named] at selection
          cases selection
          obtain ⟨k, listed, same, made⟩ := sheet_of_kernelNamed valid named
          exact ⟨rfl, [k], ⟨k, listed, same, rfl⟩, .cons made .nil⟩

end

section

variable {shell : Shell (StateM W)} {verbose : Bool} {g : Graph} {directory : Option Path} {several first : Bool}
  {id : KernelId} {ids : List KernelId} {sheets : List Sheet}

theorem emitAll_cons {S : Type} {shell : Shell (StateM S)} {s t : S} :
    emitAll shell verbose g directory several first (id :: ids) s = (.ok (), t) ↔
      ∃ made r, sheet g id = .ok made ∧
        emit shell verbose g.environment directory several first made s = (.ok (), r) ∧
        emitAll shell verbose g directory several false ids r = (.ok (), t) := by
  rw [emitAll]
  cases made : sheet g id with
  | error e =>
    constructor
    · intro ran
      obtain ⟨_, _, failed, -⟩ := ran_bind.mp ran
      cases failed
    · rintro ⟨_, _, impossible, -⟩
      cases impossible
  | ok s =>
    rw [ran_bind]
    constructor
    · rintro ⟨_, r, emitted, later⟩
      exact ⟨s, r, rfl, emitted, later⟩
    · rintro ⟨_, r, same, emitted, later⟩
      cases same
      exact ⟨(), r, emitted, later⟩

def Unwritten (action : StateM (Journal W) α) : Prop := ∀ j, (action j).2.writes = j.writes

theorem Unwritten.bind {β : Type} {action : StateM (Journal W) α} {next : α → StateM (Journal W) β}
    (first : Unwritten action) (later : ∀ a, Unwritten (next a)) : Unwritten (action >>= next) :=
  fun j => (later _ _).trans (first j)

theorem ran_of_accepted {S σ : Type} {format : Pipeline.Format} {shell : Shell (StateM S)} {platform : Platform σ}
    {request : BoilerplateRequest} {s : S}
    (accepted : ((Command.boilerplate request).execute format shell platform verbose s).1.code = 0) :
    execute format shell verbose request s =
      (.ok (), ((Command.boilerplate request).execute format shell platform verbose s).2) := by
  have ended : (Command.boilerplate request).execute format shell platform verbose s =
      (.ofResult (execute format shell verbose request s).1 none, (execute format shell verbose request s).2) := rfl
  rw [ended] at accepted ⊢
  cases ran : execute format shell verbose request s with
  | mk result t =>
    rw [ran] at accepted
    cases result with
    | error e => exact absurd accepted e.code_ne_zero
    | ok _ => rfl

end

end Boilerplate

end PixelPipeline
