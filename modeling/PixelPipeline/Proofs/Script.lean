import PixelPipeline.Proofs.Declaration
import PixelPipeline.Proofs.Journal
import PixelPipeline.Proofs.LastBuild

/-!
What running a pipeline file comes to, duty by duty. Main statement: a list of duties is carried out in order iff
its first part is, and then the rest of it unless the first part failed.
-/
namespace PixelPipeline

/-- What is asked of the device or of the files, with the answer. -/
inductive Access where
  | call (c : DeviceCall)
  | write (w : FileWrite)

namespace Access

def calls (trace : List Access) : List DeviceCall :=
  trace.filterMap fun
    | .call c => some c
    | .write _ => none

def writes (trace : List Access) : List FileWrite :=
  trace.filterMap fun
    | .call _ => none
    | .write w => some w

variable {first rest : List Access} {cs : List DeviceCall}

@[simp]
theorem calls_append : calls (first ++ rest) = calls first ++ calls rest := List.filterMap_append

@[simp]
theorem writes_append : writes (first ++ rest) = writes first ++ writes rest := List.filterMap_append

@[simp]
theorem calls_map_call : calls (cs.map .call) = cs := by
  induction cs with
  | nil => rfl
  | cons c rest ih => exact congrArg (c :: ·) ih

@[simp]
theorem writes_map_call : writes (cs.map .call) = [] := by
  induction cs with
  | nil => rfl
  | cons c rest ih => exact ih

end Access

/-- A part of a run: what it can do, and whether it has succeeded then. -/
abbrev Duty : Type := List Access → Bool → Prop

namespace Duty

def check (condition : Prop) : Duty := fun trace done => trace = [] ∧ (done = true ↔ condition)

def asks {α : Type} (call : Except Error α → DeviceCall) (expected : α → Prop) : Duty := fun trace done =>
  ∃ answer, trace = [.call (call answer)] ∧ done = answer.isOk ∧ ∀ a, answer = .ok a → expected a

def saves (path : Path) (data : Array Single) : Duty := fun trace done =>
  ∃ answer : Except FileError Unit, trace = [.write ⟨path, RawFloats.encode data, answer⟩] ∧ done = answer.isOk

/-- A duty with something that is sure to be there. -/
def given {α : Type} (known : α → Prop) (duty : α → Duty) : Duty := fun trace done =>
  ∃ a, known a ∧ duty a trace done

def needs {α : Type} (known : α → Prop) (duty : α → Duty) : Duty := fun trace done =>
  (∃ a, known a ∧ duty a trace done) ∨ (∀ a, ¬ known a) ∧ check False trace done

theorem check_true {condition : Prop} (holds : condition) : check condition [] true := ⟨rfl, iff_of_true rfl holds⟩

theorem check_false {condition : Prop} (fails : ¬ condition) : check condition [] false :=
  ⟨rfl, iff_of_false Bool.false_ne_true fails⟩

end Duty

/-- The duties are carried out one after another, up to the first that fails. -/
inductive InOrder : List Duty → List Access → Bool → Prop
  | nil : InOrder [] [] true
  | failed {duty : Duty} {rest : List Duty} {trace : List Access} (stops : duty trace false) :
      InOrder (duty :: rest) trace false
  | next {duty : Duty} {rest : List Duty} {trace later : List Access} {done : Bool} (succeeds : duty trace true)
      (others : InOrder rest later done) : InOrder (duty :: rest) (trace ++ later) done

theorem InOrder.call {duty : Duty} {rest : List Duty} {c : DeviceCall} {later : List Access} {done : Bool}
    (succeeds : duty [.call c] true) (others : InOrder rest later done) :
    InOrder (duty :: rest) (.call c :: later) done :=
  .next succeeds others

theorem InOrder.append_iff {first rest : List Duty} {trace : List Access} {done : Bool} :
    InOrder (first ++ rest) trace done ↔ (InOrder first trace false ∧ done = false) ∨
      ∃ before after, trace = before ++ after ∧ InOrder first before true ∧ InOrder rest after done := by
  induction first generalizing trace with
  | nil =>
    constructor
    · intro all
      exact .inr ⟨[], trace, rfl, .nil, all⟩
    · rintro (⟨impossible, -⟩ | ⟨before, after, rfl, empty, all⟩)
      · cases impossible
      · cases empty
        exact all
  | cons duty first ih =>
    constructor
    · intro all
      cases all with
      | failed stops => exact .inl ⟨.failed stops, rfl⟩
      | next succeeds others =>
        rcases ih.mp others with ⟨stopped, rfl⟩ | ⟨before, after, rfl, early, late⟩
        · exact .inl ⟨.next succeeds stopped, rfl⟩
        · exact .inr ⟨_, after, (List.append_assoc ..).symm, .next succeeds early, late⟩
    · rintro (⟨stopped, rfl⟩ | ⟨before, after, rfl, early, late⟩)
      · cases stopped with
        | failed stops => exact .failed stops
        | next succeeds others => exact .next succeeds (ih.mpr (.inl ⟨others, rfl⟩))
      · cases early with
        | next succeeds others =>
          rw [List.append_assoc]
          exact .next succeeds (ih.mpr (.inr ⟨_, after, rfl, others, late⟩))

theorem InOrder.singleton {duty : Duty} {trace : List Access} {done : Bool} :
    InOrder [duty] trace done ↔ duty trace done := by
  constructor
  · intro all
    cases all with
    | failed stops => exact stops
    | next succeeds others =>
      cases others
      rwa [List.append_nil]
  · intro outcome
    cases done with
    | false => exact .failed outcome
    | true => exact List.append_nil trace ▸ .next outcome .nil

structure Kernel.Buildable (g : Graph) (storage : List DeviceBuffer) (k : Kernel) : Prop where
  source : ¬ Text.isBlankText k.source
  output : k.outputs ≠ []
  bindings : ∀ b ∈ k.inputs ++ k.outputs, g.registry.contains b.buffer ∧ b.buffer.index < storage.length

namespace PipelineFile

open Duty

variable (f : PipelineFile) (files : Files Id) (environment : Environment) (storage : List DeviceBuffer)
  (programs : List Program)

def elements (b : BufferDeclaration) : Nat :=
  f.pipeline.width.toNat * f.pipeline.height.toNat * b.channels.toNat

def sources : SourceText := f.readSources files

def declared : Graph := f.graph (some (f.sources files)) environment ⟨0⟩

/-- What a buffer holds at first: all that is in a file of its size, or one value everywhere. -/
def Initially (b : BufferDeclaration) : Initial → Array Single → Prop
  | .file path, data => ∃ bytes, files.read (f.resolve path) = .ok bytes ∧ bytes.size = 4 * f.elements b ∧
    RawFloats.encode data = bytes
  | .fill value, data => data = .replicate (f.elements b) value

def supplies (b : BufferDeclaration × Nat) : List Duty :=
  match b.1.initial with
  | none => []
  | some initial =>
    [needs (f.Initially files b.1 initial) fun data => needs (storage[b.2]? = some ·) fun d =>
      asks (.upload d data) fun _ => True]

def compiles (k : Kernel × Nat) : Duty :=
  given (fun source => k.1.assemble (f.declared files environment).registry environment = .ok source) fun source =>
    asks (.compile k.1.name source) fun program => programs[k.2]? = some program

structure Launches (k : Kernel × Nat) (l : Launch) : Prop where
  kernel : l.kernel = k.1.name
  program : programs[k.2]? = some l.program
  planned : Processor.launch (f.declared files environment) storage
    (Processor.compiledEntry (⟨⟨0⟩, k.2⟩, k.1) l.program) = .ok l

def dispatches (k : Kernel × Nat) : Duty :=
  given (f.Launches files environment storage programs k) fun l => asks (.dispatch l) fun _ => True

def deliveries (b : BufferDeclaration × Nat) : List Duty :=
  match b.1.output with
  | none => []
  | some path =>
    [needs (storage[b.2]? = some ·) fun d => given (·.size = f.elements b.1) fun data =>
      InOrder [asks (.download d (f.elements b.1)) (· = data), saves (f.resolve path) data]]

def preparation : List Duty :=
  check (f.pipeline.Declarable ∧ ∀ k ∈ f.pipeline.kernels, ∃ text, f.textOf (some (f.sources files)) k = .ok text) ::
    asks (.allocate ((f.declared files environment).registry.buffers.map .ofBuffer)) (· = storage) ::
      f.pipeline.buffers.zipIdx.flatMap (f.supplies files storage)

def computation : List Duty :=
  check (∀ k ∈ (f.declared files environment).kernels, k.Buildable (f.declared files environment) storage) ::
    ((f.declared files environment).kernels.zipIdx.map (f.compiles files environment programs) ++
      (f.declared files environment).kernels.zipIdx.map (f.dispatches files environment storage programs))

def delivery : List Duty := f.pipeline.buffers.zipIdx.flatMap (f.deliveries storage)

def outputs : List Path := f.pipeline.buffers.filterMap fun b => b.output.map f.resolve

end PipelineFile

def Duty.Free {β : Type} (kind : Access → Option β) (duty : Duty) : Prop :=
  ∀ trace done, duty trace done → trace.filterMap kind = []

def Duty.Quiet (duty : Duty) : Prop := ∀ trace done, duty trace done → Access.writes trace = []

namespace Duty

variable {α β : Type} {kind : Access → Option β}

theorem free_check (condition : Prop) : (check condition).Free kind := by
  rintro _ _ ⟨rfl, -⟩
  rfl

theorem free_asks {call : Except Error α → DeviceCall} (expected : α → Prop)
    (other : ∀ answer, kind (.call (call answer)) = none) : (asks call expected).Free kind := by
  rintro _ _ ⟨answer, rfl, -⟩
  exact List.filterMap_cons_none (other answer)

theorem free_given {known : α → Prop} {duty : α → Duty} (each : ∀ a, (duty a).Free kind) :
    (given known duty).Free kind := by
  rintro _ _ ⟨a, -, outcome⟩
  exact each a _ _ outcome

theorem free_needs {known : α → Prop} {duty : α → Duty} (each : ∀ a, (duty a).Free kind) :
    (needs known duty).Free kind := by
  rintro _ _ (⟨a, -, outcome⟩ | ⟨-, rfl, -⟩)
  · exact each a _ _ outcome
  · rfl

end Duty

theorem InOrder.free {β : Type} {kind : Access → Option β} {duties : List Duty} {trace : List Access} {done : Bool}
    (all : InOrder duties trace done) (each : ∀ duty ∈ duties, duty.Free kind) : trace.filterMap kind = [] := by
  induction all with
  | nil => rfl
  | failed stops => exact each _ List.mem_cons_self _ _ stops
  | next succeeds _ ih =>
    rw [List.filterMap_append, each _ List.mem_cons_self _ _ succeeds,
      ih fun duty member => each duty (List.mem_cons_of_mem _ member)]
    rfl

theorem InOrder.quiet {duties : List Duty} {trace : List Access} {done : Bool} (all : InOrder duties trace done)
    (each : ∀ duty ∈ duties, duty.Quiet) : Access.writes trace = [] :=
  all.free each

/-- Files are written in the order given, each after the one before is there. A write that fails is the last. -/
inductive WrittenInOrder : List Path → List FileWrite → Bool → Prop
  | nil : WrittenInOrder [] [] true
  | stopped (path : Path) (rest : List Path) : WrittenInOrder (path :: rest) [] false
  | failed (path : Path) (rest : List Path) (bytes : ByteArray) (e : FileError) :
      WrittenInOrder (path :: rest) [⟨path, bytes, .error e⟩] false
  | next {rest : List Path} {writes : List FileWrite} {done : Bool} (path : Path) (bytes : ByteArray) :
      WrittenInOrder rest writes done → WrittenInOrder (path :: rest) (⟨path, bytes, .ok ()⟩ :: writes) done

structure Duty.Delivers (path : Path) (duty : Duty) : Prop where
  written : ∀ trace, duty trace true → ∃ bytes, Access.writes trace = [⟨path, bytes, .ok ()⟩]
  failed : ∀ trace, duty trace false →
    Access.writes trace = [] ∨ ∃ bytes e, Access.writes trace = [⟨path, bytes, .error e⟩]

theorem Duty.delivers_fetched {fetch : Duty} (quiet : fetch.Quiet) (path : Path) (data : Array Single) :
    Delivers path (InOrder [fetch, saves path data]) := by
  constructor
  · intro trace all
    cases all with
    | next succeeds following =>
      obtain ⟨answer, rfl, accepted⟩ := InOrder.singleton.mp following
      cases answer with
      | error e => cases accepted
      | ok _ =>
        rw [Access.writes_append, quiet _ _ succeeds]
        exact ⟨_, rfl⟩
  · intro trace all
    cases all with
    | failed stops => exact .inl (quiet _ _ stops)
    | next succeeds following =>
      obtain ⟨answer, rfl, refused⟩ := InOrder.singleton.mp following
      cases answer with
      | error e =>
        rw [Access.writes_append, quiet _ _ succeeds]
        exact .inr ⟨_, e, rfl⟩
      | ok _ => cases refused

theorem Duty.Delivers.needs {α : Type} {path : Path} {known : α → Prop} {duty : α → Duty}
    (each : ∀ a, (duty a).Delivers path) : (Duty.needs known duty).Delivers path where
  written := by
    rintro trace (⟨a, -, outcome⟩ | ⟨-, -, impossible⟩)
    · exact (each a).written trace outcome
    · exact absurd (impossible.mp rfl) not_false
  failed := by
    rintro trace (⟨a, -, outcome⟩ | ⟨-, rfl, -⟩)
    · exact (each a).failed trace outcome
    · exact .inl rfl

theorem Duty.Delivers.given {α : Type} {path : Path} {known : α → Prop} {duty : α → Duty}
    (each : ∀ a, (duty a).Delivers path) : (Duty.given known duty).Delivers path where
  written := fun trace ⟨a, _, outcome⟩ => (each a).written trace outcome
  failed := fun trace ⟨a, _, outcome⟩ => (each a).failed trace outcome

theorem WrittenInOrder.delivered {duty : Duty} {path : Path} (delivers : duty.Delivers path) {rest : List Duty}
    {others : List Path} {trace : List Access} {done : Bool} (all : InOrder (duty :: rest) trace done)
    (late : ∀ later, InOrder rest later done → WrittenInOrder others (Access.writes later) done) :
    WrittenInOrder (path :: others) (Access.writes trace) done := by
  cases all with
  | failed stops =>
    rcases delivers.failed _ stops with none | ⟨bytes, e, one⟩
    · rw [none]
      exact .stopped _ _
    · rw [one]
      exact .failed _ _ _ e
  | next succeeds following =>
    obtain ⟨bytes, one⟩ := delivers.written _ succeeds
    rw [Access.writes_append, one]
    exact .next _ _ (late _ following)

namespace PipelineFile

open Duty

variable {f : PipelineFile} {files : Files Id} {environment : Environment} {storage : List DeviceBuffer}
  {programs : List Program} {trace : List Access} {done : Bool}

section

variable {β : Type} {kind : Access → Option β}

theorem free_preparation (allocates : ∀ ds answer, kind (.call (.allocate ds answer)) = none)
    (uploads : ∀ d data answer, kind (.call (.upload d data answer)) = none) :
    ∀ duty ∈ f.preparation files environment storage, duty.Free kind := by
  simp only [preparation, List.forall_mem_cons, List.forall_mem_flatMap]
  refine ⟨free_check _, free_asks _ (allocates _), fun b _ => ?_⟩
  unfold supplies
  split
  · exact fun _ member => absurd member List.not_mem_nil
  · exact List.forall_mem_singleton.mpr (free_needs fun _ => free_needs fun _ => free_asks _ (uploads _ _))

theorem free_dispatches (dispatches : ∀ l answer, kind (.call (.dispatch l answer)) = none) (ks : List (Kernel × Nat)) :
    ∀ duty ∈ ks.map (f.dispatches files environment storage programs), duty.Free kind :=
  List.forall_mem_map.mpr fun _ _ => free_given fun _ => free_asks _ (dispatches _)

end

theorem quiet_preparation : ∀ duty ∈ f.preparation files environment storage, duty.Quiet :=
  free_preparation (fun _ _ => rfl) fun _ _ _ => rfl

theorem quiet_computation : ∀ duty ∈ f.computation files environment storage programs, duty.Quiet := by
  simp only [computation, List.forall_mem_cons, List.forall_mem_append]
  exact ⟨free_check _, List.forall_mem_map.mpr fun _ _ => free_given fun _ => free_asks _ fun _ => rfl,
    free_dispatches (fun _ _ => rfl) _⟩

theorem unstarted (refused : ¬ f.pipeline.Declarable) {rest : List Duty}
    (all : InOrder (f.preparation files environment storage ++ rest) trace done) : trace = [] := by
  cases all with
  | failed stops => exact stops.1
  | next succeeds _ => exact absurd (succeeds.2.mp rfl).1 refused

theorem initially_file {b : BufferDeclaration} {path : Path} {data : Array Single} :
    f.Initially files b (.file path) data ↔ RawFloats.load files (f.resolve path) (f.elements b) = .ok data := by
  rw [load_eq_ok, Initially]
  constructor
  · rintro ⟨bytes, opened, fits, same⟩
    have length := RawFloats.size_encode data
    rw [same, fits, Nat.mul_comm] at length
    exact ⟨(Nat.mul_right_cancel (by decide) length).symm, bytes, opened, fits, same⟩
  · rintro ⟨-, found⟩
    exact found

theorem written_of_delivery (all : InOrder (f.delivery storage) trace done) :
    WrittenInOrder f.outputs (Access.writes trace) done := by
  have outputs : f.outputs = f.pipeline.buffers.zipIdx.filterMap fun b => b.1.output.map f.resolve := by
    calc f.outputs
        = (f.pipeline.buffers.zipIdx.map Prod.fst).filterMap fun b => b.output.map f.resolve := by
          rw [List.zipIdx_map_fst]
          rfl
      _ = _ := List.filterMap_map
  rw [outputs]
  unfold delivery at all
  generalize f.pipeline.buffers.zipIdx = buffers at all ⊢
  induction buffers generalizing trace with
  | nil =>
    cases all
    exact .nil
  | cons b rest ih =>
    rw [List.flatMap_cons, deliveries] at all
    cases output : b.1.output with
    | none =>
      rw [output] at all
      rw [List.filterMap_cons_none (by rw [output]; rfl)]
      exact ih all
    | some path =>
      rw [output] at all
      rw [List.filterMap_cons_some (b := f.resolve path) (by rw [output]; rfl)]
      exact .delivered (.needs fun _ => .given fun _ => delivers_fetched (free_asks _ fun _ => rfl) _ _) all
        fun _ later => ih later

end PipelineFile

end PixelPipeline
