import PixelPipeline.Processor.Lifecycle

/-!
Devices that keep a record of the calls made to them, each with its answer. What a processor asks of a
device is read off the record, whatever the device.
-/
namespace PixelPipeline

inductive DeviceCall where
  | allocate (buffers : List BufferDescription) (answer : Except Error (List DeviceBuffer))
  | compile (kernel source : String) (answer : Except Error Program)
  | release (program : Program)
  | dispatch (launch : Launch) (answer : Except Error Unit)
  | upload (buffer : DeviceBuffer) (data : Array Single) (answer : Except Error Unit)
  | download (buffer : DeviceBuffer) (length : Nat) (answer : Except Error (Array Single))

/-- The memory of a device and the calls so far, in order. -/
structure Recorded (σ : Type) where
  memory : σ
  calls : List DeviceCall

variable {σ : Type}

def Recorded.note (r : Recorded σ) (memory : σ) (call : DeviceCall) : Recorded σ :=
  ⟨memory, r.calls ++ [call]⟩

def Adapter.recorded (a : Adapter σ) : Adapter (Recorded σ) where
  environment := a.environment
  name := a.name
  allocate buffers r :=
    let (answer, memory) := a.allocate buffers r.memory
    (answer, r.note memory (.allocate buffers answer))
  compile kernel source r :=
    let (answer, memory) := a.compile kernel source r.memory
    (answer, r.note memory (.compile kernel source answer))
  release program r := r.note (a.release program r.memory) (.release program)
  dispatch launch r :=
    let (answer, memory) := a.dispatch launch r.memory
    (answer, r.note memory (.dispatch launch answer))
  upload buffer data r :=
    let (answer, memory) := a.upload buffer data r.memory
    (answer, r.note memory (.upload buffer data answer))
  download {n} buffer data r :=
    let (answer, data, memory) := a.download buffer data r.memory
    (answer, data, r.note memory (.download buffer n (answer.map fun _ => data.toArray)))

section

variable {a : Adapter σ} {r : Recorded σ} {memory : σ}

theorem Adapter.recorded_allocate {buffers : List BufferDescription}
    {answer : Except Error (List DeviceBuffer)} (h : a.allocate buffers r.memory = (answer, memory)) :
    a.recorded.allocate buffers r = (answer, r.note memory (.allocate buffers answer)) := by
  simp only [recorded, h]

theorem Adapter.recorded_compile {kernel source : String} {answer : Except Error Program}
    (h : a.compile kernel source r.memory = (answer, memory)) :
    a.recorded.compile kernel source r = (answer, r.note memory (.compile kernel source answer)) := by
  simp only [recorded, h]

theorem Adapter.recorded_dispatch {launch : Launch} {answer : Except Error Unit}
    (h : a.dispatch launch r.memory = (answer, memory)) :
    a.recorded.dispatch launch r = (answer, r.note memory (.dispatch launch answer)) := by
  simp only [recorded, h]

theorem Adapter.recorded_upload {buffer : DeviceBuffer} {data : Array Single} {answer : Except Error Unit}
    (h : a.upload buffer data r.memory = (answer, memory)) :
    a.recorded.upload buffer data r = (answer, r.note memory (.upload buffer data answer)) := by
  simp only [recorded, h]

theorem Adapter.recorded_download {n : Nat} {buffer : DeviceBuffer} {host data : Vector Single n}
    {answer : Except Error Unit} (h : a.download buffer host r.memory = (answer, data, memory)) :
    a.recorded.download buffer host r =
      (answer, data, r.note memory (.download buffer n (answer.map fun _ => data.toArray))) := by
  simp only [recorded, h]

end

def DeviceCall.releases (compiled : List CompiledKernel) : List DeviceCall :=
  compiled.map fun c => .release c.program

def DeviceCall.compiles (units : List Processor.SourceUnit) (programs : List Program) : List DeviceCall :=
  List.zipWith (fun u program => .compile u.kernel.name u.source (.ok program)) units programs

theorem DeviceCall.compiles_eq_map (units : List Processor.SourceUnit) (programs : List Program) :
    compiles units programs =
      (units.zip programs).map fun made => .compile made.1.kernel.name made.1.source (.ok made.2) :=
  List.map_uncurry_zip_eq_zipWith.symm

theorem DeviceCall.mem_compiles {units : List Processor.SourceUnit} {programs : List Program} {call : DeviceCall}
    (member : call ∈ compiles units programs) :
    ∃ kernel source program, call = .compile kernel source (.ok program) := by
  rw [compiles_eq_map] at member
  obtain ⟨made, -, rfl⟩ := List.mem_map.mp member
  exact ⟨_, _, _, rfl⟩

/-- The dispatches of planned launches, up to the first that could not be planned or was refused. -/
inductive Dispatches : List (Except Error Launch) → List DeviceCall → Except Error Unit → Prop
  | nil : Dispatches [] [] (.ok ())
  | unplanned (e : Error) (rest : List (Except Error Launch)) :
      Dispatches (.error e :: rest) [] (.error e)
  | refused (l : Launch) (e : Error) (rest : List (Except Error Launch)) :
      Dispatches (.ok l :: rest) [.dispatch l (.error e)] (.error e)
  | next {rest : List (Except Error Launch)} {calls : List DeviceCall} {answer : Except Error Unit}
      (l : Launch) : Dispatches rest calls answer →
      Dispatches (.ok l :: rest) (.dispatch l (.ok ()) :: calls) answer

theorem Dispatches.planned {planned : List (Except Error Launch)} {calls : List DeviceCall}
    {answer : Except Error Unit} (dispatched : Dispatches planned calls answer) :
    ∀ call ∈ calls, ∃ l result, call = .dispatch l result ∧ .ok l ∈ planned := by
  induction dispatched with
  | nil | unplanned => simp
  | refused l e rest =>
    intro call member
    exact ⟨l, .error e, List.mem_singleton.mp member, List.mem_cons_self⟩
  | next l _ ih =>
    intro call member
    rcases List.mem_cons.mp member with rfl | member
    · exact ⟨l, .ok (), rfl, List.mem_cons_self⟩
    · obtain ⟨m, result, same, known⟩ := ih call member
      exact ⟨m, result, same, List.mem_cons_of_mem _ known⟩

namespace Processor

theorem releaseAll_recorded (a : Adapter σ) (compiled : List CompiledKernel) (r : Recorded σ) :
    releaseAll a.recorded compiled r =
      ⟨releaseAll a compiled r.memory, r.calls ++ DeviceCall.releases compiled⟩ := by
  induction compiled generalizing r with
  | nil => simp [releaseAll, DeviceCall.releases]
  | cons c rest ih =>
    have tail := ih (a.recorded.release c.program r)
    simp only [releaseAll, List.foldl_cons] at tail ⊢
    rw [tail]
    simp [Adapter.recorded, Recorded.note, DeviceCall.releases]

theorem compileAll_recorded (a : Adapter σ) (done : List CompiledKernel) (units : List SourceUnit)
    (r : Recorded σ) :
    (∃ programs memory, programs.length = units.length ∧
      compileAll a.recorded done units r =
        (.ok (done ++ List.zipWith SourceUnit.compiled units programs),
          ⟨memory, r.calls ++ DeviceCall.compiles units programs⟩)) ∨
    (∃ first u rest programs e memory, units = first ++ u :: rest ∧ programs.length = first.length ∧
      compileAll a.recorded done units r =
        (.error e, ⟨memory, r.calls ++ DeviceCall.compiles first programs ++
          .compile u.kernel.name u.source (.error e) ::
            DeviceCall.releases (done ++ List.zipWith SourceUnit.compiled first programs)⟩)) := by
  induction units generalizing done r with
  | nil => exact .inl ⟨[], r.memory, rfl, by simp [compileAll, DeviceCall.compiles]⟩
  | cons u rest ih =>
    cases h : a.compile u.kernel.name u.source r.memory with
    | mk answer memory =>
      have call := Adapter.recorded_compile h
      cases answer with
      | error e =>
        refine .inr ⟨[], u, rest, [], e, releaseAll a done memory, rfl, rfl, ?_⟩
        simp only [compileAll, call, releaseAll_recorded]
        simp [Recorded.note, DeviceCall.compiles]
      | ok program =>
        have step : compileAll a.recorded done (u :: rest) r =
            compileAll a.recorded (done ++ [u.compiled program]) rest
              (r.note memory (.compile u.kernel.name u.source (.ok program))) := by
          simp only [compileAll, call]
        rcases ih (done ++ [u.compiled program])
          (r.note memory (.compile u.kernel.name u.source (.ok program))) with
          ⟨programs, last, same, all⟩ | ⟨first, v, later, programs, e, last, split, same, failed⟩
        · refine .inl ⟨program :: programs, last, by simp [same], ?_⟩
          rw [step, all]
          simp [Recorded.note, DeviceCall.compiles]
        · refine .inr ⟨u :: first, v, later, program :: programs, e, last, by simp [split],
            by simp [same], ?_⟩
          rw [step, failed]
          simp [Recorded.note, DeviceCall.compiles]

theorem dispatchAll_recorded (a : Adapter σ) (g : Graph) (storage : List DeviceBuffer)
    (compiled : List CompiledKernel) (r : Recorded σ) :
    ∃ answer calls memory,
      dispatchAll a.recorded g storage compiled r = (answer, ⟨memory, r.calls ++ calls⟩) ∧
      Dispatches (compiled.map (launch g storage)) calls answer := by
  induction compiled generalizing r with
  | nil => exact ⟨.ok (), [], r.memory, by simp [dispatchAll], .nil⟩
  | cons c rest ih =>
    simp only [List.map_cons]
    cases planned : launch g storage c with
    | error e => exact ⟨.error e, [], r.memory, by simp [dispatchAll, planned], .unplanned e _⟩
    | ok l =>
      cases h : a.dispatch l r.memory with
      | mk answer memory =>
        have call := Adapter.recorded_dispatch h
        cases answer with
        | error e =>
          refine ⟨.error e, [.dispatch l (.error e)], memory, ?_, .refused l e _⟩
          simp only [dispatchAll, planned, call, Recorded.note]
        | ok _ =>
          obtain ⟨answer, calls, last, all, dispatched⟩ :=
            ih (r.note memory (.dispatch l (.ok ())))
          refine ⟨answer, .dispatch l (.ok ()) :: calls, last, ?_, .next l dispatched⟩
          simp only [dispatchAll, planned, call, all]
          simp [Recorded.note]

end Processor

end PixelPipeline
