import PixelPipeline.Proofs.RoundTrip

/-!
Two host devices that hold the same under different handles. Main statement: the same kernels, launched on both,
are answered alike and leave both with the same contents again.
-/
namespace PixelPipeline

structure Renaming where
  storage : DeviceBuffer → DeviceBuffer
  program : Program → Program

namespace Renaming

def arguments (ρ : Renaming) (bound : List (String × DeviceBuffer)) : List (String × DeviceBuffer) :=
  bound.map fun argument => (argument.1, ρ.storage argument.2)

def launch (ρ : Renaming) (l : Launch) : Launch :=
  { l with program := ρ.program l.program, inputs := ρ.arguments l.inputs, outputs := ρ.arguments l.outputs }

def compiled (ρ : Renaming) (c : CompiledKernel) : CompiledKernel := { c with program := ρ.program c.program }

def call (ρ : Renaming) : DeviceCall → DeviceCall
  | .allocate buffers answer => .allocate buffers (answer.map (·.map ρ.storage))
  | .compile kernel source answer => .compile kernel source (answer.map ρ.program)
  | .release program => .release (ρ.program program)
  | .dispatch l answer => .dispatch (ρ.launch l) answer
  | .upload d data answer => .upload (ρ.storage d) data answer
  | .download d length answer => .download (ρ.storage d) length answer

end Renaming

namespace Processor

variable {σ τ : Type} {ρ : Renaming} {g : Graph} {storage : List DeviceBuffer} {p : Processor σ} {q : Processor τ}

theorem deviceBuffer_rename (f : DeviceBuffer → DeviceBuffer) (id : BufferId) :
    deviceBuffer g (storage.map f) id = (deviceBuffer g storage id).map f := by
  unfold deviceBuffer
  cases g.buffer id with
  | error e => rfl
  | ok b =>
    simp only [bind, Except.bind, List.getElem?_map]
    cases storage[id.index]? <;> rfl

theorem resolveBindings_rename (bindings : List Binding) :
    resolveBindings g (storage.map ρ.storage) bindings = (resolveBindings g storage bindings).map ρ.arguments := by
  induction bindings with
  | nil => rfl
  | cons b rest ih =>
    simp only [resolveBindings, deviceBuffer_rename, ih]
    cases deviceBuffer g storage b.buffer with
    | error e => rfl
    | ok d => cases resolveBindings g storage rest <;> rfl

theorem launch_rename (ρ : Renaming) (g : Graph) (storage : List DeviceBuffer) (c : CompiledKernel) :
    launch g (storage.map ρ.storage) (ρ.compiled c) = (launch g storage c).map ρ.launch := by
  simp only [launch, Renaming.compiled, resolveBindings_rename, bind, Except.bind]
  cases g.kernel c.kernel with
  | error e => rfl
  | ok k =>
    cases resolveBindings g storage c.inputs with
    | error e => rfl
    | ok inputs =>
      cases resolveBindings g storage c.outputs with
      | error e => rfl
      | ok outputs =>
        simp only [Except.map]
        cases resolveParameters k c.parameters <;> rfl

section

variable (graph : q.graph = p.graph) (early : q.stage = .created ↔ p.stage = .created)
  (stored : q.storage = p.storage.map ρ.storage)

include graph early stored

theorem requireStorage_rename (id : BufferId) : q.requireStorage id = (p.requireStorage id).map ρ.storage := by
  unfold requireStorage
  simp only [graph, early, stored, deviceBuffer_rename]
  split <;> rfl

theorem checkBindings_rename (bindings : List Binding) : q.checkBindings bindings = p.checkBindings bindings := by
  induction bindings with
  | nil => rfl
  | cons b rest ih =>
    simp only [checkBindings, requireStorage_rename graph early stored, ih]
    cases p.requireStorage b.buffer <;> rfl

theorem prepareAll_rename (entries : List (KernelId × Kernel)) : q.prepareAll entries = p.prepareAll entries := by
  induction entries with
  | nil => rfl
  | cons entry rest ih =>
    simp only [prepareAll, prepare, checkBindings_rename graph early stored, graph, ih]

end

end Processor

namespace HostMemory

variable {environment : Environment} {m m' : HostMemory} {call : DeviceCall} {calls : List DeviceCall}

theorem initial_of_answers (answered : (adapter environment).Answers m call m') : m'.initial = m.initial := by
  cases answered with
  | release => rfl
  | allocate h =>
    simp only [adapter, HostMemory.allocate] at h
    split at h <;> cases h <;> rfl
  | compile h =>
    simp only [adapter, HostMemory.compile] at h
    split at h <;> cases h <;> rfl
  | upload h =>
    simp only [adapter, HostMemory.upload] at h
    split at h <;> cases h <;> rfl
  | download h =>
    simp only [adapter, HostMemory.download] at h
    split at h <;> cases h <;> rfl
  | dispatch h =>
    simp only [adapter, HostMemory.dispatch] at h
    split at h
    · cases h
      rfl
    · split at h <;> cases h <;> rfl

theorem compile_refused {kernel source log : String} (logged : m.compileLog kernel source = some log) :
    m.compile kernel source = (.error (.compile kernel log), m.note (.compile kernel source none)) := by
  simp only [HostMemory.compile, logged]

theorem compile_accepted {kernel source : String} (logged : m.compileLog kernel source = none) :
    ∃ program memory, m.compile kernel source = (.ok program, memory) ∧ memory.initial = m.initial := by
  simp only [HostMemory.compile, logged]
  exact ⟨_, _, rfl, rfl⟩

theorem initial_of_serves (served : (adapter environment).Serves m calls m') : m'.initial = m.initial := by
  induction served with
  | nil => rfl
  | cons first _ ih => exact ih.trans (initial_of_answers first)

theorem initial_of_leads {r s : Recorded HostMemory} (leads : r.Leads (adapter environment) s) :
    s.memory.initial = r.memory.initial := by
  obtain ⟨_, -, served⟩ := leads
  exact initial_of_serves served

end HostMemory

/-- Both devices are set up alike, and have the same under corresponding handles. -/
structure Renaming.Mirrors (ρ : Renaming) (storage : List DeviceBuffer) (programs : List Program)
    (m m' : HostMemory) : Prop where
  settings : m'.initial = m.initial
  contents : ∀ d ∈ storage, m'.buffers.get? (ρ.storage d).key = m.buffers.get? d.key
  loaded : ∀ program ∈ programs, m'.programs.get? (ρ.program program).key = m.programs.get? program.key
  distinct : (storage.map ρ.storage).Nodup

namespace Renaming.Mirrors

open HostMemory

variable {ρ : Renaming} {storage : List DeviceBuffer} {programs : List Program} {m m' : HostMemory} {l : Launch}
  {d e : DeviceBuffer} {t t' : SlotTable (Array Single)}

theorem stored (mirrors : ρ.Mirrors storage programs m m') (within : d ∈ storage) :
    m'.stored (ρ.storage d) = m.stored d := by
  simp only [HostMemory.stored, mirrors.contents d within]

theorem transfer (mirrors : ρ.Mirrors storage programs m m') (within : d ∈ storage) (fail : Bool) (text : String)
    (length : Nat) : m'.transfer fail text (ρ.storage d) length = m.transfer fail text d length := by
  simp only [HostMemory.transfer, mirrors.stored within]

theorem fetch (mirrors : ρ.Mirrors storage programs m m') {bound : List (String × DeviceBuffer)}
    (within : ∀ argument ∈ bound, argument.2 ∈ storage) : m'.fetch (ρ.arguments bound) = m.fetch bound := by
  induction bound with
  | nil => rfl
  | cons first rest ih =>
    obtain ⟨here, later⟩ := List.forall_mem_cons.mp within
    have tail : m'.fetch (List.map (fun argument => (argument.1, ρ.storage argument.2)) rest) = m.fetch rest :=
      ih later
    simp only [Renaming.arguments, List.map_cons, HostMemory.fetch, mirrors.stored here, tail]

theorem modify (distinct : (storage.map ρ.storage).Nodup)
    (same : ∀ d ∈ storage, t'.get? (ρ.storage d).key = t.get? d.key) (target : d ∈ storage)
    (change : Array Single → Array Single) : ∀ e ∈ storage,
      (t'.modify (ρ.storage d).key change).get? (ρ.storage e).key = (t.modify d.key change).get? e.key := by
  intro e within
  have renamed : (ρ.storage e).key = (ρ.storage d).key ↔ e.key = d.key := by
    constructor
    · intro equal
      have handles : ρ.storage e = ρ.storage d := congrArg DeviceBuffer.mk equal
      exact congrArg (·.key) (List.inj_on_of_nodup_map distinct within target handles)
    · intro equal
      have handles : e = d := congrArg DeviceBuffer.mk equal
      rw [handles]
  simp only [SlotTable.get?_modify, renamed, same e within, same d target]

theorem store (distinct : (storage.map ρ.storage).Nodup) {results : List (String × Array Single)}
    {outputs : List (String × DeviceBuffer)} (within : ∀ argument ∈ outputs, argument.2 ∈ storage)
    (same : ∀ d ∈ storage, t'.get? (ρ.storage d).key = t.get? d.key) : ∀ d ∈ storage,
      (HostMemory.store results (ρ.arguments outputs) t').get? (ρ.storage d).key =
        (HostMemory.store results outputs t).get? d.key := by
  induction outputs generalizing t t' with
  | nil => exact same
  | cons first rest ih =>
    obtain ⟨here, later⟩ := List.forall_mem_cons.mp within
    exact ih later (modify distinct same here _)

section

variable (mirrors : ρ.Mirrors storage programs m m')

include mirrors

theorem operands (loaded : l.program ∈ programs) (reads : ∀ argument ∈ l.inputs, argument.2 ∈ storage)
    (writes : ∀ argument ∈ l.outputs, argument.2 ∈ storage) : m'.operands (ρ.launch l) = m.operands l := by
  simp only [HostMemory.operands, Renaming.launch, mirrors.loaded _ loaded, mirrors.fetch reads, mirrors.fetch writes]

theorem dispatch (loaded : l.program ∈ programs) (reads : ∀ argument ∈ l.inputs, argument.2 ∈ storage)
    (writes : ∀ argument ∈ l.outputs, argument.2 ∈ storage) :
    (m'.dispatch (ρ.launch l)).1 = (m.dispatch l).1 ∧
      ρ.Mirrors storage programs (m.dispatch l).2 (m'.dispatch (ρ.launch l)).2 := by
  have fails : m'.failDispatch = m.failDispatch :=
    (congrArg HostMemory.failDispatch mirrors.settings :)
  have routines : m'.routines = m.routines :=
    (congrArg HostMemory.routines mirrors.settings :)
  have kernel : (ρ.launch l).kernel = l.kernel := rfl
  simp only [HostMemory.dispatch, operands_note, mirrors.operands loaded reads writes, fails, kernel]
  split
  · exact ⟨rfl, mirrors.settings, mirrors.contents, mirrors.loaded, mirrors.distinct⟩
  · split
    · exact ⟨rfl, mirrors.settings, mirrors.contents, mirrors.loaded, mirrors.distinct⟩
    · rename_i name o _
      have routine : (m'.note (.dispatch (ρ.launch l) false)).routine name =
          (m.note (.dispatch l false)).routine name := by
        simp only [HostMemory.routine, HostMemory.note, routines]
      rw [routine]
      exact ⟨rfl, mirrors.settings, Mirrors.store mirrors.distinct writes mirrors.contents, mirrors.loaded,
        mirrors.distinct⟩

theorem upload (within : d ∈ storage) (data : Array Single) :
    (m'.upload (ρ.storage d) data).1 = (m.upload d data).1 ∧
      ρ.Mirrors storage programs (m.upload d data).2 (m'.upload (ρ.storage d) data).2 := by
  have fails : m'.failUpload = m.failUpload :=
    (congrArg HostMemory.failUpload mirrors.settings :)
  have moved : (m'.note (.upload (ρ.storage d).key data.size)).transfer m'.failUpload "upload failed"
      (ρ.storage d) data.size =
        (m.note (.upload d.key data.size)).transfer m.failUpload "upload failed" d data.size := by
    rw [fails]
    exact mirrors.transfer within _ _ _
  unfold HostMemory.upload
  simp only [HostMemory.note] at moved ⊢
  rw [moved]
  split
  · exact ⟨rfl, mirrors.settings, mirrors.contents, mirrors.loaded, mirrors.distinct⟩
  · exact ⟨rfl, mirrors.settings, modify mirrors.distinct mirrors.contents within _, mirrors.loaded, mirrors.distinct⟩

theorem download (within : d ∈ storage) {n : Nat} (host : Vector Single n) :
    (m'.download (ρ.storage d) host).1 = (m.download d host).1 ∧
      (m'.download (ρ.storage d) host).2.1 = (m.download d host).2.1 ∧
      ρ.Mirrors storage programs (m.download d host).2.2 (m'.download (ρ.storage d) host).2.2 := by
  have fails : m'.failDownload = m.failDownload :=
    (congrArg HostMemory.failDownload mirrors.settings :)
  have moved : (m'.note (.download (ρ.storage d).key n)).transfer m'.failDownload "download failed"
      (ρ.storage d) n = (m.note (.download d.key n)).transfer m.failDownload "download failed" d n := by
    rw [fails]
    exact mirrors.transfer within _ _ _
  unfold HostMemory.download
  simp only [HostMemory.note] at moved ⊢
  rw [moved]
  split <;> exact ⟨rfl, rfl, mirrors.settings, mirrors.contents, mirrors.loaded, mirrors.distinct⟩

end

end Renaming.Mirrors

namespace Processor

open PixelPipeline.HostMemory

variable {environment : Environment} {ρ : Renaming} {g : Graph} {storage : List DeviceBuffer}
  {programs : List Program} {r s : Recorded HostMemory} {l : Launch} {c : CompiledKernel}

theorem arguments_of_launch (planned : launch g storage c = .ok l) :
    (∀ argument ∈ l.inputs, argument.2 ∈ storage) ∧ ∀ argument ∈ l.outputs, argument.2 ∈ storage := by
  obtain ⟨_, -, -, -, reads, writes, -⟩ := launch_eq_ok.mp planned
  refine ⟨fun argument member => ?_, fun argument member => ?_⟩
  · obtain ⟨_, -, -, place⟩ := binding_of_argument reads argument member
    exact List.mem_of_getElem? place
  · obtain ⟨_, -, -, place⟩ := binding_of_argument writes argument member
    exact List.mem_of_getElem? place

theorem dispatchAll_mirrors (environment : Environment) (g : Graph) {compiled : List CompiledKernel}
    (loaded : ∀ c ∈ compiled, c.program ∈ programs) (mirrors : ρ.Mirrors storage programs r.memory s.memory) :
    let first := dispatchAll (HostMemory.adapter environment).recorded g storage compiled r
    let second := dispatchAll (HostMemory.adapter environment).recorded g (storage.map ρ.storage)
      (compiled.map ρ.compiled) s
    second.1 = first.1 ∧ ρ.Mirrors storage programs first.2.memory second.2.memory ∧
      ∃ calls, first.2.calls = r.calls ++ calls ∧ second.2.calls = s.calls ++ calls.map ρ.call := by
  induction compiled generalizing r s with
  | nil => exact ⟨rfl, mirrors, [], by simp [dispatchAll]⟩
  | cons c rest ih =>
    obtain ⟨here, later⟩ := List.forall_mem_cons.mp loaded
    have renamed := launch_rename ρ g storage c
    -- Where no launch can be planned, neither device is called.
    cases planned : launch g storage c with
    | error e =>
      rw [planned] at renamed
      simp only [List.map_cons, dispatchAll, planned, renamed, Except.map]
      exact ⟨trivial, mirrors, [], by simp⟩
    | ok l =>
      obtain ⟨reads, writes⟩ := arguments_of_launch planned
      have program : l.program = c.program := launch_program planned
      obtain ⟨same, next⟩ := mirrors.dispatch (l := l) (program ▸ here) reads writes
      rw [planned] at renamed
      cases one : r.memory.dispatch l with
      | mk answer memory =>
        cases other : s.memory.dispatch (ρ.launch l) with
        | mk answer' memory' =>
          rw [one, other] at same next
          obtain rfl : answer' = answer := same
          have first := Adapter.recorded_dispatch (a := HostMemory.adapter environment) one
          have second := Adapter.recorded_dispatch (a := HostMemory.adapter environment) other
          cases answer' with
          | error e =>
            simp only [List.map_cons, dispatchAll, planned, renamed, Except.map, first, second]
            exact ⟨trivial, next, [.dispatch l (.error e)], rfl, rfl⟩
          | ok _ =>
            simp only [List.map_cons, dispatchAll, planned, renamed, Except.map, first, second]
            obtain ⟨answers, after, calls, added, mirrored⟩ :=
              ih (r := r.note memory (.dispatch l (.ok ()))) (s := s.note memory' (.dispatch (ρ.launch l) (.ok ())))
                later next
            refine ⟨answers, after, .dispatch l (.ok ()) :: calls, ?_, ?_⟩
            · rw [added]
              simp [Recorded.note]
            · rw [mirrored]
              simp [Recorded.note, Renaming.call]

end Processor

end PixelPipeline
