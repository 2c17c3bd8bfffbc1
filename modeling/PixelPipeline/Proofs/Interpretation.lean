import PixelPipeline.Proofs.Hosting

namespace PixelPipeline

open Outcome

/-- Contents by buffer index; a buffer without storage has none. -/
abbrev Store : Type := Nat → Option (Array Single)

namespace Store

def read (s : Store) (bindings : List Binding) : Option (List (String × Array Single)) :=
  bindings.mapM fun b => (s b.buffer.index).map (b.name, ·)

/-- Writes results in binding order, so that of two bindings of one buffer the later stays. -/
def write (results : List (String × Array Single)) (outputs : List Binding) (s : Store) : Store :=
  outputs.foldl (fun s b => Function.update s b.buffer.index
    ((s b.buffer.index).map fun old => (results.lookup b.name).getD old)) s

end Store

/-- One kernel applied to a store, with its parameters as they are valued elsewhere: the integers that it declares,
then the floats. -/
def Kernel.interpret (k : Kernel) (routine : Routine) (values : ParameterSet) (s : Store) : Option Store := do
  let inputs ← s.read k.inputs
  let outputs ← s.read k.outputs
  let declared := k.parameters.entries.filter (·.value.type = .int) ++
    k.parameters.entries.filter (·.value.type = .float)
  let parameters ← declared.mapM fun q => values.find? q.name
  return s.write (routine ⟨inputs, outputs, parameters⟩) k.outputs

def Store.after (routine : String → Routine) (g : Graph) (entries : List (KernelId × Kernel)) (s : Store) :
    Option Store :=
  entries.foldlM (fun s entry => do
    let now ← g.kernels[entry.1.index]?
    entry.2.interpret (routine entry.2.name) now.parameters s) s

namespace HostMemory

def contents (storage : List DeviceBuffer) (t : SlotTable (Array Single)) : Store := fun i =>
  storage[i]?.bind fun d => t.get? d.key

end HostMemory

def Processor.contents (p : Processor (Recorded HostMemory)) : Store :=
  HostMemory.contents p.storage p.memory.memory.buffers

theorem Store.write_untouched {results : List (String × Array Single)} {outputs : List Binding} {i : Nat}
    (unbound : ∀ b ∈ outputs, b.buffer.index ≠ i) (s : Store) : s.write results outputs i = s i := by
  induction outputs generalizing s with
  | nil => rfl
  | cons b rest ih =>
    have other : i ≠ b.buffer.index := (unbound b List.mem_cons_self).symm
    calc (s.write results (b :: rest)) i
        = Function.update s b.buffer.index _ i := ih (fun c member => unbound c (List.mem_cons_of_mem _ member)) _
      _ = s i := Function.update_of_ne other _ _

theorem Store.after_untouched {routine : String → Routine} {g : Graph} {entries : List (KernelId × Kernel)}
    {s s' : Store} {i : Nat} (done : s.after routine g entries = some s')
    (unbound : ∀ entry ∈ entries, ∀ b ∈ entry.2.outputs, b.buffer.index ≠ i) : s' i = s i := by
  induction entries generalizing s with
  | nil =>
    cases done
    rfl
  | cons entry rest ih =>
    simp only [after, List.foldlM_cons, Option.bind_eq_bind, Option.bind_eq_some_iff, Kernel.interpret] at done
    obtain ⟨between, ⟨now, -, inputs, -, outputs, -, parameters, -, made⟩, later⟩ := done
    cases made
    rw [ih later fun other member => unbound other (List.mem_cons_of_mem _ member)]
    exact Store.write_untouched (unbound entry List.mem_cons_self) s

namespace HostMemory

variable {storage : List DeviceBuffer} {t : SlotTable (Array Single)} {m : HostMemory}

/-- The argument stands for the binding, with the storage of its buffer. -/
def Carries (storage : List DeviceBuffer) (b : Binding) (argument : String × DeviceBuffer) : Prop :=
  argument.1 = b.name ∧ storage[b.buffer.index]? = some argument.2

theorem contents_modify (distinct : storage.Nodup) {i : Nat} {d : DeviceBuffer} (known : storage[i]? = some d)
    (change : Array Single → Array Single) : contents storage (t.modify d.key change) =
      Function.update (contents storage t) i ((contents storage t i).map change) := by
  funext j
  by_cases here : j = i
  · subst here
    simp [contents, known, SlotTable.get?_modify]
  · rw [Function.update_of_ne here]
    cases other : storage[j]? with
    | none => simp [contents, other]
    | some d' =>
      -- Buffers under one key would be one entry of the storage, at two places.
      have apart : ¬ d'.key = d.key := by
        intro same
        have equal : d' = d := congrArg DeviceBuffer.mk same
        have inside : j < storage.length := (List.getElem?_eq_some_iff.mp other).1
        exact here ((List.getElem?_inj inside distinct).mp (by rw [other, known, equal]))
      simp [contents, other, SlotTable.get?_modify, apart]

theorem contents_store (distinct : storage.Nodup) {results : List (String × Array Single)}
    {bindings : List Binding} {arguments : List (String × DeviceBuffer)}
    (carried : List.Forall₂ (Carries storage) bindings arguments) :
    contents storage (store results arguments t) = (contents storage t).write results bindings := by
  induction carried generalizing t with
  | nil => rfl
  | @cons b argument _ _ first _ ih =>
    obtain ⟨name, known⟩ := first
    have one := contents_modify (t := t) distinct known fun old => (results.lookup argument.1).getD old
    rw [name] at one
    calc contents storage (store results (argument :: _) t)
        = (contents storage (t.modify argument.2.key _)).write results _ := ih
      _ = (contents storage t).write results (b :: _) := by rw [name, one]; rfl

theorem read_contents {bindings : List Binding} {arguments : List (String × DeviceBuffer)}
    {values : List (String × Array Single)} (carried : List.Forall₂ (Carries storage) bindings arguments)
    (fetched : m.fetch arguments = .ok values) : (contents storage m.buffers).read bindings = some values := by
  induction carried generalizing values with
  | nil =>
    cases fetched
    rfl
  | @cons b argument _ _ first _ ih =>
    obtain ⟨name, known⟩ := first
    simp only [fetch, bind_eq_ok] at fetched
    obtain ⟨data, held, rest, others, made⟩ := fetched
    cases made
    have found : contents storage m.buffers b.buffer.index = some data := by
      simp only [contents, known, Option.bind_some]
      unfold stored at held
      split at held
      · cases held
        assumption
      · cases held
    have later := ih others
    simp only [Store.read] at later
    simp [Store.read, List.mapM_cons, found, later, name]

theorem Effect.of_dispatch {buffers : SlotTable (Array Single)} {programs : SlotTable String} {l : Launch}
    {name : String} (effect : m.Effect (.dispatch l (.ok ())) buffers programs)
    (loaded : m.programs.get? l.program.key = some name) :
    programs = m.programs ∧ ∃ inputs outputs, m.fetch l.inputs = .ok inputs ∧ m.fetch l.outputs = .ok outputs ∧
      buffers = store (m.routine name ⟨inputs, outputs, l.parameters⟩) l.outputs m.buffers := by
  cases effect with
  | quiet same => cases same
  | dispatched known =>
    simp only [operands, loaded, bind_eq_ok] at known
    obtain ⟨inputs, reads, outputs, writes, made⟩ := known
    cases made
    exact ⟨rfl, inputs, outputs, reads, writes, rfl⟩

end HostMemory

namespace Processor

open HostMemory DeviceCall Event

variable {environment : Environment} {g : Graph} {storage : List DeviceBuffer}

theorem carries_of_resolveBindings {bindings : List Binding} {arguments : List (String × DeviceBuffer)}
    (resolved : resolveBindings g storage bindings = .ok arguments) :
    List.Forall₂ (Carries storage) bindings arguments := by
  refine (resolveBindings_eq_ok.mp resolved).imp fun b argument found => ?_
  exact ⟨found.1, found.2.2⟩

theorem values_of_resolveParameters {k : Kernel} {declared values : List Parameter}
    (resolved : resolveParameters k (declared.map (·.name)) = .ok values) :
    declared.mapM (fun q => k.parameters.find? q.name) = some values := by
  rw [resolveParameters_eq_mapM, List.mapM_map, mapM_eq_ok] at resolved
  induction resolved with
  | nil => rfl
  | cons first _ ih => simp [List.mapM_cons, Kernel.valueOf_eq_ok.mp first, ih]

theorem interpret_of_dispatch {entry : KernelId × Kernel} {program : Program} {l : Launch} {m m' : HostMemory}
    (distinct : storage.Nodup) (planned : launch g storage (compiledEntry entry program) = .ok l)
    (effect : m.Effect (.dispatch l (.ok ())) m'.buffers m'.programs)
    (loaded : m.programs.get? program.key = some entry.2.name) :
    m'.programs = m.programs ∧ ∃ now, g.kernels[entry.1.index]? = some now ∧
      entry.2.interpret (m.routine entry.2.name) now.parameters (HostMemory.contents storage m.buffers) =
        some (HostMemory.contents storage m'.buffers) := by
  obtain ⟨now, held, -, rfl, reads, writes, valued⟩ := launch_compiledEntry planned
  obtain ⟨same, taken, given, first, second, stored⟩ := effect.of_dispatch loaded
  refine ⟨same, now, held, ?_⟩
  have written := carries_of_resolveBindings writes
  have values := values_of_resolveParameters valued
  rw [ParameterSet.signatureOrder] at values
  simp only [Kernel.interpret, read_contents (carries_of_resolveBindings reads) first,
    read_contents written second, values, stored, contents_store distinct written]
  rfl

theorem after_of_dispatches {entries : List (KernelId × Kernel)} {programs : List Program}
    {calls : List DeviceCall} {m m' : HostMemory} (distinct : storage.Nodup)
    (dispatched : Dispatches ((List.zipWith compiledEntry entries programs).map (launch g storage)) calls (.ok ()))
    (served : (HostMemory.adapter environment).Serves m calls m')
    (loaded : List.Forall₂ (fun entry program => m.programs.get? program.key = some entry.2.name) entries programs) :
    Store.after m.routine g entries (HostMemory.contents storage m.buffers) =
      some (HostMemory.contents storage m'.buffers) := by
  induction entries generalizing m calls programs with
  | nil =>
    cases dispatched
    obtain rfl := Adapter.Serves.nil_iff.mp served
    rfl
  | cons entry rest ih =>
    cases loaded with
    | @cons _ program _ others first later =>
      simp only [List.zipWith_cons_cons, List.map_cons] at dispatched
      generalize planned : launch g storage (compiledEntry entry program) = plan at dispatched
      cases dispatched with
      | next l onward =>
        obtain ⟨between, answered, served⟩ := Adapter.Serves.cons_iff.mp served
        obtain ⟨effect, routines⟩ := effect_of_answers answered
        obtain ⟨same, now, held, applied⟩ := interpret_of_dispatch distinct planned effect first
        have routine : between.routine = m.routine := by
          funext name
          simp only [HostMemory.routine, routines]
        -- A launch changes no program, so the others are served from the tables that it leaves.
        have step := ih onward served (by rwa [same])
        rw [routine] at step
        simp only [Store.after, List.foldlM_cons, held, applied, Option.bind_eq_bind, Option.bind_some]
        exact step

theorem Assembled.entries {p : Processor (Recorded HostMemory)} {units : List SourceUnit}
    {programs : List Program} (related : Kernel → Program → Prop) (assembled : p.Assembled units)
    (each : List.Forall₂ (fun u program => related u.kernel program) units programs) :
    List.Forall₂ (fun entry program => related entry.2 program) p.graph.kernelEntries programs := by
  unfold Assembled at assembled
  generalize p.graph.kernelEntries = entries at assembled ⊢
  induction assembled generalizing programs with
  | nil =>
    cases each
    exact .nil
  | cons made _ ih =>
    cases each with
    | cons first rest => exact .cons (made.2.1 ▸ first) (ih rest)

/-- A run that succeeds applies the kernels of the last build one after another to the contents of the buffers,
and changes nothing else but the stage. -/
theorem run_interprets_last_build (environment : Environment) (settings : HostMemory) (owner : Owner)
    (acts : List Action) :
    let p := (watched (HostMemory.adapter environment) settings.initial owner).play acts
    let events := (watched (HostMemory.adapter environment) settings.initial owner).history acts
    let e := p.event .run
    p.memory.memory.InRange → e.answer = .ok () →
      ∃ build, latest built events = some build ∧
        Store.after settings.routine p.graph build.before.graph.kernelEntries p.contents = some e.after.contents ∧
        (∀ i, (∀ k ∈ build.before.graph.kernels, ∀ b ∈ k.outputs, b.buffer.index ≠ i) →
          e.after.contents i = p.contents i) ∧
        e.after = { p with memory := e.after.memory, stage := .ready } := by
  intro p events e room done
  have recorded : p.adapter = (HostMemory.adapter environment).recorded :=
    play_adapter (p := watched (HostMemory.adapter environment) settings.initial owner) rfl acts
  have hosted : Hosted settings events p := hosted_history environment settings owner acts room
  have step : p.Step .run e.answer e.after := run_step recorded
  have leads : p.memory.Leads (HostMemory.adapter environment) e.after.memory := run_leads recorded
  rw [done] at step
  generalize e.after = after at step leads ⊢
  cases step with
  | edited only => cases only
  | @ran calls memory late dispatched =>
    obtain ⟨build, units, programs, made, loaded⟩ := hosted.loaded late
    have served : (HostMemory.adapter environment).Serves p.memory.memory calls memory := leads.serves rfl
    rw [made.compiled, made.assembled.compiled] at dispatched
    have named := made.assembled.entries
      (fun k program => p.memory.memory.programs.get? program.key = some k.name) loaded
    have applied := after_of_dispatches hosted.distinct dispatched served named
    have routine : p.memory.memory.routine = settings.routine := by
      funext name
      simp only [HostMemory.routine, hosted.routines]
    rw [routine] at applied
    refine ⟨build, made.last, applied, fun i unbound => ?_, rfl⟩
    refine Store.after_untouched applied fun entry member => unbound entry.2 ?_
    rw [← kernelEntries_kernels]
    exact List.mem_map_of_mem member

def HostMemory.doubling : HostMemory where
  routines :=
    [("k", .ofAssignments [⟨"B", .add (.mul (.input "A") (.float "x")) (.int "n")⟩]),
      ("l", .ofAssignments [⟨"Y", .add (.input "X") (.input "X")⟩])]

def doubles : List Action :=
  [.setDimensions 1 1, .createBuffer "a" 1, .createBuffer "b" 1, .createKernel "k", .createKernel "l",
    .editKernel ⟨⟨0⟩, 0⟩ (.bindInput "A" ⟨⟨0⟩, 0⟩), .editKernel ⟨⟨0⟩, 0⟩ (.bindOutput "B" ⟨⟨0⟩, 1⟩),
    .editKernel ⟨⟨0⟩, 1⟩ (.bindInput "X" ⟨⟨0⟩, 1⟩), .editKernel ⟨⟨0⟩, 1⟩ (.bindOutput "Y" ⟨⟨0⟩, 1⟩),
    .editKernel ⟨⟨0⟩, 0⟩ (.setParameter ⟨"x", .float (Single.ofInt 2)⟩),
    .editKernel ⟨⟨0⟩, 0⟩ (.setParameter ⟨"n", .int 1⟩),
    .editKernel ⟨⟨0⟩, 0⟩ (.setSource "__kernel"), .editKernel ⟨⟨0⟩, 1⟩ (.setSource "__kernel"),
    .editBuffer ⟨⟨0⟩, 0⟩ (.setData #[Single.ofInt 3]), .allocate, .build, .upload ⟨⟨0⟩, 0⟩,
    .editKernel ⟨⟨0⟩, 0⟩ (.setParameter ⟨"n", .int 4⟩)]

theorem run_interprets_last_build_doubling :
    let p := (watched (HostMemory.adapter .openCL) HostMemory.doubling.initial ⟨0⟩).play doubles
    let events := (watched (HostMemory.adapter .openCL) HostMemory.doubling.initial ⟨0⟩).history doubles
    let e := p.event .run
    p.memory.memory.InRange ∧ e.answer = .ok () ∧ e.after.contents 1 = some #[Single.ofInt 20] ∧
      ∃ build, latest built events = some build ∧
        Store.after HostMemory.doubling.routine p.graph build.before.graph.kernelEntries p.contents =
          some e.after.contents := by
  have room : ((watched (HostMemory.adapter .openCL) HostMemory.doubling.initial ⟨0⟩).play
      doubles).memory.memory.InRange := by decide +kernel
  have done : (((watched (HostMemory.adapter .openCL) HostMemory.doubling.initial ⟨0⟩).play doubles).event
      .run).answer = .ok () := by decide +kernel
  obtain ⟨build, last, applied, -⟩ :=
    run_interprets_last_build .openCL HostMemory.doubling ⟨0⟩ doubles room done
  exact ⟨room, done, by decide +kernel, build, last, applied⟩

end Processor

end PixelPipeline
