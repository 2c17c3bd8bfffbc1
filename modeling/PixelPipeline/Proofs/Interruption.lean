import PixelPipeline.Proofs.Availability
import PixelPipeline.Proofs.Replacement

namespace PixelPipeline

open Outcome Event

variable {σ : Type}

/-- An allocation that succeeds with fewer handles than there are buffers. -/
def Event.short : Event σ → Bool
  | ⟨p, .allocate, .ok _, p'⟩ => p'.storage.length < p.graph.registry.buffers.length
  | _ => false

/-- Why a kernel that was compiled as `k` and has become `now` cannot be launched. -/
inductive Kernel.Misses (p : Processor σ) (k now : Kernel) : Error → Prop
  | storage {b : Binding} {c : Buffer} (bound : b ∈ k.inputs ++ k.outputs) (held : p.graph.buffer b.buffer = .ok c)
      (late : p.storage.length ≤ b.buffer.index) : k.Misses p now (.misuse (.noStorage c.name))
  | parameter {q : Parameter} (declared : q ∈ k.parameters.entries)
      (absent : now.parameters.find? q.name = none) : k.Misses p now (.notFound .parameter q.name)

theorem Dispatches.of_error {planned : List (Except Error Launch)} {calls : List DeviceCall} {fault : Error}
    (dispatched : Dispatches planned calls (.error fault)) : ∃ (done : List Launch) (rest : List (Except Error Launch)),
      (∃ l, planned = done.map .ok ++ .ok l :: rest ∧
        calls = done.map (.dispatch · (.ok ())) ++ [.dispatch l (.error fault)]) ∨
      planned = done.map .ok ++ .error fault :: rest ∧ calls = done.map (.dispatch · (.ok ())) := by
  generalize failed : (.error fault : Except Error Unit) = answer at dispatched
  induction dispatched with
  | nil => cases failed
  | unplanned e rest =>
    cases failed
    exact ⟨[], rest, .inr ⟨rfl, rfl⟩⟩
  | refused l e rest =>
    cases failed
    exact ⟨[], rest, .inl ⟨l, rfl, rfl⟩⟩
  | next l _ ih =>
    obtain ⟨done, rest, ⟨m, split, all⟩ | ⟨split, all⟩⟩ := ih failed
    · exact ⟨l :: done, rest, .inl ⟨m, by rw [split]; rfl, by rw [all]; rfl⟩⟩
    · exact ⟨l :: done, rest, .inr ⟨by rw [split]; rfl, by rw [all]; rfl⟩⟩

namespace Processor

structure Remains (events : List (Event (Recorded σ))) (build : Event (Recorded σ)) (p : Processor (Recorded σ)) :
    Prop where
  ready : ∀ k ∈ build.before.graph.kernels, k.Ready build.before
  owner : p.graph.owner = build.before.graph.owner
  held : ∀ id, build.before.graph.registry.contains id → p.graph.registry.contains id
  kernels : ∀ (i : Nat) k, build.before.graph.kernels[i]? = some k → ∃ now, p.graph.kernels[i]? = some now ∧
    ((∀ e ∈ sinceBuild events, e.replaces i = false) → k.Grows now)
  storage : (∀ e ∈ sinceBuild events, e.short = false) → ∀ id, build.before.graph.registry.contains id →
    id.index < build.before.storage.length → id.index < p.storage.length

section

variable {events : List (Event (Recorded σ))} {p p' : Processor (Recorded σ)} {act : Action}
  {answer : Except Error Unit} {build : Event (Recorded σ)} {units : List SourceUnit} {programs : List Program}

theorem Step.of_built (step : p.Step act answer p')
    (builds : (⟨p, act, answer, p'⟩ : Event (Recorded σ)).built = true) :
    (∀ k ∈ p.graph.kernels, k.Ready p) ∧ p'.graph = p.graph ∧ p'.storage = p.storage := by
  cases step with
  | built programs memory late ready each => exact ⟨(exists_prepareAll late).mp ⟨_, ready⟩, rfl, rfl⟩
  | edited only => cases (Idle.of_onGraph only).built.symm.trans builds
  | refused fault reaches => cases (Idle.of_error reaches).built.symm.trans builds
  | allocated | unallocated | unbuilt | ran | halted | uploaded | downloaded => cases builds

theorem Step.keeps_stored (step : p.Step act answer p') (late : p'.stage ≠ .created)
    (full : (⟨p, act, answer, p'⟩ : Event (Recorded σ)).short = false) {index : Nat}
    (known : index < p.graph.registry.buffers.length) (early : index < p.storage.length) :
    index < p'.storage.length := by
  by_cases here : act = .allocate
  · subst here
    cases step with
    | edited only => cases only
    | refused fault reaches => exact absurd rfl reaches
    | allocated storage memory =>
      have enough : ¬ storage.length < p.graph.registry.buffers.length := by simpa [Event.short] using full
      show index < storage.length
      omega
    | unallocated => exact absurd rfl late
  · rw [(step.of_other here).1]
    exact early

theorem Remains.of_build (step : p.Step act answer p')
    (builds : (⟨p, act, answer, p'⟩ : Event (Recorded σ)).built = true) :
    Remains (events ++ [⟨p, act, answer, p'⟩]) ⟨p, act, answer, p'⟩ p' := by
  obtain ⟨ready, graph, storage⟩ := step.of_built builds
  exact {
    ready
    owner := congrArg Graph.owner graph
    held := fun id known => graph ▸ known
    kernels := fun i k known => ⟨k, graph ▸ known, fun _ => .of_same rfl rfl⟩
    storage := fun _ id _ early => storage ▸ early }

theorem Remains.step (remains : Remains events build p) (step : p.Step act answer p')
    (quiet : (⟨p, act, answer, p'⟩ : Event (Recorded σ)).built = false) (late : p'.stage ≠ .created) :
    Remains (events ++ [⟨p, act, answer, p'⟩]) build p' where
  ready := remains.ready
  owner := step.graph_grows.1.trans remains.owner
  held id known := step.keeps_held (remains.held id known)
  kernels i k known := by
    obtain ⟨middle, held, early⟩ := remains.kernels i k known
    obtain ⟨now, found, last⟩ := step.kernel held
    refine ⟨now, found, fun unreplaced => ?_⟩
    rw [sinceBuild_keep events quiet, List.forall_mem_append, List.forall_mem_singleton] at unreplaced
    exact (early unreplaced.1).trans (last unreplaced.2)
  storage full id known early := by
    rw [sinceBuild_keep events quiet, List.forall_mem_append, List.forall_mem_singleton] at full
    have place := (Registry.contains_iff.mp (remains.held id known)).2
    exact step.keeps_stored late full.2 place (remains.storage full.1 id known early)

theorem remains_history (a : Adapter σ) (memory : σ) (owner : Owner) (acts : List Action) :
    let p := (watched a memory owner).play acts
    let events := (watched a memory owner).history acts
    p.stage = .built ∨ p.stage = .ready → ∀ build, latest built events = some build → Remains events build p := by
  refine history_induction (a := a) (fun _ => True) (motive := fun events p => p.stage = .built ∨ p.stage = .ready →
    ∀ build, latest built events = some build → Remains events build p) ?_ ?_ acts fun _ _ => trivial
  · intro late
    simp [watched, create] at late
  · intro events p act answer p' _ earlier step late build last
    rw [latest_concat] at last
    split at last
    · rename_i builds
      cases last
      exact .of_build step builds
    · rename_i quiet
      have started : p'.stage ≠ .created := by rcases late with h | h <;> simp [h]
      rcases step.builds late with ⟨units, programs, -, made⟩ | ⟨before, -⟩
      · have last := (made []).last
        rw [latest_concat, if_neg quiet] at last
        cases last
      · exact (earlier before build last).step step (Bool.eq_false_iff.mpr quiet) started

theorem BuiltFrom.entry_at (made : BuiltFrom events build units programs p) {i : Nat} {c : CompiledKernel}
    (found : p.compiled[i]? = some c) : ∃ k program, build.before.graph.kernels[i]? = some k ∧
      c = compiledEntry (⟨build.before.graph.owner, i⟩, k) program := by
  rw [made.compiled, made.assembled.compiled, List.getElem?_zipWith_eq_some] at found
  obtain ⟨entry, program, listed, -, rfl⟩ := found
  rw [Graph.kernelEntries, List.getElem?_mapIdx, Option.map_eq_some_iff] at listed
  obtain ⟨k, known, rfl⟩ := listed
  exact ⟨k, program, known, rfl⟩

theorem resolveBindings_eq_error {g : Graph} {storage : List DeviceBuffer} {bindings : List Binding} {fault : Error}
    (known : ∀ b ∈ bindings, g.registry.contains b.buffer)
    (failed : resolveBindings g storage bindings = .error fault) :
    ∃ b ∈ bindings, ∃ c, g.buffer b.buffer = .ok c ∧ storage.length ≤ b.buffer.index ∧
      fault = .misuse (.noStorage c.name) := by
  rw [resolveBindings_eq_mapM, mapM_eq_error] at failed
  obtain ⟨before, b, after, rfl, -, failed⟩ := failed
  have bound : b ∈ before ++ b :: after := List.mem_append_right _ List.mem_cons_self
  rw [map_eq_error, deviceBuffer_eq_error] at failed
  rcases failed with ⟨absent, -⟩ | found
  · exact absurd (known b bound) absent
  · exact ⟨b, bound, found⟩

theorem resolveParameters_eq_error {k : Kernel} {names : List String} {fault : Error}
    (failed : resolveParameters k names = .error fault) :
    ∃ name ∈ names, k.parameters.find? name = none ∧ fault = .notFound .parameter name := by
  rw [resolveParameters_eq_mapM, mapM_eq_error] at failed
  obtain ⟨before, name, after, rfl, -, failed⟩ := failed
  refine ⟨name, List.mem_append_right _ List.mem_cons_self, ?_⟩
  unfold Kernel.valueOf at failed
  split at failed
  · cases failed
  · cases failed
    exact ⟨‹_›, rfl⟩

variable {i : Nat} {k now : Kernel} {program : Program} {fault : Error}

theorem Remains.misses (remains : Remains events build p) (known : build.before.graph.kernels[i]? = some k)
    (held : p.graph.kernels[i]? = some now)
    (failed : launch p.graph p.storage (compiledEntry (⟨build.before.graph.owner, i⟩, k) program) = .error fault) :
    k.Misses p now fault := by
  have ready := remains.ready k (List.mem_of_getElem? known)
  have bound (b : Binding) (member : b ∈ k.inputs ++ k.outputs) : p.graph.registry.contains b.buffer :=
    remains.held _ (ready.bindings b member).1
  have found : p.graph.kernel ⟨build.before.graph.owner, i⟩ = .ok now :=
    Graph.kernel_eq_ok.mpr ⟨remains.owner.symm, held⟩
  simp only [launch, compiledEntry, found, bind_eq_error, Except.ok.injEq, exists_eq_left', reduceCtorEq,
    false_or] at failed
  rcases failed with reads | ⟨_, -, writes | ⟨_, -, values | ⟨_, -, impossible⟩⟩⟩
  · obtain ⟨b, member, c, buffer, late, rfl⟩ :=
      resolveBindings_eq_error (fun b member => bound b (List.mem_append_left _ member)) reads
    exact .storage (List.mem_append_left _ member) buffer late
  · obtain ⟨b, member, c, buffer, late, rfl⟩ :=
      resolveBindings_eq_error (fun b member => bound b (List.mem_append_right _ member)) writes
    exact .storage (List.mem_append_right _ member) buffer late
  · obtain ⟨_, listed, absent, rfl⟩ := resolveParameters_eq_error values
    obtain ⟨q, member, rfl⟩ := List.mem_map.mp listed
    exact .parameter (ParameterSet.mem_signatureOrder member) absent
  · cases impossible

theorem not_misses_of_launch {owner : Owner} {l : Launch} (held : p.graph.kernels[i]? = some now)
    (planned : launch p.graph p.storage (compiledEntry (⟨owner, i⟩, k) program) = .ok l) : ¬ k.Misses p now fault := by
  obtain ⟨now', found, -, -, reads, writes, values⟩ := launch_compiledEntry planned
  obtain rfl : now' = now := Option.some.inj (found.symm.trans held)
  rw [resolveBindings_eq_mapM] at reads writes
  rw [resolveParameters_eq_mapM] at values
  have stored : ∀ b ∈ k.inputs ++ k.outputs, b.buffer.index < p.storage.length := by
    have each : ∀ b ∈ k.inputs ++ k.outputs, ∃ argument,
        (deviceBuffer p.graph p.storage b.buffer).map (b.name, ·) = .ok argument :=
      List.forall_mem_append.mpr ⟨exists_mapM_eq_ok.mp ⟨_, reads⟩, exists_mapM_eq_ok.mp ⟨_, writes⟩⟩
    intro b member
    obtain ⟨argument, made⟩ := each b member
    obtain ⟨d, resolved, -⟩ := map_eq_ok.mp made
    exact (List.getElem?_eq_some_iff.mp (deviceBuffer_eq_ok.mp resolved).2).1
  intro misses
  cases misses with
  | storage bound buffer late => exact absurd (stored _ bound) (Nat.not_lt.mpr late)
  | parameter declared absent =>
    have listed := k.parameters.signatureOrder_perm.mem_iff.mpr declared
    obtain ⟨q, given⟩ := exists_mapM_eq_ok.mp ⟨_, values⟩ _ (List.mem_map_of_mem listed)
    rw [Kernel.valueOf_eq_ok, absent] at given
    cases given

theorem Remains.cause (remains : Remains events build p) (known : build.before.graph.kernels[i]? = some k)
    (held : p.graph.kernels[i]? = some now) (misses : k.Misses p now fault) :
    (∃ name, fault = .notFound .parameter name ∧ ∃ e ∈ sinceBuild events, e.replaces i = true) ∨
      ∃ name, fault = .misuse (.noStorage name) ∧ ∃ e ∈ sinceBuild events, e.short = true := by
  cases misses with
  | @parameter q declared absent =>
    refine .inl ⟨q.name, rfl, ?_⟩
    by_contra none
    have unreplaced : ∀ e ∈ sinceBuild events, e.replaces i = false := fun e member =>
      Bool.eq_false_iff.mpr fun replaced => none ⟨e, member, replaced⟩
    obtain ⟨now', found, grown⟩ := remains.kernels i k known
    obtain rfl : now' = now := Option.some.inj (found.symm.trans held)
    have given : (k.parameters.find? q.name).isSome := by
      simpa [ParameterSet.find?] using ⟨q, declared, rfl⟩
    obtain ⟨r, first⟩ := Option.isSome_iff_exists.mp given
    obtain ⟨_, current, -⟩ := (grown unreplaced).parameters q.name r first
    rw [absent] at current
    cases current
  | @storage b c bound buffer late =>
    refine .inr ⟨c.name, rfl, ?_⟩
    by_contra none
    have full : ∀ e ∈ sinceBuild events, e.short = false := fun e member =>
      Bool.eq_false_iff.mpr fun short => none ⟨e, member, short⟩
    obtain ⟨contained, early⟩ := (remains.ready k (List.mem_of_getElem? known)).bindings b bound
    exact absurd (remains.storage full _ contained early) (Nat.not_lt.mpr late)

end

section

variable {p : Processor σ} {c : CompiledKernel} {rest : List CompiledKernel} {fault : Error}

theorem run_of_unplanned (late : p.stage = .built ∨ p.stage = .ready) (compiled : p.compiled = c :: rest)
    (failed : launch p.graph p.storage c = .error fault) : p.run = (.error fault, p) := by
  obtain ⟨adapter, memory, g, stage, storage, _⟩ := p
  cases compiled
  have started : ¬ (stage = .created ∨ stage = .allocated) := by
    rcases late with h | h <;> simp_all
  have failed : launch g storage c = .error fault := failed
  simp only [run, Bool.or_eq_true, decide_eq_true_eq, started, ↓reduceIte, dispatchAll, failed]

end

theorem run_early {p : Processor σ} (early : ¬ (p.stage = .built ∨ p.stage = .ready)) :
    p.run = (.error (.misuse .runBeforeBuild), p) := by
  have stage : p.stage = .created ∨ p.stage = .allocated := by
    cases h : p.stage <;> simp_all
  simp [run, stage]

theorem run_fails {a : Adapter σ} {p : Processor (Recorded σ)} {fault : Error} (recorded : p.adapter = a.recorded)
    (late : p.stage = .built ∨ p.stage = .ready) (failed : (p.event .run).answer = .error fault) :
    ∃ (done : List Launch) (rest : List (Except Error Launch)),
      (∃ l, (p.event .run).calls = done.map (.dispatch · (.ok ())) ++ [.dispatch l (.error fault)]) ∨
      (p.event .run).calls = done.map (.dispatch · (.ok ())) ∧
        p.compiled.map (launch p.graph p.storage) = done.map .ok ++ .error fault :: rest ∧
          (done = [] → (p.event .run).after = p) := by
  have failed : p.run.1 = .error fault := failed
  rcases run_late recorded late with ⟨_, _, -, done⟩ | ⟨e, calls, memory, dispatched, halted⟩
  · rw [done] at failed
    cases failed
  · rw [halted] at failed
    cases failed
    have made : (p.event .run).calls = calls := Event.calls_eq (congrArg (·.2.calls) halted)
    rw [made]
    obtain ⟨done, rest, ⟨l, -, all⟩ | ⟨split, all⟩⟩ := dispatched.of_error
    · exact ⟨done, rest, .inl ⟨l, all⟩⟩
    · refine ⟨done, rest, .inr ⟨all, split, fun none => ?_⟩⟩
      rw [none, List.map_nil, List.nil_append, List.map_eq_cons_iff] at split
      obtain ⟨c, others, compiled, unplanned, -⟩ := split
      exact congrArg (·.2) (run_of_unplanned late compiled unplanned)

/-- A run comes to a kernel that cannot be launched, the first such. -/
structure StopsAt (events : List (Event (Recorded σ))) (build : Event (Recorded σ)) (p : Processor (Recorded σ))
    (i : Nat) (fault : Error) : Prop where
  misses : ∃ k now, build.before.graph.kernels[i]? = some k ∧ p.graph.kernels[i]? = some now ∧ k.Misses p now fault
  earlier : ∀ j < i, ∀ k now, build.before.graph.kernels[j]? = some k → p.graph.kernels[j]? = some now →
    ∀ other, ¬ k.Misses p now other
  cause : (∃ name, fault = .notFound .parameter name ∧ ∃ e ∈ sinceBuild events, e.replaces i = true) ∨
    ∃ name, fault = .misuse (.noStorage name) ∧ ∃ e ∈ sinceBuild events, e.short = true

theorem Remains.stopsAt {events : List (Event (Recorded σ))} {p : Processor (Recorded σ)}
    {build : Event (Recorded σ)} {units : List SourceUnit} {programs : List Program} {done : List Launch}
    {rest : List (Except Error Launch)} {fault : Error} (remains : Remains events build p)
    (made : BuiltFrom events build units programs p)
    (split : p.compiled.map (launch p.graph p.storage) = done.map .ok ++ .error fault :: rest) :
    StopsAt events build p done.length fault := by
  have planned {j : Nat} {outcome : Except Error Launch}
      (here : (done.map .ok ++ .error fault :: rest)[j]? = some outcome) : ∃ k now program,
      build.before.graph.kernels[j]? = some k ∧ p.graph.kernels[j]? = some now ∧
        launch p.graph p.storage (compiledEntry (⟨build.before.graph.owner, j⟩, k) program) = outcome := by
    rw [← split, List.getElem?_map, Option.map_eq_some_iff] at here
    obtain ⟨c, found, launched⟩ := here
    obtain ⟨k, program, known, rfl⟩ := made.entry_at found
    obtain ⟨now, held, -⟩ := remains.kernels j k known
    exact ⟨k, now, program, known, held, launched⟩
  have last : (done.map .ok ++ .error fault :: rest)[done.length]? = some (.error fault) := by
    simp
  obtain ⟨k, now, program, known, held, failed⟩ := planned last
  have misses := remains.misses known held failed
  refine ⟨⟨k, now, known, held, misses⟩, fun j before k now known held other => ?_,
    remains.cause known held misses⟩
  have early : (done.map .ok ++ .error fault :: rest)[j]? = some (.ok done[j]) := by
    rw [List.getElem?_append_left (by simpa using before), List.getElem?_map, List.getElem?_eq_getElem before]
    rfl
  obtain ⟨k', now', program, known', held', launched⟩ := planned early
  obtain rfl : k' = k := Option.some.inj (known'.symm.trans known)
  exact not_misses_of_launch held launched

/-- A run that fails comes too early, or is refused by the device, or stops at a kernel that it cannot launch. In all
cases it has dispatched the kernels before. If since the last build no kernel but the first was replaced and every
allocation answered a handle for each buffer, then a run fails on its own only before it has changed anything. -/
theorem run_interrupted (a : Adapter σ) (memory : σ) (owner : Owner) (acts : List Action) :
    let p := (watched a memory owner).play acts
    let events := (watched a memory owner).history acts
    let e := p.event .run
    ∀ fault, e.answer = .error fault →
      ((fault = .misuse .runBeforeBuild ∧ e.calls = [] ∧ e.after = p) ∨
        ∃ build, latest built events = some build ∧ ∃ done : List Launch,
          (∃ l, e.calls = done.map (.dispatch · (.ok ())) ++ [.dispatch l (.error fault)]) ∨
          (e.calls = done.map (.dispatch · (.ok ())) ∧ StopsAt events build p done.length fault ∧
            (done = [] → e.after = p))) ∧
      ((∀ x ∈ sinceBuild events, x.short = false ∧ ∀ i, x.replaces i = true → i = 0) →
        (∀ l, .dispatch l (.error fault) ∉ e.calls) → e.calls = [] ∧ e.after = p) := by
  intro p events e fault failed
  have recorded : p.adapter = a.recorded := play_adapter (p := watched a memory owner) rfl acts
  by_cases late : p.stage = .built ∨ p.stage = .ready
  · obtain ⟨build, units, programs, made⟩ := builtFrom_history a memory owner acts late
    have remains : Remains events build p := remains_history a memory owner acts late build made.last
    obtain ⟨done, rest, ⟨l, calls⟩ | ⟨calls, split, unchanged⟩⟩ := run_fails recorded late failed
    · refine ⟨.inr ⟨build, made.last, done, .inl ⟨l, calls⟩⟩, fun _ own => absurd ?_ (own l)⟩
      rw [calls]
      exact List.mem_append_right _ (List.mem_singleton.mpr rfl)
    · have stops := remains.stopsAt made split
      refine ⟨.inr ⟨build, made.last, done, .inr ⟨calls, stops, unchanged⟩⟩, fun kept _ => ?_⟩
      -- Whatever the kernel lacks was lost in an event since the build, which leaves the first kernel only.
      have first : done.length = 0 := by
        rcases stops.cause with ⟨_, -, x, member, replaced⟩ | ⟨_, -, x, member, short⟩
        · exact (kept x member).2 _ replaced
        · cases (kept x member).1.symm.trans short
      have none : done = [] := List.length_eq_zero_iff.mp first
      exact ⟨by rw [calls, none]; rfl, unchanged none⟩
  · have early : p.run = (.error (.misuse .runBeforeBuild), p) := run_early late
    have same : e.after = p := congrArg (·.2) early
    have unasked : e.calls = [] := Event.calls_of_same same
    have answer : e.answer = .error (.misuse .runBeforeBuild) := congrArg (·.1) early
    rw [answer] at failed
    cases failed
    exact ⟨.inl ⟨rfl, unasked, same⟩, fun _ _ => ⟨unasked, same⟩⟩

def onesDevice : HostMemory :=
  { routines := [("k", .ofAssignments [⟨"B", .constant (.ofInt 1)⟩]), ("l", (·.outputs))] }

def bare : Kernel where
  name := "k"
  owner := ⟨0⟩
  source := "__kernel"
  inputs := []
  outputs := [⟨"B", ⟨⟨0⟩, 0⟩⟩]
  parameters := ∅

def losesParameter : List Action :=
  Action.twoKernels ++
    [.editKernel ⟨⟨0⟩, 1⟩ (.setParameter ⟨"n", .int 1⟩), .build, .replaceKernel ⟨⟨0⟩, 1⟩ bare]

theorem bare_made : bare.Made := by
  have bound : Kernel.Made { Kernel.empty "k" ⟨0⟩ with outputs := [⟨"B", ⟨⟨0⟩, 0⟩⟩] } :=
    .edited (.bindOutput "B" ⟨⟨0⟩, 0⟩) (.empty "k" ⟨0⟩) (by decide +kernel)
  exact .edited (.setSource "__kernel") bound rfl

theorem run_interrupted_after_copy :
    let p := (watched (HostMemory.adapter .openCL) onesDevice ⟨0⟩).play losesParameter
    let events := (watched (HostMemory.adapter .openCL) onesDevice ⟨0⟩).history losesParameter
    (p.event .run).answer = .error (.notFound .parameter "n") ∧
      ∃ build, latest built events = some build ∧ StopsAt events build p 1 (.notFound .parameter "n") := by
  intro p events
  have failed : (p.event .run).answer = .error (.notFound .parameter "n") := by decide +kernel
  have made : (p.event .run).calls = [.dispatch ⟨"k", ⟨⟨0, 0⟩⟩, [], [("B", ⟨⟨0, 0⟩⟩)], [], 1, 1⟩ (.ok ())] := by
    decide +kernel
  refine ⟨failed, ?_⟩
  obtain ⟨⟨early, -⟩ | ⟨build, last, done, ⟨l, calls⟩ | ⟨calls, stops, -⟩⟩, -⟩ :=
    run_interrupted (HostMemory.adapter .openCL) onesDevice ⟨0⟩ losesParameter _ failed
  · cases early
  · have refused : .dispatch l (.error (.notFound .parameter "n")) ∈ (p.event .run).calls :=
      calls ▸ List.mem_append_right _ (List.mem_singleton.mpr rfl)
    rw [made] at refused
    cases List.mem_singleton.mp refused
  · have one : done.length = 1 := by simpa using (congrArg List.length (made.symm.trans calls)).symm
    exact ⟨build, last, one ▸ stops⟩

theorem run_half_executed :
    let p := (watched (HostMemory.adapter .openCL) onesDevice ⟨0⟩).play losesParameter
    let e := p.event .run
    (∀ act ∈ losesParameter, act.Public) ∧ p.graph.kernel ⟨⟨0⟩, 0⟩ = .ok bare ∧
      e.answer = .error (.notFound .parameter "n") ∧
      e.calls[0]? = some (.dispatch ⟨"k", ⟨⟨0, 0⟩⟩, [], [("B", ⟨⟨0, 0⟩⟩)], [], 1, 1⟩ (.ok ())) ∧
      p.memory.memory.stored ⟨⟨0, 0⟩⟩ = .ok #[.zero] ∧
      e.after.memory.memory.stored ⟨⟨0, 0⟩⟩ = .ok #[.ofInt 1] := by
  refine ⟨?_, by decide +kernel, by decide +kernel, by decide +kernel, by decide +kernel, by decide +kernel⟩
  simp only [losesParameter, Action.twoKernels, List.cons_append, List.nil_append, List.forall_mem_cons]
  simp [Action.Public, bare_made]

end Processor

end PixelPipeline
