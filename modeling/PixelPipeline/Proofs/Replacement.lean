import PixelPipeline.Proofs.Convention

namespace PixelPipeline

open Outcome Event

variable {σ : Type}

/-- Kernels as a caller can come by them, in whatever graph. -/
inductive Kernel.Made : Kernel → Prop
  | empty (name : String) (owner : Owner) : Made (.empty name owner)
  | edited {k l : Kernel} (edit : KernelEdit) (made : k.Made) (changed : edit.apply k = .ok l) : l.Made

/-- A kernel that is put in the place of another is a copy of some kernel. -/
def Action.Public : Action → Prop
  | replaceKernel _ k => k.Made
  | _ => True

def Event.replaces (i : Nat) : Event σ → Bool
  | ⟨_, .replaceKernel id _, .ok _, _⟩ => id.index = i
  | _ => false

theorem Kernel.Made.distinct {k : Kernel} (made : k.Made) : k.parameters.Distinct := by
  induction made with
  | empty name owner => exact List.nodup_nil
  | edited edit _ changed ih =>
    cases edit.edited changed with
    | parameter unbound set => exact ih.set set
    | input | output | source => exact ih

namespace Processor

variable {events : List (Event (Recorded σ))} {p p' : Processor (Recorded σ)} {act : Action}
  {answer : Except Error Unit}

theorem Step.of_replaceKernel {id : KernelId} {k : Kernel} (step : p.Step (.replaceKernel id k) answer p') :
    (∃ old, answer = .ok () ∧ p.graph.kernels[id.index]? = some old ∧
      p'.graph.kernels = p.graph.kernels.set id.index k) ∨ p'.graph.kernels = p.graph.kernels := by
  cases step with
  | edited only changed _ =>
    cases Action.operated only changed with
    | kernelReplaced known => exact .inl ⟨_, rfl, known, rfl⟩
  | refused => exact .inr rfl

theorem keepsKernels_or (act : Action) : act.KeepsKernels ∨ ∃ id k, act = .replaceKernel id k := by
  cases act with
  | replaceKernel id k => exact .inr ⟨id, k, rfl⟩
  | _ => exact .inl trivial

theorem Step.kernel (step : p.Step act answer p') {i : Nat} {k : Kernel} (known : p.graph.kernels[i]? = some k) :
    ∃ now, p'.graph.kernels[i]? = some now ∧
      (Event.replaces i (⟨p, act, answer, p'⟩ : Event (Recorded σ)) = false → k.Grows now) := by
  rcases keepsKernels_or act with keeps | ⟨id, l, rfl⟩
  · obtain ⟨now, found, grown⟩ := step.keeps_kernels keeps i k known
    exact ⟨now, found, fun _ => grown⟩
  · rcases step.of_replaceKernel with ⟨old, rfl, held, kernels⟩ | kernels
    · have early : id.index < p.graph.kernels.length := (List.getElem?_eq_some_iff.mp held).1
      by_cases here : id.index = i
      · subst here
        exact ⟨l, by rw [kernels, List.getElem?_set_self early], fun other => by simp [Event.replaces] at other⟩
      · exact ⟨k, by rw [kernels, List.getElem?_set_ne here, known], fun _ => .of_same rfl rfl⟩
    · exact ⟨k, by rw [kernels, known], fun _ => .of_same rfl rfl⟩

theorem Step.made (step : p.Step act answer p') (copies : act.Public)
    (made : ∀ k ∈ p.graph.kernels, k.Made) : ∀ k ∈ p'.graph.kernels, k.Made := by
  cases step with
  | edited only changed _ =>
    cases act.operated only changed with
    | measured | buffer | bufferEdited | bufferReplaced => exact made
    | kernel => exact List.forall_mem_append.mpr ⟨made, List.forall_mem_singleton.mpr (.empty _ _)⟩
    | kernelEdited held edited =>
      have known := (Graph.kernel_eq_ok.mp held).2
      intro k member
      rcases List.mem_or_eq_of_mem_set member with old | rfl
      · exact made k old
      · exact .edited _ (made _ (List.mem_of_getElem? known)) edited
    | kernelReplaced =>
      intro k member
      rcases List.mem_or_eq_of_mem_set member with old | rfl
      · exact made k old
      · exact copies
  | _ => exact made

/-- The kernels of the last build against those of now, place by place. -/
structure Succeeds (events : List (Event (Recorded σ))) (p : Processor (Recorded σ)) : Prop where
  made : ∀ k ∈ p.graph.kernels, k.Made
  since : ∀ build, latest built events = some build → (∀ k ∈ build.before.graph.kernels, k.Made) ∧
    ∀ (i : Nat) k, build.before.graph.kernels[i]? = some k → ∃ now, p.graph.kernels[i]? = some now ∧
      ((∀ e ∈ sinceBuild events, e.replaces i = false) → k.Grows now)

theorem Succeeds.step (succeeds : Succeeds events p) (copies : act.Public) (step : p.Step act answer p') :
    Succeeds (events ++ [⟨p, act, answer, p'⟩]) p' := by
  refine ⟨step.made copies succeeds.made, fun build last => ?_⟩
  rw [latest_concat] at last
  split at last
  · rename_i builds
    cases last
    refine ⟨succeeds.made, fun i k known => ?_⟩
    obtain ⟨now, found, grown⟩ := step.kernel known
    have other : Event.replaces i (⟨p, act, answer, p'⟩ : Event (Recorded σ)) = false := by
      cases act with
      | replaceKernel => cases answer <;> cases builds
      | _ => rfl
    exact ⟨now, found, fun _ => grown other⟩
  · rename_i quiet
    obtain ⟨made, since⟩ := succeeds.since build last
    refine ⟨made, fun i k known => ?_⟩
    obtain ⟨middle, held, early⟩ := since i k known
    obtain ⟨now, found, late⟩ := step.kernel held
    refine ⟨now, found, fun unreplaced => ?_⟩
    rw [sinceBuild_keep events (Bool.eq_false_iff.mpr quiet), List.forall_mem_append,
      List.forall_mem_singleton] at unreplaced
    exact (early unreplaced.1).trans (late unreplaced.2)

theorem succeeds_history (a : Adapter σ) (memory : σ) (owner : Owner) (acts : List Action)
    (copies : ∀ act ∈ acts, act.Public) :
    Succeeds ((watched a memory owner).history acts) ((watched a memory owner).play acts) := by
  refine history_induction (a := a) Action.Public (motive := Succeeds) ⟨?_, by simp [latest]⟩ ?_ acts copies
  · intro k member
    cases member
  · intro events p act answer p' copies earlier step
    exact earlier.step copies step

theorem resolveParameters_eq_ok {k : Kernel} {names : List String} {values : List Parameter} :
    resolveParameters k names = .ok values ↔
      List.Forall₂ (fun name q => k.parameters.find? name = some q) names values := by
  simp only [resolveParameters_eq_mapM, mapM_eq_ok, Kernel.valueOf_eq_ok]

theorem values_named {k : Kernel} {names : List String} {values : List Parameter}
    (resolved : resolveParameters k names = .ok values) :
    values.map (·.name) = names ∧ ∀ q ∈ values, k.parameters.find? q.name = some q := by
  rw [resolveParameters_eq_ok] at resolved
  induction resolved with
  | nil => simp
  | @cons name q _ _ found _ ih =>
    have named : q.name = name := by simpa using List.find?_some found
    refine ⟨by rw [List.map_cons, ih.1, named], List.forall_mem_cons.mpr ⟨?_, ih.2⟩⟩
    rw [named, found]

theorem passed_of_grows {k now : Kernel} {values : List Parameter} (distinct : k.parameters.Distinct)
    (grown : k.Grows now)
    (resolved : resolveParameters now (k.parameters.signatureOrder.map (·.name)) = .ok values) :
    PassedFor k.parameters.signatureOrder values := by
  rw [resolveParameters_eq_ok, List.forall₂_map_left_iff] at resolved
  refine (List.forall₂_and_left _ _ |>.mpr ⟨fun d member => member, resolved⟩).imp fun d q ⟨member, found⟩ => ?_
  obtain ⟨r, current, type⟩ := grown.parameters d.name d (distinct.find? (ParameterSet.mem_signatureOrder member))
  rw [found] at current
  cases current
  exact ⟨by simpa using List.find?_some found, type⟩

/-- A launch keeps to the interface that was compiled for it unless its kernel was replaced since. -/
theorem launch_of_replaced_kernels (a : Adapter σ) (memory : σ) (owner : Owner) (acts : List Action)
    (copies : ∀ act ∈ acts, act.Public) :
    let p := (watched a memory owner).play acts
    let events := (watched a memory owner).history acts
    ∀ (i : Nat) l answer, (p.event .run).calls[i]? = some (.dispatch l answer) →
      ∃ build k source now, latest built events = some build ∧ build.before.graph.kernels[i]? = some k ∧
        build.calls[i]? = some (.compile k.name source (.ok l.program)) ∧
        p.graph.kernels[i]? = some now ∧ l.kernel = now.name ∧
        l.parameters.map (·.name) = k.parameters.signatureOrder.map (·.name) ∧
        (∀ q ∈ l.parameters, now.parameters.find? q.name = some q) ∧
        ((∀ e ∈ sinceBuild events, e.replaces i = false) →
          l.kernel = k.name ∧ PassedFor k.parameters.signatureOrder l.parameters) := by
  intro p events i l answer called
  have recorded : p.adapter = a.recorded := play_adapter (p := watched a memory owner) rfl acts
  obtain ⟨late, planned⟩ := planned_of_run recorded called
  obtain ⟨build, units, programs, built⟩ := builtFrom_history a memory owner acts late
  obtain ⟨k, source, program, known, -, compiled, launched⟩ := built.at_position planned
  obtain ⟨now, held, kernel, rfl, -, -, resolved⟩ := launch_compiledEntry launched
  obtain ⟨made, since⟩ := (succeeds_history a memory owner acts copies).since build built.last
  obtain ⟨now', found, grown⟩ := since i k known
  obtain rfl : now' = now := Option.some.inj (found.symm.trans held)
  obtain ⟨names, values⟩ := values_named resolved
  refine ⟨build, k, source, now', built.last, known, compiled, found, kernel, names, values, fun unreplaced => ?_⟩
  have distinct := (made k (List.mem_of_getElem? known)).distinct
  exact ⟨kernel.trans (grown unreplaced).name, passed_of_grows distinct (grown unreplaced) resolved⟩

def copied : Kernel where
  name := "l"
  owner := ⟨0⟩
  source := "__kernel"
  inputs := []
  outputs := [⟨"B", ⟨⟨0⟩, 0⟩⟩]
  parameters := ⟨[⟨"n", .float .zero⟩]⟩

def replaces : List Action :=
  Action.twoKernels ++
    [.editKernel ⟨⟨0⟩, 0⟩ (.setParameter ⟨"n", .int 1⟩), .editKernel ⟨⟨0⟩, 1⟩ (.setParameter ⟨"n", .float .zero⟩),
      .build, .replaceKernel ⟨⟨0⟩, 0⟩ copied]

theorem copied_made : copied.Made := by
  have bound : Kernel.Made { Kernel.empty "l" ⟨0⟩ with outputs := [⟨"B", ⟨⟨0⟩, 0⟩⟩] } :=
    .edited (.bindOutput "B" ⟨⟨0⟩, 0⟩) (.empty "l" ⟨0⟩) (by decide +kernel)
  have sourced := Kernel.Made.edited (.setSource "__kernel") bound rfl
  exact .edited (.setParameter ⟨"n", .float .zero⟩) sourced (by decide +kernel)

theorem replaces_public : ∀ act ∈ replaces, act.Public := by
  simp only [replaces, Action.twoKernels, List.cons_append, List.nil_append, List.forall_mem_cons]
  simp [Action.Public, copied_made]

theorem launch_of_replaced_kernels_copied :
    let p := (watched (HostMemory.adapter .openCL) .twoKernels ⟨0⟩).play replaces
    let l : Launch := ⟨"l", ⟨⟨1, 0⟩⟩, [], [("B", ⟨⟨0, 0⟩⟩)], [⟨"n", .float .zero⟩], 1, 1⟩
    (∀ act ∈ replaces, act.Public) ∧ (p.event .run).calls[1]? = some (.dispatch l (.ok ())) ∧
      ∃ build source, ∃ k : Kernel,
        latest built ((watched (HostMemory.adapter .openCL) .twoKernels ⟨0⟩).history replaces) = some build ∧
        build.calls[1]? = some (.compile k.name source (.ok l.program)) ∧ l.kernel = k.name ∧
        PassedFor k.parameters.signatureOrder l.parameters := by
  intro p l
  have called : (p.event .run).calls[1]? = some (.dispatch l (.ok ())) := by decide +kernel
  have unreplaced : ∀ e ∈ sinceBuild ((watched (HostMemory.adapter .openCL) .twoKernels ⟨0⟩).history replaces),
      e.replaces 1 = false := by decide +kernel
  obtain ⟨build, k, source, now, last, -, compiled, -, -, -, -, kept⟩ :=
    launch_of_replaced_kernels (HostMemory.adapter .openCL) .twoKernels ⟨0⟩ replaces replaces_public 1 l (.ok ()) called
  obtain ⟨name, passed⟩ := kept unreplaced
  exact ⟨replaces_public, called, build, source, k, last, compiled, name, passed⟩

theorem copy_launched_for_first :
    let p := (watched (HostMemory.adapter .openCL) .twoKernels ⟨0⟩).play replaces
    (∀ act ∈ replaces, act.Public) ∧ p.graph.kernel ⟨⟨0⟩, 1⟩ = .ok copied ∧
      (latest built ((watched (HostMemory.adapter .openCL) .twoKernels ⟨0⟩).history replaces)).map (fun build =>
          (build.calls[0]?, build.before.graph.kernels[0]?.map (·.parameters.signatureOrder))) =
        some (some (.compile "k" "__kernel" (.ok ⟨⟨0, 0⟩⟩)), some [⟨"n", .int 1⟩]) ∧
      (p.event .run).calls[0]? =
        some (.dispatch ⟨"l", ⟨⟨0, 0⟩⟩, [], [("B", ⟨⟨0, 0⟩⟩)], [⟨"n", .float .zero⟩], 1, 1⟩ (.ok ())) :=
  ⟨replaces_public, by decide +kernel, by decide +kernel, by decide +kernel⟩

end Processor

end PixelPipeline
