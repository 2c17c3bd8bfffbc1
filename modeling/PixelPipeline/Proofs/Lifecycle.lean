import Mathlib.Data.List.DropRight
import PixelPipeline.Proofs.Session

namespace PixelPipeline

namespace Event

variable {σ : Type}

def allocated : Event σ → Bool
  | ⟨_, .allocate, .ok _, _⟩ => true
  | _ => false

def unallocated : Event σ → Bool
  | ⟨_, .allocate, .error _, _⟩ => true
  | _ => false

def built : Event σ → Bool
  | ⟨_, .build, .ok _, _⟩ => true
  | _ => false

def ran : Event σ → Bool
  | ⟨_, .run, .ok _, _⟩ => true
  | _ => false

/-- The events after the last allocation that failed, or all of them. -/
def sinceReset (events : List (Event σ)) : List (Event σ) := events.rtakeWhile (!·.unallocated)

/-- The events after the last build that succeeded, or all of them. -/
def sinceBuild (events : List (Event σ)) : List (Event σ) := events.rtakeWhile (!·.built)

structure Idle (e : Event σ) : Prop where
  unallocated : e.unallocated = false
  allocated : e.allocated = false
  built : e.built = false
  ran : e.ran = false

theorem Idle.of_onGraph {p p' : Processor σ} {act : Action} {answer : Except Error Unit}
    {edit : Graph → Except Error Graph} (only : act.onGraph? = some edit) :
    Idle ⟨p, act, answer, p'⟩ := by
  cases act <;> first | exact ⟨rfl, rfl, rfl, rfl⟩ | cases only

theorem Idle.of_error {p p' : Processor σ} {act : Action} {e : Error} (other : act ≠ .allocate) :
    Idle ⟨p, act, .error e, p'⟩ := by
  cases act <;> first | exact ⟨rfl, rfl, rfl, rfl⟩ | exact absurd rfl other

theorem sinceReset_concat (events : List (Event σ)) (e : Event σ) :
    sinceReset (events ++ [e]) = if e.unallocated then [] else sinceReset events ++ [e] := by
  unfold sinceReset
  rw [List.rtakeWhile_concat]
  cases e.unallocated <;> rfl

theorem sinceBuild_concat (events : List (Event σ)) (e : Event σ) :
    sinceBuild (events ++ [e]) = if e.built then [] else sinceBuild events ++ [e] := by
  unfold sinceBuild
  rw [List.rtakeWhile_concat]
  cases e.built <;> rfl

theorem sinceReset_keep {e : Event σ} (events : List (Event σ)) (quiet : e.unallocated = false) :
    sinceReset (events ++ [e]) = sinceReset events ++ [e] := by
  simp [sinceReset_concat, quiet]

theorem sinceBuild_keep {e : Event σ} (events : List (Event σ)) (quiet : e.built = false) :
    sinceBuild (events ++ [e]) = sinceBuild events ++ [e] := by
  simp [sinceBuild_concat, quiet]

end Event

namespace Processor

open Event

variable {σ : Type}

/-- The action is out of order: the device is not asked and the processor stays as it is. -/
def Refuses (p : Processor σ) (act : Action) : Prop :=
  ∃ e : Error, e.kind = .state ∧ p.perform act = (.error e, p)

/-- The stage and what is held agree with the events since the last reset. -/
structure Follows (events : List (Event (Recorded σ))) (p : Processor (Recorded σ)) : Prop where
  allocated : p.stage ≠ .created ↔ ∃ e ∈ sinceReset events, e.allocated
  built : p.stage = .built ∨ p.stage = .ready ↔ ∃ e ∈ sinceReset events, e.built
  ran : p.stage = .ready ↔
    (∃ e ∈ sinceReset events, e.built) ∧ ∃ e ∈ sinceBuild (sinceReset events), e.ran
  storage : p.stage = .created → p.storage = []
  compiled : p.stage = .created ∨ p.stage = .allocated → p.compiled = []

theorem Follows.start (a : Adapter σ) (memory : σ) (owner : Owner) :
    Follows [] (watched a memory owner) := by
  constructor <;> simp [watched, create, sinceReset, sinceBuild]

theorem Follows.quiet {events : List (Event (Recorded σ))} {p p' : Processor (Recorded σ)}
    {e : Event (Recorded σ)} (follows : Follows events p) (idle : e.Idle) (stage : p'.stage = p.stage)
    (storage : p'.storage = p.storage) (compiled : p'.compiled = p.compiled) :
    Follows (events ++ [e]) p' := by
  obtain ⟨noReset, noStorage, noBuild, noRun⟩ := idle
  have recent := sinceReset_keep events noReset
  have later := sinceBuild_keep (sinceReset events) noBuild
  obtain ⟨h1, h2, h3, h4, h5⟩ := follows
  constructor
  · simpa [recent, stage, noStorage] using h1
  · simpa [recent, stage, noBuild] using h2
  · simpa [recent, later, stage, noBuild, noRun] using h3
  · simpa [stage, storage] using h4
  · simpa [stage, compiled] using h5

theorem Follows.allocate {events : List (Event (Recorded σ))} {p p' : Processor (Recorded σ)}
    (follows : Follows events p) (stage : p'.stage = if p.stage = .created then .allocated else p.stage)
    (compiled : p'.compiled = p.compiled) : Follows (events ++ [⟨p, .allocate, .ok (), p'⟩]) p' := by
  have recent := sinceReset_keep (e := ⟨p, .allocate, .ok (), p'⟩) events rfl
  have later := sinceBuild_keep (e := ⟨p, .allocate, .ok (), p'⟩) (sinceReset events) rfl
  obtain ⟨h1, h2, h3, h4, h5⟩ := follows
  -- From the second allocation on the stage stays, so that an earlier build still counts.
  have left : p'.stage ≠ .created := by
    rw [stage]
    split <;> simp_all
  have same : p'.stage = .built ∨ p'.stage = .ready ↔ p.stage = .built ∨ p.stage = .ready := by
    rw [stage]
    split <;> simp_all
  have ready : p'.stage = .ready ↔ p.stage = .ready := by
    rw [stage]
    split <;> simp_all
  constructor
  · simp [recent, left, Event.allocated]
  · simpa [recent, same, Event.built] using h2
  · simpa [recent, later, ready, Event.built, Event.ran] using h3
  · exact fun created => absurd created left
  · intro early
    rw [compiled]
    apply h5
    by_cases created : p.stage = .created
    · exact .inl created
    · rw [stage, if_neg created] at early
      exact early

theorem Follows.reset {events : List (Event (Recorded σ))} {p p' : Processor (Recorded σ)} {e : Error}
    (stage : p'.stage = .created) (storage : p'.storage = []) (compiled : p'.compiled = []) :
    Follows (events ++ [⟨p, .allocate, .error e, p'⟩]) p' := by
  have recent : sinceReset (events ++ [⟨p, .allocate, .error e, p'⟩]) = [] := by
    simp [sinceReset_concat, Event.unallocated]
  constructor <;> simp [recent, stage, storage, compiled]

theorem Follows.build {events : List (Event (Recorded σ))} {p p' : Processor (Recorded σ)}
    (follows : Follows events p) (late : p.stage ≠ .created) (stage : p'.stage = .built) :
    Follows (events ++ [⟨p, .build, .ok (), p'⟩]) p' := by
  have recent := sinceReset_keep (e := ⟨p, .build, .ok (), p'⟩) events rfl
  have later : sinceBuild (sinceReset events ++ [⟨p, .build, .ok (), p'⟩]) = [] := by
    simp [sinceBuild_concat, Event.built]
  have before := follows.allocated.mp late
  constructor
  · simpa [recent, stage, Event.allocated] using before
  · simp [recent, stage, Event.built]
  · simp [recent, later, stage]
  · simp [stage]
  · simp [stage]

theorem Follows.run {events : List (Event (Recorded σ))} {p p' : Processor (Recorded σ)}
    (follows : Follows events p) (late : p.stage = .built ∨ p.stage = .ready) (stage : p'.stage = .ready) :
    Follows (events ++ [⟨p, .run, .ok (), p'⟩]) p' := by
  have recent := sinceReset_keep (e := ⟨p, .run, .ok (), p'⟩) events rfl
  have later := sinceBuild_keep (e := ⟨p, .run, .ok (), p'⟩) (sinceReset events) rfl
  have stored := follows.allocated.mp (by rcases late with h | h <;> simp [h])
  have before := follows.built.mp late
  constructor
  · simpa [recent, stage, Event.allocated] using stored
  · simpa [recent, stage, Event.built] using before
  · simpa [recent, later, stage, Event.built, Event.ran] using before
  · simp [stage]
  · simp [stage]

theorem Follows.step {events : List (Event (Recorded σ))} {p p' : Processor (Recorded σ)} {act : Action}
    {answer : Except Error Unit} (follows : Follows events p) (step : p.Step act answer p') :
    Follows (events ++ [⟨p, act, answer, p'⟩]) p' := by
  cases step with
  | edited only _ _ => exact follows.quiet (.of_onGraph only) rfl rfl rfl
  | refused e reaches => exact follows.quiet (.of_error reaches) rfl rfl rfl
  | allocated storage memory => exact follows.allocate rfl rfl
  | unallocated e memory => exact .reset rfl rfl rfl
  | built programs memory late ready each => exact follows.build late rfl
  | unbuilt programs e memory late ready each => exact follows.quiet (.of_error (by simp)) rfl rfl rfl
  | ran memory late dispatched => exact follows.run late rfl
  | halted e memory late dispatched => exact follows.quiet (.of_error (by simp)) rfl rfl rfl
  | uploaded answer memory stored held => exact follows.quiet ⟨rfl, rfl, rfl, rfl⟩ rfl rfl rfl
  | downloaded answer data memory stored held => exact follows.quiet ⟨rfl, rfl, rfl, rfl⟩ rfl rfl rfl

theorem follows_history (a : Adapter σ) (memory : σ) (owner : Owner) (acts : List Action) :
    Follows ((watched a memory owner).history acts) ((watched a memory owner).play acts) :=
  history_induction (fun _ => True) (.start a memory owner)
    (fun _ _ _ _ _ _ follows step => follows.step step) acts (by simp)

theorem Follows.stage_iff {events : List (Event (Recorded σ))} {p : Processor (Recorded σ)}
    (follows : Follows events p) :
    (p.stage = .created ↔ ¬ ∃ e ∈ sinceReset events, e.allocated) ∧
    (p.stage = .allocated ↔
      (∃ e ∈ sinceReset events, e.allocated) ∧ ¬ ∃ e ∈ sinceReset events, e.built) ∧
    (p.stage = .built ↔
      (∃ e ∈ sinceReset events, e.built) ∧ ¬ ∃ e ∈ sinceBuild (sinceReset events), e.ran) ∧
    (p.stage = .ready ↔
      (∃ e ∈ sinceReset events, e.built) ∧ ∃ e ∈ sinceBuild (sinceReset events), e.ran) := by
  obtain ⟨allocated, built, ran, -, -⟩ := follows
  refine ⟨?_, ?_, ?_, ran⟩
  · rw [← allocated, Decidable.not_not]
  · rw [← allocated, ← built]
    cases p.stage <;> simp
  · constructor
    · intro stage
      have some := built.mp (.inl stage)
      refine ⟨some, fun later => ?_⟩
      have ready := ran.mpr ⟨some, later⟩
      rw [stage] at ready
      cases ready
    · rintro ⟨some, none⟩
      rcases built.mpr some with stage | ready
      · exact stage
      · exact absurd (ran.mp ready).2 none

section

variable {p : Processor σ}

theorem refuses_build (created : p.stage = .created) : p.Refuses .build :=
  ⟨.misuse .buildBeforeAllocate, rfl, by simp [perform, build, created]⟩

theorem refuses_run (early : p.stage = .created ∨ p.stage = .allocated) : p.Refuses .run :=
  ⟨.misuse .runBeforeBuild, rfl, by simp [perform, run, early]⟩

theorem refuses_upload (created : p.stage = .created) (id : BufferId) : p.Refuses (.upload id) :=
  ⟨.misuse .transferBeforeAllocate, rfl, by
    simp only [perform, upload, requireStorage, created, ↓reduceIte]
    rfl⟩

theorem refuses_download (created : p.stage = .created) (id : BufferId) : p.Refuses (.download id) :=
  ⟨.misuse .transferBeforeAllocate, rfl, by
    simp only [perform, download, requireStorage, created, ↓reduceIte]
    rfl⟩

end

theorem Step.keeps_storage {p p' : Processor (Recorded σ)} {act : Action} {answer : Except Error Unit}
    (step : p.Step act answer p') (other : act ≠ .allocate) :
    p'.storage = p.storage ∧ (p'.stage ≠ .created → p.stage ≠ .created) ∧
      (⟨p, act, answer, p'⟩ : Event (Recorded σ)).allocated = false := by
  cases step with
  | edited only => exact ⟨rfl, id, (Idle.of_onGraph only).allocated⟩
  | refused fault reaches => exact ⟨rfl, id, (Idle.of_error reaches).allocated⟩
  | allocated | unallocated => exact absurd rfl other
  | built programs memory late => exact ⟨rfl, fun _ => late, rfl⟩
  | unbuilt | halted | uploaded | downloaded => exact ⟨rfl, id, rfl⟩
  | ran memory late => exact ⟨rfl, fun _ => by rcases late with h | h <;> simp [h], rfl⟩

theorem Step.graph_of_allocate {p p' : Processor (Recorded σ)} {answer : Except Error Unit}
    (step : p.Step .allocate answer p') : p'.graph = p.graph := by
  cases step with
  | edited only => cases only
  | refused | allocated | unallocated => rfl

theorem Step.stage_of_failure {p p' : Processor (Recorded σ)} {act : Action} {e : Error}
    (step : p.Step act (.error e) p') (other : act ≠ .allocate) : p'.stage = p.stage := by
  cases step with
  | unallocated => exact absurd rfl other
  | refused | unbuilt | halted | uploaded | downloaded => rfl

/-- The stage is exactly the history since the last failed allocation, and an operation out of order is
refused without a call. -/
theorem stage_iff_history (a : Adapter σ) (memory : σ) (owner : Owner) (acts : List Action) :
    let p := (watched a memory owner).play acts
    let recent := sinceReset ((watched a memory owner).history acts)
    ((p.stage = .created ↔ ¬ ∃ e ∈ recent, e.allocated) ∧
      (p.stage = .allocated ↔ (∃ e ∈ recent, e.allocated) ∧ ¬ ∃ e ∈ recent, e.built) ∧
      (p.stage = .built ↔ (∃ e ∈ recent, e.built) ∧ ¬ ∃ e ∈ sinceBuild recent, e.ran) ∧
      (p.stage = .ready ↔ (∃ e ∈ recent, e.built) ∧ ∃ e ∈ sinceBuild recent, e.ran)) ∧
    (p.stage = .created → p.storage = [] ∧ p.compiled = []) ∧
    (p.stage = .allocated → p.compiled = []) ∧
    (p.stage = .created →
      p.Refuses .build ∧ ∀ id, p.Refuses (.upload id) ∧ p.Refuses (.download id)) ∧
    (p.stage = .created ∨ p.stage = .allocated → p.Refuses .run) ∧
    (∀ e, (p.perform .allocate).1 = .error e → (p.perform .allocate).2.graph = p.graph) ∧
    (∀ e, (p.perform .build).1 = .error e → (p.perform .build).2.stage = p.stage) ∧
    (∀ e, (p.perform .run).1 = .error e → (p.perform .run).2.stage = p.stage) := by
  intro p recent
  have follows : Follows ((watched a memory owner).history acts) p := follows_history a memory owner acts
  have step : ∀ act, p.Step act (p.perform act).1 (p.perform act).2 := play_step a memory owner acts
  refine ⟨follows.stage_iff, ?_, ?_, ?_, ?_, ?_, ?_, ?_⟩
  · exact fun created => ⟨follows.storage created, follows.compiled (.inl created)⟩
  · exact fun allocated => follows.compiled (.inr allocated)
  · exact fun created => ⟨refuses_build created,
      fun id => ⟨refuses_upload created id, refuses_download created id⟩⟩
  · exact refuses_run
  · exact fun e _ => (step .allocate).graph_of_allocate
  · intro e failed
    have failure := step .build
    rw [failed] at failure
    exact failure.stage_of_failure (by simp)
  · intro e failed
    have failure := step .run
    rw [failed] at failure
    exact failure.stage_of_failure (by simp)

end Processor

end PixelPipeline
