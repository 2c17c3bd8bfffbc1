import PixelPipeline.Proofs.Refusals
import PixelPipeline.Proofs.Yields

namespace PixelPipeline

variable {σ W α β : Type}

open Outcome

theorem Pipeline.parse_sober {format : Format} {text : String} {cause : Cause}
    (failed : parse format text = .error cause) : cause ≠ .overflow := by
  unfold parse at failed
  cases said : format text with
  | error fault =>
    rw [said] at failed
    cases failed
    simp
  | ok p =>
    rw [said] at failed
    rcases bind_eq_error.mp (map_eq_error.mp failed) with buffers | ⟨_, -, kernels⟩
    · obtain ⟨b, -, both⟩ := exists_of_forM_eq_error buffers
      unfold BufferDeclaration.check at both
      split at both <;> cases both
      simp
    · obtain ⟨k, -, refused⟩ := exists_of_forM_eq_error kernels
      obtain ⟨d, -, undecided⟩ := exists_of_forM_eq_error refused
      exact ParameterDeclaration.parameter_sober (map_eq_error.mp undecided)

theorem Pipeline.environmentOr_sober {p : Pipeline} {given : Option Environment} {cause : Cause}
    (failed : p.environmentOr given = .error cause) : cause ≠ .overflow := by
  unfold environmentOr at failed
  split at failed
  · cases failed
  · rename_i name _
    cases known : Environment.ofText name with
    | error e =>
      rw [known] at failed
      cases failed
      simp
    | ok environment =>
      rw [known] at failed
      cases failed
  · cases failed
    simp

theorem PipelineFile.load_sober {format : Pipeline.Format} {files : Files Id} {path : Path} {e : Failure}
    (failed : load format files path = .error e) : e.cause ≠ .overflow := by
  unfold load at failed
  cases said : files.readText path with
  | error unread =>
    simp only [bind, said] at failed
    cases failed
    simp [Failure.during]
  | ok text =>
    simp only [bind, said] at failed
    cases parsed : Pipeline.parse format text with
    | error cause =>
      rw [parsed] at failed
      cases failed
      exact Pipeline.parse_sober parsed
    | ok p =>
      rw [parsed] at failed
      cases failed

namespace Run

def Panics (x : Watched σ W α) (p : Processor (Recorded σ)) (j : Journal W) : Prop :=
  ∃ e, (x p j).1.1 = .error e ∧ e.cause = .overflow

def Sober (x : Watched σ W α) : Prop := ∀ p j, ¬ Panics x p j

section

variable {x : Watched σ W α} {f : α → Watched σ W β} {p : Processor (Recorded σ)} {j : Journal W}

theorem panics_bind : Panics (x >>= f) p j ↔
    Panics x p j ∨ ∃ a, (x p j).1.1 = .ok a ∧ Panics (f a) (x p j).1.2 (x p j).2 := by
  have step : (x >>= f) p j = ExceptT.bindCont f (x p j).1.1 (x p j).1.2 (x p j).2 := rfl
  unfold Panics
  rw [step]
  cases (x p j).1.1 with
  | error e =>
    constructor
    · rintro ⟨_, failed, panic⟩
      cases failed
      exact .inl ⟨e, rfl, panic⟩
    · rintro (⟨_, failed, panic⟩ | ⟨_, made, -⟩)
      · cases failed
        exact ⟨e, rfl, panic⟩
      · cases made
  | ok a =>
    constructor
    · exact fun later => .inr ⟨a, rfl, later⟩
    · rintro (⟨_, failed, -⟩ | ⟨_, made, later⟩)
      · cases failed
      · cases made
        exact later

theorem panics_bind_sober (later : ∀ a, Sober (f a)) : Panics (x >>= f) p j ↔ Panics x p j := by
  rw [panics_bind, or_iff_left]
  rintro ⟨a, -, panic⟩
  exact later a _ _ panic

theorem Sober.bind (first : Sober x) (later : ∀ a, Sober (f a)) : Sober (x >>= f) := fun p j panic =>
  first p j ((panics_bind_sober later).mp panic)

theorem Sober.pure {a : α} : Sober (pure a : Watched σ W α) := by
  rintro p j ⟨e, failed, -⟩
  cases failed

theorem Sober.perform {activity : Option Activity} {operation : Operation (Recorded σ) α} :
    Sober (perform activity operation : Watched σ W α) := by
  rintro p j ⟨e, failed, panic⟩
  have answered : (operation p).1.mapError (fun e => (⟨activity, .rejected e⟩ : Failure)) = .error e := failed
  cases answer : (operation p).1 with
  | error r =>
    rw [answer] at answered
    cases answered
    cases panic
  | ok a =>
    rw [answer] at answered
    cases answered

theorem Sober.outside {action : StateM (Journal W) (Except Failure α)}
    (sober : ∀ j e, (action j).1 = .error e → e.cause ≠ .overflow) : Sober (outside action : Watched σ W α) := by
  rintro p j ⟨e, failed, panic⟩
  exact sober j e failed panic

theorem Sober.forM {ι : Type} {act : ι → Watched σ W Unit} (each : ∀ i, Sober (act i)) (is : List ι) :
    Sober (is.forM act) := by
  induction is with
  | nil => exact .pure
  | cons i is ih => exact .bind (each i) fun _ => ih

end

section

variable {shell : Shell (StateM W)} {f : PipelineFile} {source : SourceText} {id : BufferId}

theorem sober_load (path : Path) (count : Nat) :
    Sober (outside (RawFloats.load shell.recorded.files path count) : Watched σ W (Array Single)) := by
  refine .outside fun j e failed => ?_
  cases opened : shell.recorded.files.read path j with
  | mk answer j' =>
    have step : RawFloats.load shell.recorded.files path count j = _ := bind_of_ran opened
    rw [step] at failed
    cases answer with
    | error e =>
      cases failed
      simp [Failure.during]
    | ok bytes =>
      dsimp only at failed
      cases found : RawFloats.read? bytes count with
      | some data =>
        rw [found] at failed
        cases failed
      | none =>
        rw [found] at failed
        cases failed
        simp [Failure.ofCause]

theorem sober_save (path : Path) (data : Array Single) :
    Sober (outside (RawFloats.save shell.recorded.files path data) : Watched σ W Unit) := by
  refine .outside fun j e failed => ?_
  obtain ⟨answer, world, saved⟩ := save_recorded shell j path data
  rw [saved] at failed
  cases answer with
  | ok _ => cases failed
  | error r =>
    cases failed
    simp [Failure.during]

theorem sober_print (text : String) : Sober (outside do
    shell.recorded.print text
    return .ok () : Watched σ W Unit) :=
  .outside fun j e failed => by cases failed

theorem sober_lap : Sober (lap shell.recorded : Watched σ W String) :=
  .outside fun j e failed => by cases failed

theorem sober_supply (b : BufferDeclaration) : Sober (supply shell.recorded f b id : Watched σ W Unit) := by
  unfold supply
  split
  · exact .pure
  · exact .bind .perform fun _ => .bind (sober_load _ _) fun _ => .bind .perform fun _ => .perform
  · exact .bind .perform fun _ => .perform

theorem sober_deliver (verbose : Bool) (b : BufferDeclaration) :
    Sober (deliver shell.recorded verbose f b id : Watched σ W Unit) := by
  unfold deliver
  split
  · exact .pure
  · refine .bind .perform fun _ => .bind .perform fun _ => .bind (sober_save _ _) fun _ => ?_
    split
    · exact sober_print _
    · exact .pure

/-- After the declaration nothing allocates but the device, which answers. -/
theorem panics_steps {verbose : Bool} {p : Processor (Recorded σ)} {j : Journal W} :
    Panics (steps shell.recorded verbose f source) p j ↔ Panics (declare f source : Watched σ W Declared) p j := by
  refine panics_bind_sober fun declared => ?_
  refine .bind .perform fun _ => .bind (.forM (fun _ => sober_supply _) _) fun _ => .bind sober_lap fun _ => ?_
  refine .bind .perform fun _ => .bind sober_lap fun _ => .bind .perform fun _ => .bind sober_lap fun _ => ?_
  refine .bind (.forM (fun _ => sober_deliver _ _) _) fun _ => ?_
  split
  · exact .bind (fun p j ⟨e, failed, _⟩ => by cases failed) fun _ => sober_print _
  · exact .pure

theorem panics_declare (a : Adapter σ) (memory : σ) (j : Journal W) :
    Panics (declare f source : Watched σ W Declared) (.create a.recorded ⟨memory, []⟩ ⟨0⟩) j ↔
      f.pipeline.Overflows := by
  have graph : (Processor.create a.recorded ⟨memory, []⟩ ⟨0⟩).declare f (some source) = _ :=
    f.declare_on_processor a.recorded ⟨memory, []⟩ ⟨0⟩
  have step : ((declare f source : Watched σ W Declared) (Processor.create a.recorded ⟨memory, []⟩ ⟨0⟩) j).1 =
      (Processor.create a.recorded ⟨memory, []⟩ ⟨0⟩).declare f (some source) := rfl
  rw [Panics, step, graph]
  exact PipelineFile.declare_panics

end

end Run

end PixelPipeline
