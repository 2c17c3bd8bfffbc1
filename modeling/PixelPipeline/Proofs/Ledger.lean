import Mathlib.Data.List.Nodup
import Mathlib.Tactic.Tauto
import PixelPipeline.Proofs.Lifecycle
import PixelPipeline.Proofs.Lookup

namespace PixelPipeline

namespace DeviceCall

/-- The program that a call hands out. -/
def issued? : DeviceCall → Option Program
  | .compile _ _ (.ok program) => some program
  | _ => none

def released? : DeviceCall → Option Program
  | .release program => some program
  | _ => none

def used? : DeviceCall → Option Program
  | .release program => some program
  | .dispatch l _ => some l.program
  | _ => none

def loan (held : List Program) : DeviceCall → List Program
  | .compile _ _ (.ok program) => held ++ [program]
  | .release program => held.filter (· ≠ program)
  | _ => held

/-- The programs handed out and not given back in the course of some calls. -/
def loans (held : List Program) (calls : List DeviceCall) : List Program := calls.foldl loan held

def outstanding (calls : List DeviceCall) : List Program := loans [] calls

/-- A property of each call and of the programs on loan when it is made. -/
def Throughout (property : List Program → DeviceCall → Prop) : List Program → List DeviceCall → Prop
  | _, [] => True
  | held, call :: rest => property held call ∧ Throughout property (loan held call) rest

/-- A program handed out is not on loan already. -/
def Fresh : List Program → List DeviceCall → Prop :=
  Throughout fun held call => ∀ program, call.issued? = some program → program ∉ held

instance decidableThroughout {property : List Program → DeviceCall → Prop}
    [∀ held, DecidablePred (property held)] :
    (held : List Program) → (calls : List DeviceCall) → Decidable (Throughout property held calls)
  | _, [] => .isTrue trivial
  | held, call :: rest =>
    have : Decidable (Throughout property (loan held call) rest) := decidableThroughout _ _
    inferInstanceAs (Decidable (property held call ∧ Throughout property (loan held call) rest))

instance (held : List Program) (calls : List DeviceCall) : Decidable (Fresh held calls) :=
  have (held : List Program) :
      DecidablePred fun call : DeviceCall => ∀ program, call.issued? = some program → program ∉ held :=
    fun call => inferInstanceAs (Decidable (∀ program ∈ call.issued?, program ∉ held))
  inferInstanceAs (Decidable (Throughout _ held calls))

/-- A program released or dispatched is on loan. -/
def Lawful : List Program → List DeviceCall → Prop :=
  Throughout fun held call => ∀ program, call.used? = some program → program ∈ held

theorem filter_left_of_disjoint {held fresh : List Program} (apart : held.Disjoint fresh) :
    (held ++ fresh).filter (· ∉ fresh) = held := by
  have keep : held.filter (· ∉ fresh) = held := by
    rw [List.filter_eq_self]
    intro q member
    simpa using fun new => apart member new
  rw [List.filter_append, keep]
  simp

theorem filter_right_of_disjoint {held fresh : List Program} (apart : held.Disjoint fresh) :
    (held ++ fresh).filter (· ∉ held) = fresh := by
  have keep : fresh.filter (· ∉ held) = fresh := by
    rw [List.filter_eq_self]
    intro q new
    simpa using fun member => apart member new
  rw [List.filter_append, keep]
  simp

theorem loans_append (held : List Program) (first rest : List DeviceCall) :
    loans held (first ++ rest) = loans (loans held first) rest := List.foldl_append

theorem throughout_append {property : List Program → DeviceCall → Prop} {held : List Program}
    {first rest : List DeviceCall} :
    Throughout property held (first ++ rest) ↔
      Throughout property held first ∧ Throughout property (loans held first) rest := by
  induction first generalizing held with
  | nil => simp [Throughout, loans]
  | cons call first ih =>
    simp only [List.cons_append, Throughout, ih, and_assoc]
    rfl

theorem Throughout.at {property : List Program → DeviceCall → Prop} {held : List Program}
    {calls earlier later : List DeviceCall} {call : DeviceCall}
    (all : Throughout property held calls) (split : calls = earlier ++ call :: later) :
    property (loans held earlier) call := by
  rw [split, throughout_append] at all
  exact all.2.1

theorem throughout_of_forall {property : List Program → DeviceCall → Prop} {held : List Program}
    {calls : List DeviceCall} (each : ∀ call ∈ calls, ∀ held, property held call) :
    Throughout property held calls := by
  induction calls generalizing held with
  | nil => trivial
  | cons call rest ih =>
    exact ⟨each call List.mem_cons_self held, ih fun c member => each c (List.mem_cons_of_mem _ member)⟩

theorem loan_of_issued {call : DeviceCall} {program : Program} (issued : call.issued? = some program)
    (held : List Program) : call.loan held = held ++ [program] := by
  cases call with
  | compile kernel source answer =>
    cases answer with
    | error e => cases issued
    | ok q => cases issued; rfl
  | allocate | release | dispatch | upload | download => cases issued

def Neutral (call : DeviceCall) : Prop := call.issued? = none ∧ call.released? = none

theorem Neutral.loan {call : DeviceCall} (neutral : call.Neutral) (held : List Program) :
    call.loan held = held := by
  cases call with
  | compile kernel source answer =>
    cases answer with
    | error e => rfl
    | ok program => cases neutral.1
  | release program => cases neutral.2
  | allocate | dispatch | upload | download => rfl

theorem loans_of_neutral {held : List Program} {calls : List DeviceCall}
    (neutral : ∀ call ∈ calls, call.Neutral) : loans held calls = held := by
  induction calls with
  | nil => rfl
  | cons call rest ih =>
    simp only [loans, List.foldl_cons, (neutral call List.mem_cons_self).loan]
    exact ih fun c member => neutral c (List.mem_cons_of_mem _ member)

theorem lawful_of_neutral {held : List Program} {calls : List DeviceCall}
    (neutral : ∀ call ∈ calls, call.Neutral)
    (used : ∀ call ∈ calls, ∀ program, call.used? = some program → program ∈ held) :
    Lawful held calls := by
  induction calls with
  | nil => trivial
  | cons call rest ih =>
    refine ⟨used call List.mem_cons_self, ?_⟩
    rw [(neutral call List.mem_cons_self).loan]
    exact ih (fun c member => neutral c (List.mem_cons_of_mem _ member))
      fun c member => used c (List.mem_cons_of_mem _ member)

theorem released_of_neutral {calls : List DeviceCall} (neutral : ∀ call ∈ calls, call.Neutral) :
    calls.filterMap released? = [] :=
  List.filterMap_eq_nil_iff.mpr fun call member => (neutral call member).2

theorem loans_compiles {units : List Processor.SourceUnit} {programs held : List Program}
    (each : programs.length = units.length) :
    loans held (compiles units programs) = held ++ programs := by
  induction units generalizing programs held with
  | nil =>
    obtain rfl := List.length_eq_zero_iff.mp each
    simp [loans, compiles]
  | cons u units ih =>
    cases programs with
    | nil => cases each
    | cons program programs =>
      have rest : loans (held ++ [program]) (compiles units programs) = held ++ [program] ++ programs :=
        ih (by simpa using each)
      simpa [loans, compiles, loan] using rest

theorem fresh_compiles {units : List Processor.SourceUnit} {programs held : List Program}
    (each : programs.length = units.length) :
    Fresh held (compiles units programs) ↔ held.Disjoint programs ∧ programs.Nodup := by
  induction units generalizing programs held with
  | nil =>
    obtain rfl := List.length_eq_zero_iff.mp each
    simp [compiles, Fresh, Throughout]
  | cons u units ih =>
    cases programs with
    | nil => cases each
    | cons program programs =>
      have rest : Fresh (held ++ [program]) (compiles units programs) ↔
          (held ++ [program]).Disjoint programs ∧ programs.Nodup := ih (by simpa using each)
      have first : Fresh held (compiles (u :: units) (program :: programs)) ↔
          program ∉ held ∧ Fresh (held ++ [program]) (compiles units programs) := by
        simp [compiles, Fresh, Throughout, issued?, loan]
      rw [first, rest, List.disjoint_append_left, List.disjoint_cons_right, List.nodup_cons]
      simp only [List.singleton_disjoint]
      tauto

theorem loans_releases (held : List Program) (compiled : List CompiledKernel) :
    loans held (releases compiled) = held.filter (· ∉ compiled.map (·.program)) := by
  induction compiled generalizing held with
  | nil => simp [loans, releases]
  | cons c rest ih =>
    have tail := ih (held.filter (· ≠ c.program))
    simp only [loans, releases, List.map_cons, List.foldl_cons, loan] at tail ⊢
    rw [tail, List.filter_filter]
    apply List.filter_congr
    intro q _
    by_cases same : q = c.program <;> simp [same]

theorem lawful_releases {held : List Program} {compiled : List CompiledKernel}
    (nodup : (compiled.map (·.program)).Nodup) (onLoan : ∀ c ∈ compiled, c.program ∈ held) :
    Lawful held (releases compiled) := by
  induction compiled generalizing held with
  | nil => trivial
  | cons c rest ih =>
    rw [List.map_cons, List.nodup_cons] at nodup
    refine ⟨?_, ih nodup.2 ?_⟩
    · rintro program ⟨⟩
      exact onLoan c List.mem_cons_self
    · intro d member
      refine List.mem_filter.mpr ⟨onLoan d (List.mem_cons_of_mem _ member), ?_⟩
      have different : d.program ≠ c.program := fun same =>
        nodup.1 (same ▸ List.mem_map_of_mem member)
      simpa using different

theorem lawful_compiles {units : List Processor.SourceUnit} {programs held : List Program} :
    Lawful held (compiles units programs) := by
  refine throughout_of_forall fun call member held program used => ?_
  obtain ⟨kernel, source, made, rfl⟩ := mem_compiles member
  cases used

theorem fresh_releases {held : List Program} {compiled : List CompiledKernel} :
    Fresh held (releases compiled) := by
  refine throughout_of_forall fun call member held program issued => ?_
  obtain ⟨c, -, rfl⟩ := List.mem_map.mp member
  cases issued

theorem count_released {held : List Program} {calls : List DeviceCall} (program : Program)
    (fresh : Fresh held calls) (lawful : Lawful held calls) (done : loans held calls = []) :
    ((calls.takeWhile fun c => c.issued? ≠ some program).filterMap released?).count program =
      if program ∈ held then 1 else 0 := by
  induction calls generalizing held with
  | nil =>
    obtain rfl : held = [] := done
    rfl
  | cons call rest ih =>
    have tail := ih fresh.2 lawful.2 done
    by_cases again : call.issued? = some program
    · have new : program ∉ held := fresh.1 program again
      simp [again, new]
    · rw [List.takeWhile_cons_of_pos (by simpa using again)]
      by_cases neutral : call.Neutral
      · rw [neutral.loan] at tail
        rw [List.filterMap_cons_none neutral.2, tail]
      · -- What is left is a compile that hands out another program, and a release.
        cases call with
        | compile kernel source answer =>
          cases answer with
          | error e => exact absurd ⟨rfl, rfl⟩ neutral
          | ok q =>
            have other : program ≠ q := fun same => again (same ▸ rfl)
            rw [List.filterMap_cons_none rfl, tail]
            simp [loan, other]
        | release q =>
          have back : (release q).released? = some q := rfl
          rw [List.filterMap_cons_some back, List.count_cons, tail]
          by_cases same : q = program
          · subst same
            have known : q ∈ held := lawful.1 q rfl
            simp [loan, known]
          · have other : program ≠ q := fun h => same h.symm
            simp [loan, same, other]
        | allocate | dispatch | upload | download => exact absurd ⟨rfl, rfl⟩ neutral

theorem released_releases (compiled : List CompiledKernel) :
    (releases compiled).filterMap released? = compiled.map (·.program) := by
  simp [releases, List.filterMap_map, Function.comp_def, released?]

theorem issued_releases (compiled : List CompiledKernel) :
    (releases compiled).filterMap issued? = [] := by
  simp [releases, List.filterMap_map, Function.comp_def, issued?]

theorem released_compiles (units : List Processor.SourceUnit) (programs : List Program) :
    (compiles units programs).filterMap released? = [] := by
  refine List.filterMap_eq_nil_iff.mpr fun call member => ?_
  obtain ⟨kernel, source, made, rfl⟩ := mem_compiles member
  rfl

theorem issued_compiles {units : List Processor.SourceUnit} {programs : List Program}
    (each : programs.length = units.length) : (compiles units programs).filterMap issued? = programs := by
  rw [compiles_eq_map, List.filterMap_map]
  show (units.zip programs).filterMap (fun made => some made.2) = programs
  rw [List.filterMap_eq_map']
  exact List.map_snd_zip (by omega)

end DeviceCall

namespace Processor

open DeviceCall

variable {σ : Type}

theorem launch_program {g : Graph} {storage : List DeviceBuffer} {c : CompiledKernel} {l : Launch}
    (planned : launch g storage c = .ok l) : l.program = c.program := by
  obtain ⟨-, -, -, program, -⟩ := launch_eq_ok.mp planned
  exact program

theorem programs_compiled {units : List SourceUnit} {programs : List Program}
    (each : programs.length = units.length) :
    (List.zipWith SourceUnit.compiled units programs).map (·.program) = programs := by
  rw [← List.map_uncurry_zip_eq_zipWith, List.map_map]
  exact List.map_snd_zip (by omega)

theorem loans_of_failure {first : List SourceUnit} {fresh held : List Program} {kernel source : String}
    {e : Error} (each : fresh.length = first.length)
    (new : Fresh held (compiles first fresh ++
      .compile kernel source (.error e) :: releases (List.zipWith SourceUnit.compiled first fresh))) :
    loans held (compiles first fresh ++
      .compile kernel source (.error e) :: releases (List.zipWith SourceUnit.compiled first fresh)) =
        held := by
  have apart := ((fresh_compiles each).mp (throughout_append.mp new).1).1
  rw [loans_append, loans_compiles each]
  change loans (held ++ fresh) (releases _) = held
  rw [loans_releases, programs_compiled each]
  exact filter_left_of_disjoint apart

def programs (p : Processor σ) : List Program := p.compiled.map (·.program)

/-- The programs on loan are those of the last build. -/
structure Accounts (p : Processor (Recorded σ)) : Prop where
  held : outstanding p.calls = p.programs
  nodup : p.programs.Nodup
  lawful : Lawful [] p.calls

/-- The programs that an action gives back: those of the build that is replaced or lost, and those that a
failing build itself has made. -/
def due (p : Processor (Recorded σ)) (act : Action) (answer : Except Error Unit) (new : List DeviceCall) :
    List Program :=
  match act, answer with
  | .build, .ok _ => p.programs
  | .build, .error _ => new.filterMap issued?
  | .allocate, .error _ => p.programs
  | _, _ => []

structure Balances (p : Processor (Recorded σ)) (act : Action) (answer : Except Error Unit)
    (p' : Processor (Recorded σ)) (new : List DeviceCall) : Prop where
  calls : p'.calls = p.calls ++ new
  released : new.filterMap released? = p.due act answer new
  held : Fresh p.programs new → loans p.programs new = p'.programs
  nodup : Fresh p.programs new → p'.programs.Nodup
  lawful : Fresh p.programs new → Lawful p.programs new

theorem Balances.neutral {p p' : Processor (Recorded σ)} {act : Action} {answer : Except Error Unit}
    {new : List DeviceCall} (nodup : p.programs.Nodup) (calls : p'.calls = p.calls ++ new)
    (same : p'.programs = p.programs) (due : p.due act answer new = [])
    (neutral : ∀ call ∈ new, call.Neutral)
    (used : ∀ call ∈ new, ∀ program, call.used? = some program → program ∈ p.programs) :
    p.Balances act answer p' new where
  calls := calls
  released := (released_of_neutral neutral).trans due.symm
  held _ := by rw [loans_of_neutral neutral, same]
  nodup _ := same ▸ nodup
  lawful _ := lawful_of_neutral neutral used

theorem dispatches_neutral {g : Graph} {storage : List DeviceBuffer} {compiled : List CompiledKernel}
    {calls : List DeviceCall} {answer : Except Error Unit}
    (dispatched : Dispatches (compiled.map (launch g storage)) calls answer) :
    (∀ call ∈ calls, call.Neutral) ∧
      ∀ call ∈ calls, ∀ program, call.used? = some program → program ∈ compiled.map (·.program) := by
  constructor
  · intro call member
    obtain ⟨l, result, rfl, -⟩ := dispatched.planned call member
    exact ⟨rfl, rfl⟩
  · intro call member program used
    obtain ⟨l, result, rfl, known⟩ := dispatched.planned call member
    obtain ⟨c, listed, planned⟩ := List.mem_map.mp known
    cases used
    rw [launch_program planned]
    exact List.mem_map_of_mem listed

theorem Balances.reset {p p' : Processor (Recorded σ)} {e : Error} (nodup : p.programs.Nodup)
    (calls : p'.calls = p.calls ++
      .allocate (descriptions p.graph) (.error e) :: releases p.compiled)
    (none : p'.compiled = []) :
    p.Balances .allocate (.error e) p'
      (.allocate (descriptions p.graph) (.error e) :: releases p.compiled) where
  calls := calls
  released := released_releases p.compiled
  held _ := by
    change loans p.programs (releases p.compiled) = _
    rw [loans_releases]
    simp [programs, none]
  nodup _ := by simp [programs, none]
  lawful _ := by
    refine ⟨by simp [used?], ?_⟩
    exact lawful_releases nodup fun c member => List.mem_map_of_mem member

theorem Balances.build {p p' : Processor (Recorded σ)} {units : List SourceUnit} {fresh : List Program}
    (nodup : p.programs.Nodup) (each : fresh.length = units.length)
    (calls : p'.calls = p.calls ++ (compiles units fresh ++ releases p.compiled))
    (compiled : p'.compiled = List.zipWith SourceUnit.compiled units fresh) :
    p.Balances .build (.ok ()) p' (compiles units fresh ++ releases p.compiled) := by
  have now : p'.programs = fresh := by rw [programs, compiled, programs_compiled each]
  have apart (new : Fresh p.programs (compiles units fresh ++ releases p.compiled)) :
      p.programs.Disjoint fresh ∧ fresh.Nodup := (fresh_compiles each).mp (throughout_append.mp new).1
  refine ⟨calls, ?_, fun new => ?_, fun new => ?_, fun new => ?_⟩
  · rw [List.filterMap_append, released_compiles, released_releases]
    rfl
  · rw [loans_append, loans_compiles each, loans_releases, now]
    exact filter_right_of_disjoint (apart new).1
  · rw [now]
    exact (apart new).2
  · rw [Lawful, throughout_append, loans_compiles each]
    refine ⟨lawful_compiles, lawful_releases nodup fun c member => ?_⟩
    exact List.mem_append_left _ (List.mem_map_of_mem member)

theorem Balances.failure {p p' : Processor (Recorded σ)} {first : List SourceUnit} {u : SourceUnit}
    {fresh : List Program} {e : Error} (nodup : p.programs.Nodup) (each : fresh.length = first.length)
    (calls : p'.calls = p.calls ++ (compiles first fresh ++
      .compile u.kernel.name u.source (.error e) :: releases (List.zipWith SourceUnit.compiled first fresh)))
    (compiled : p'.compiled = p.compiled) :
    p.Balances .build (.error e) p' (compiles first fresh ++
      .compile u.kernel.name u.source (.error e) ::
        releases (List.zipWith SourceUnit.compiled first fresh)) := by
  have same : p'.programs = p.programs := by rw [programs, compiled, programs]
  have made := programs_compiled each
  refine ⟨calls, ?_, fun new => ?_, fun _ => same ▸ nodup, fun new => ?_⟩
  · simp only [due, List.filterMap_append, List.filterMap_cons, released?, issued?, released_compiles,
      issued_compiles each, released_releases, issued_releases, made, List.nil_append, List.append_nil]
  · rw [same]
    exact loans_of_failure each new
  · rw [Lawful, throughout_append, loans_compiles each]
    refine ⟨lawful_compiles, by simp [used?], lawful_releases ?_ fun c member => ?_⟩
    · rw [made]
      exact ((fresh_compiles each).mp (throughout_append.mp new).1).2
    · have known : c.program ∈ fresh := made ▸ List.mem_map_of_mem member
      exact List.mem_append_right _ known

theorem Step.balances {p p' : Processor (Recorded σ)} {act : Action} {answer : Except Error Unit}
    (step : p.Step act answer p') (nodup : p.programs.Nodup) : ∃ new, p.Balances act answer p' new := by
  cases step with
  | edited only _ _ =>
    refine ⟨[], .neutral nodup (List.append_nil _).symm rfl ?_ (by simp) (by simp)⟩
    cases act <;> first | rfl | cases only
  | refused e reaches =>
    refine ⟨[], .neutral nodup (List.append_nil _).symm rfl ?_ (by simp) (by simp)⟩
    cases act <;> first | rfl | exact absurd rfl reaches
  | allocated storage memory =>
    exact ⟨_, .neutral nodup rfl rfl rfl (by simp [Neutral, issued?, released?]) (by simp [used?])⟩
  | unallocated e memory => exact ⟨_, .reset nodup rfl rfl⟩
  | built fresh memory late ready each => exact ⟨_, .build nodup each rfl rfl⟩
  | unbuilt fresh e memory late ready each => exact ⟨_, .failure nodup each rfl rfl⟩
  | ran memory late dispatched =>
    obtain ⟨neutral, used⟩ := dispatches_neutral dispatched
    exact ⟨_, .neutral nodup rfl rfl rfl neutral used⟩
  | halted e memory late dispatched =>
    obtain ⟨neutral, used⟩ := dispatches_neutral dispatched
    exact ⟨_, .neutral nodup rfl rfl rfl neutral used⟩
  | uploaded answer memory stored held =>
    exact ⟨_, .neutral nodup rfl rfl rfl (by simp [Neutral, issued?, released?]) (by simp [used?])⟩
  | downloaded answer data memory stored held =>
    exact ⟨_, .neutral nodup rfl rfl rfl (by simp [Neutral, issued?, released?]) (by simp [used?])⟩

theorem Accounts.next {p p' : Processor (Recorded σ)} {act : Action} {answer : Except Error Unit}
    {new : List DeviceCall} (accounts : Accounts p) (balances : p.Balances act answer p' new)
    (fresh : Fresh p.programs new) : Accounts p' := by
  refine ⟨?_, balances.nodup fresh, ?_⟩
  · rw [outstanding, balances.calls, loans_append]
    change loans (outstanding p.calls) new = _
    rw [accounts.held, balances.held fresh]
  · rw [balances.calls, Lawful, throughout_append]
    refine ⟨accounts.lawful, ?_⟩
    change Lawful (outstanding p.calls) new
    rw [accounts.held]
    exact balances.lawful fresh

theorem accounts_history (a : Adapter σ) (memory : σ) (owner : Owner) (acts : List Action) :
    Fresh [] ((watched a memory owner).play acts).calls →
      Accounts ((watched a memory owner).play acts) ∧
      ∀ e ∈ (watched a memory owner).history acts,
        Accounts e.after ∧ ∃ new, e.before.Balances e.action e.answer e.after new := by
  refine history_induction (a := a) (fun _ => True)
    (motive := fun events p => Fresh [] p.calls → Accounts p ∧ ∀ e ∈ events,
      Accounts e.after ∧ ∃ new, e.before.Balances e.action e.answer e.after new) ?_ ?_ acts (by simp)
  · exact fun _ => ⟨⟨rfl, List.nodup_nil, trivial⟩, by simp⟩
  · intro events p act answer p' _ earlier step fresh
    obtain ⟨more, grown⟩ := step.calls_grow
    have before : Fresh [] p.calls := by
      rw [grown, Fresh, throughout_append] at fresh
      exact fresh.1
    obtain ⟨accounts, all⟩ := earlier before
    obtain ⟨new, balances⟩ := step.balances accounts.nodup
    have after : Fresh p.programs new := by
      rw [balances.calls, Fresh, throughout_append] at fresh
      exact accounts.held ▸ fresh.2
    have now := accounts.next balances after
    refine ⟨now, fun e member => ?_⟩
    rcases List.mem_append.mp member with member | member
    · exact all e member
    · obtain rfl := List.mem_singleton.mp member
      exact ⟨now, new, balances⟩

theorem drop_calls (a : Adapter σ) {p : Processor (Recorded σ)} (recorded : p.adapter = a.recorded) :
    p.drop.calls = p.calls ++ releases p.compiled := by
  rw [drop, releasePrograms, recorded, releaseAll_recorded]
  rfl

/-- Compiled programs are on loan exactly while they are held, and each is released once: by a later
build, by the failing build that made it, by a failed allocation or at the end. -/
theorem programs_released_once (a : Adapter σ) (memory : σ) (owner : Owner) (acts : List Action)
    (fresh : Fresh [] ((watched a memory owner).play acts).calls) :
    let p := (watched a memory owner).play acts
    let life := p.drop.calls
    (outstanding p.calls = p.programs ∧ p.programs.Nodup) ∧
    (∀ e ∈ (watched a memory owner).history acts,
      outstanding e.after.calls = e.after.programs ∧ e.after.programs.Nodup ∧
      e.after.calls = e.before.calls ++ e.calls ∧
      e.calls.filterMap released? = e.before.due e.action e.answer e.calls) ∧
    life = p.calls ++ releases p.compiled ∧
    (∀ earlier call later program, life = earlier ++ call :: later →
      call.used? = some program → program ∈ outstanding earlier) ∧
    (∀ earlier call later program, life = earlier ++ call :: later → call.issued? = some program →
      ((later.takeWhile fun c => c.issued? ≠ some program).filterMap released?).count program = 1) ∧
    outstanding life = [] := by
  intro p life
  obtain ⟨accounts, all⟩ : Accounts p ∧ _ := accounts_history a memory owner acts fresh
  have ended : life = p.calls ++ releases p.compiled :=
    drop_calls a (play_adapter (p := watched a memory owner) rfl acts)
  -- The end is one more action, which gives back all that is held.
  have returned : Lawful p.programs (releases p.compiled) :=
    lawful_releases accounts.nodup fun c member => List.mem_map_of_mem member
  have lawful : Lawful [] life := by
    rw [ended, Lawful, throughout_append]
    exact ⟨accounts.lawful, by rw [← accounts.held] at returned; exact returned⟩
  have issued : Fresh [] life := by
    rw [ended, Fresh, throughout_append]
    exact ⟨fresh, fresh_releases⟩
  have done : outstanding life = [] := by
    rw [ended, outstanding, loans_append]
    change loans (outstanding p.calls) _ = []
    rw [accounts.held, loans_releases]
    simp [programs]
  refine ⟨⟨accounts.held, accounts.nodup⟩, ?_, ended, ?_, ?_, done⟩
  · intro e member
    obtain ⟨accounts, new, balances⟩ := all e member
    have made : e.calls = new := Event.calls_eq balances.calls
    exact ⟨accounts.held, accounts.nodup, made ▸ balances.calls, made ▸ balances.released⟩
  · intro earlier call later program split
    exact lawful.at split program
  · intro earlier call later program split handed
    rw [split, Fresh, throughout_append] at issued
    rw [split, Lawful, throughout_append] at lawful
    rw [split, outstanding, loans_append] at done
    rw [count_released program issued.2.2 lawful.2.2 done]
    simp [loan_of_issued handed]

def rebuilds : List Action :=
  Action.twoKernels ++
    [.build, .run, .editKernel ⟨⟨0⟩, 1⟩ (.setSource "__kernel #error"), .build,
      .editKernel ⟨⟨0⟩, 1⟩ (.setSource "__kernel"), .build, .run]

theorem programs_released_once_rebuilt :
    let p := (watched (HostMemory.adapter .openCL) .twoKernels ⟨0⟩).play rebuilds
    Fresh [] p.calls ∧ (p.calls.filterMap issued?).length = 5 ∧
      (p.calls.filterMap released?).length = 3 ∧ outstanding p.calls = p.programs ∧
      outstanding p.drop.calls = [] := by
  have fresh :
      Fresh [] ((watched (HostMemory.adapter .openCL) .twoKernels ⟨0⟩).play rebuilds).calls := by
    decide +kernel
  have once := programs_released_once (HostMemory.adapter .openCL) .twoKernels ⟨0⟩ rebuilds fresh
  exact ⟨fresh, by decide +kernel, by decide +kernel, once.1.1, once.2.2.2.2.2⟩

end Processor

end PixelPipeline
