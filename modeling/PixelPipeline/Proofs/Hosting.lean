import PixelPipeline.Proofs.HostTables
import PixelPipeline.Proofs.LastBuild

namespace PixelPipeline

def HostMemory.initial (m : HostMemory) : HostMemory :=
  { m with buffers := .empty, programs := .empty, events := [] }

namespace Processor

open DeviceCall Event HostMemory

variable {environment : Environment} {settings : HostMemory} {events : List (Event (Recorded HostMemory))}
  {p p' : Processor (Recorded HostMemory)} {act : Action} {answer : Except Error Unit} {new : List DeviceCall}

structure Hosted (settings : HostMemory) (events : List (Event (Recorded HostMemory)))
    (p : Processor (Recorded HostMemory)) : Prop where
  follows : Follows events p
  sound : p.memory.memory.Sound
  routines : p.memory.memory.routines = settings.routines
  distinct : p.storage.Nodup
  loaded : p.stage = .built ∨ p.stage = .ready → ∃ build units programs,
    BuiltFrom events build units programs p ∧
    List.Forall₂ (fun u program => p.memory.memory.programs.get? program.key = some u.kernel.name) units programs

section

variable (step : p.Step act answer p')
  (served : (HostMemory.adapter environment).Serves p.memory.memory new p'.memory.memory)
  (added : p'.calls = p.calls ++ new) (room : p'.memory.memory.InRange) (sound : p.memory.memory.Sound)

include step served added room sound

theorem Step.storage_nodup (distinct : p.storage.Nodup) : p'.storage.Nodup := by
  cases step with
  | allocated storage memory =>
    obtain rfl := List.append_cancel_left added
    obtain ⟨_, first, rest⟩ := Adapter.Serves.cons_iff.mp served
    obtain rfl := Adapter.Serves.nil_iff.mp rest
    exact (effect_of_answers first).1.storage_nodup sound room.1
  | unallocated => exact List.nodup_nil
  | edited | refused | built | unbuilt | ran | halted | uploaded | downloaded => exact distinct

theorem Step.keeps_programs {key : SlotKey} {name : String}
    (unbuilt : (⟨p, act, answer, p'⟩ : Event (Recorded HostMemory)).built = false)
    (late : p'.stage = .built ∨ p'.stage = .ready)
    (there : p.memory.memory.programs.get? key = some name) :
    p'.memory.memory.programs.get? key = some name := by
  refine loaded_of_serves served room sound there fun call member => ?_
  cases step with
  | edited | refused =>
    obtain rfl := List.self_eq_append_right.mp added
    cases member
  | unallocated => simp at late
  | built => cases unbuilt
  | allocated | uploaded | downloaded =>
    obtain rfl := List.append_cancel_left added
    obtain rfl := List.mem_singleton.mp member
    simp
  | ran memory late dispatched =>
    obtain rfl := List.append_cancel_left added
    obtain ⟨_, _, rfl, -⟩ := dispatched.planned call member
    simp
  | halted fault memory late dispatched =>
    obtain rfl := List.append_cancel_left added
    obtain ⟨_, _, rfl, -⟩ := dispatched.planned call member
    simp
  | @unbuilt first u rest programs fault memory late ready each =>
    obtain rfl := List.append_cancel_left added
    obtain ⟨between, compiling, later⟩ := Adapter.Serves.append_iff.mp served
    -- What is released was compiled by the same step, and so was not there before.
    have fresh := (loaded_of_compiles compiling (room.before later) sound each).2
    rcases List.mem_append.mp member with compiled | released
    · obtain ⟨_, _, _, rfl⟩ := mem_compiles compiled
      simp
    · rcases List.mem_cons.mp released with rfl | released
      · simp
      · rw [releases_compiled each] at released
        obtain ⟨program, listed, rfl⟩ := List.mem_map.mp released
        rintro ⟨rfl⟩
        have absent := fresh _ listed
        rw [there] at absent
        cases absent

end

theorem Hosted.program_of_compiled (hosted : Hosted settings events p) {c : CompiledKernel}
    (member : c ∈ p.compiled) : ∃ name, p.memory.memory.programs.get? c.program.key = some name := by
  by_cases late : p.stage = .built ∨ p.stage = .ready
  · obtain ⟨build, units, programs, made, loaded⟩ := hosted.loaded late
    rw [made.compiled, ← List.map_uncurry_zip_eq_zipWith] at member
    obtain ⟨pair, listed, rfl⟩ := List.mem_map.mp member
    exact ⟨_, (List.forall₂_iff_zip.mp loaded).2 listed⟩
  · have early : p.stage = .created ∨ p.stage = .allocated := by
      cases h : p.stage <;> simp_all
    rw [hosted.follows.compiled early] at member
    cases member

theorem Hosted.step (hosted : Hosted settings events p) (step : p.Step act answer p')
    (leads : p.memory.Leads (HostMemory.adapter environment) p'.memory) (room : p'.memory.memory.InRange) :
    Hosted settings (events ++ [⟨p, act, answer, p'⟩]) p' := by
  obtain ⟨new, added, served⟩ := leads
  refine ⟨hosted.follows.step step, sound_of_serves served room hosted.sound,
    (routines_of_serves served room hosted.sound).trans hosted.routines,
    step.storage_nodup served added room hosted.sound hosted.distinct, fun late => ?_⟩
  rcases step.builds late with ⟨units, programs, calls, made⟩ | ⟨before, same, unbuilt⟩
  -- The new programs stay as the old ones go: the device held the old ones before, and never the new.
  · have built := made events
    obtain rfl := List.append_cancel_left (added.symm.trans calls)
    obtain ⟨between, compiling, releasing⟩ := Adapter.Serves.append_iff.mp served
    have early := room.before releasing
    obtain ⟨names, fresh⟩ := loaded_of_compiles compiling early hosted.sound built.each
    have sound := sound_of_serves compiling early hosted.sound
    refine ⟨_, units, programs, built, ?_⟩
    rw [List.forall₂_iff_zip] at names ⊢
    refine ⟨names.1, fun {u program} listed => ?_⟩
    refine loaded_of_serves releasing room sound (names.2 listed) fun call member => ?_
    obtain ⟨c, compiled, rfl⟩ := List.mem_map.mp member
    obtain ⟨name, there⟩ := hosted.program_of_compiled compiled
    intro released
    have same : c.program.key = program.key := congrArg (·.key) (DeviceCall.release.inj released)
    have absent := fresh program (List.of_mem_zip listed).2
    rw [← same, there] at absent
    cases absent
  · obtain ⟨build, units, programs, made, loaded⟩ := hosted.loaded before
    exact ⟨build, units, programs, made.kept unbuilt same, loaded.imp fun _ _ there =>
      step.keeps_programs served added room hosted.sound unbuilt late there⟩

theorem hosted_history (environment : Environment) (settings : HostMemory) (owner : Owner) (acts : List Action) :
    let p := (watched (HostMemory.adapter environment) settings.initial owner).play acts
    p.memory.memory.InRange →
      Hosted settings ((watched (HostMemory.adapter environment) settings.initial owner).history acts) p := by
  refine served_induction (a := HostMemory.adapter environment)
    (motive := fun events p => p.memory.memory.InRange → Hosted settings events p) ?_ ?_ acts
  · intro _
    exact ⟨.start .., ⟨.empty, .empty⟩, rfl, List.nodup_nil, by simp [watched, create]⟩
  · intro events p act answer p' earlier step leads room
    obtain ⟨new, added, served⟩ := leads
    exact (earlier (room.before served)).step step ⟨new, added, served⟩ room

end Processor

end PixelPipeline
