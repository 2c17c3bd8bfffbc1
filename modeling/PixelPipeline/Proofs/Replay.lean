import PixelPipeline.Proofs.Session

/-!
The memory of a device from the record of its calls. Main statement: every action changes the memory by the
calls that it adds to the record, one after another.
-/
namespace PixelPipeline

variable {σ : Type} {a : Adapter σ}

inductive Adapter.Answers (a : Adapter σ) : σ → DeviceCall → σ → Prop
  | allocate {m m' : σ} {buffers : List BufferDescription} {answer : Except Error (List DeviceBuffer)}
      (h : a.allocate buffers m = (answer, m')) : a.Answers m (.allocate buffers answer) m'
  | compile {m m' : σ} {kernel source : String} {answer : Except Error Program}
      (h : a.compile kernel source m = (answer, m')) : a.Answers m (.compile kernel source answer) m'
  | release (m : σ) (program : Program) : a.Answers m (.release program) (a.release program m)
  | dispatch {m m' : σ} {launch : Launch} {answer : Except Error Unit}
      (h : a.dispatch launch m = (answer, m')) : a.Answers m (.dispatch launch answer) m'
  | upload {m m' : σ} {buffer : DeviceBuffer} {data : Array Single} {answer : Except Error Unit}
      (h : a.upload buffer data m = (answer, m')) : a.Answers m (.upload buffer data answer) m'
  | download {m m' : σ} {n : Nat} {buffer : DeviceBuffer} {host data : Vector Single n}
      {answer : Except Error Unit} (h : a.download buffer host m = (answer, data, m')) :
      a.Answers m (.download buffer n (answer.map fun _ => data.toArray)) m'

/-- The device answers some calls, one after another. -/
inductive Adapter.Serves (a : Adapter σ) : σ → List DeviceCall → σ → Prop
  | nil (m : σ) : a.Serves m [] m
  | cons {m between m' : σ} {call : DeviceCall} {calls : List DeviceCall} (first : a.Answers m call between)
      (later : a.Serves between calls m') : a.Serves m (call :: calls) m'

namespace Adapter.Serves

variable {m m' : σ} {call : DeviceCall} {xs ys : List DeviceCall}

theorem nil_iff : a.Serves m [] m' ↔ m' = m := by
  constructor
  · intro served
    cases served
    rfl
  · rintro rfl
    exact .nil m'

theorem cons_iff : a.Serves m (call :: xs) m' ↔ ∃ between, a.Answers m call between ∧ a.Serves between xs m' := by
  constructor
  · intro served
    cases served with
    | cons first later => exact ⟨_, first, later⟩
  · rintro ⟨between, first, later⟩
    exact .cons first later

theorem append_iff : a.Serves m (xs ++ ys) m' ↔ ∃ between, a.Serves m xs between ∧ a.Serves between ys m' := by
  induction xs generalizing m with
  | nil => simp [nil_iff]
  | cons call xs ih =>
    simp only [List.cons_append, cons_iff, ih]
    constructor
    · rintro ⟨next, first, between, early, late⟩
      exact ⟨between, ⟨next, first, early⟩, late⟩
    · rintro ⟨between, ⟨next, first, early⟩, late⟩
      exact ⟨next, first, between, early, late⟩

end Adapter.Serves

def Recorded.Leads (a : Adapter σ) (r s : Recorded σ) : Prop :=
  ∃ new, s.calls = r.calls ++ new ∧ a.Serves r.memory new s.memory

namespace Recorded.Leads

variable {r s u : Recorded σ}

theorem refl (r : Recorded σ) : Leads a r r := ⟨[], (List.append_nil _).symm, .nil _⟩

theorem trans (first : Leads a r s) (last : Leads a s u) : Leads a r u := by
  obtain ⟨xs, early, served⟩ := first
  obtain ⟨ys, late, later⟩ := last
  exact ⟨xs ++ ys, by rw [late, early, List.append_assoc], Adapter.Serves.append_iff.mpr ⟨_, served, later⟩⟩

theorem note {call : DeviceCall} {memory : σ} (answered : a.Answers r.memory call memory) :
    Leads a r (r.note memory call) :=
  ⟨[call], rfl, .cons answered (.nil _)⟩

theorem serves {new : List DeviceCall} (leads : Leads a r s) (added : s.calls = r.calls ++ new) :
    a.Serves r.memory new s.memory := by
  obtain ⟨calls, same, served⟩ := leads
  rw [added, List.append_cancel_left_eq] at same
  exact same ▸ served

end Recorded.Leads

namespace Processor

theorem releaseAll_leads (compiled : List CompiledKernel) (r : Recorded σ) :
    r.Leads a (releaseAll a.recorded compiled r) := by
  induction compiled generalizing r with
  | nil => exact .refl r
  | cons c rest ih => exact (Recorded.Leads.note (.release r.memory c.program)).trans (ih _)

theorem compileAll_leads (done : List CompiledKernel) (units : List SourceUnit) (r : Recorded σ) :
    r.Leads a (compileAll a.recorded done units r).2 := by
  induction units generalizing done r with
  | nil => exact .refl r
  | cons u rest ih =>
    cases h : a.compile u.kernel.name u.source r.memory with
    | mk answer memory =>
      have call := Adapter.recorded_compile h
      have first : r.Leads a (r.note memory (.compile u.kernel.name u.source answer)) := .note (.compile h)
      cases answer with
      | error e =>
        simp only [compileAll, call]
        exact first.trans (releaseAll_leads done _)
      | ok program =>
        simp only [compileAll, call]
        exact first.trans (ih _ _)

theorem dispatchAll_leads (g : Graph) (storage : List DeviceBuffer) (compiled : List CompiledKernel)
    (r : Recorded σ) : r.Leads a (dispatchAll a.recorded g storage compiled r).2 := by
  induction compiled generalizing r with
  | nil => exact .refl r
  | cons c rest ih =>
    cases planned : launch g storage c with
    | error e =>
      simp only [dispatchAll, planned]
      exact .refl r
    | ok l =>
      cases h : a.dispatch l r.memory with
      | mk answer memory =>
        have call := Adapter.recorded_dispatch h
        have first : r.Leads a (r.note memory (.dispatch l answer)) := .note (.dispatch h)
        cases answer with
        | error e =>
          simp only [dispatchAll, planned, call]
          exact first
        | ok _ =>
          simp only [dispatchAll, planned, call]
          exact first.trans (ih _)

variable {p : Processor (Recorded σ)}

theorem onGraph_leads (edit : Graph → Except Error (Unit × Graph)) :
    p.memory.Leads a (p.onGraph edit).2.memory := by
  unfold onGraph
  split <;> exact .refl _

theorem allocate_leads (recorded : p.adapter = a.recorded) : p.memory.Leads a p.allocate.2.memory := by
  obtain ⟨adapter, r, g, stage, storage, compiled⟩ := p
  subst recorded
  cases h : a.allocate (descriptions g) r.memory with
  | mk answer memory =>
    have call := Adapter.recorded_allocate h
    have first : r.Leads a (r.note memory (.allocate (descriptions g) answer)) := .note (.allocate h)
    cases answer with
    | ok storage =>
      simp only [allocate, call]
      exact first
    | error e =>
      simp only [allocate, call, releasePrograms]
      exact first.trans (releaseAll_leads compiled _)

theorem build_leads (recorded : p.adapter = a.recorded) : p.memory.Leads a p.build.2.memory := by
  obtain ⟨adapter, r, g, stage, storage, compiled⟩ := p
  subst recorded
  unfold build
  split
  · exact .refl r
  · split
    · exact .refl r
    · rename_i units ready
      have compiling : r.Leads a (compileAll a.recorded [] units r).2 := compileAll_leads [] units r
      cases h : compileAll a.recorded [] units r with
      | mk answer memory =>
        rw [h] at compiling
        cases answer with
        | error e => exact compiling
        | ok new => exact compiling.trans (releaseAll_leads compiled memory)

theorem run_leads (recorded : p.adapter = a.recorded) : p.memory.Leads a p.run.2.memory := by
  obtain ⟨adapter, r, g, stage, storage, compiled⟩ := p
  subst recorded
  unfold run
  split
  · exact .refl r
  · have dispatching : r.Leads a (dispatchAll a.recorded g storage compiled r).2 :=
      dispatchAll_leads g storage compiled r
    cases h : dispatchAll a.recorded g storage compiled r with
    | mk answer memory =>
      rw [h] at dispatching
      cases answer <;> exact dispatching

theorem upload_leads (recorded : p.adapter = a.recorded) (id : BufferId) :
    p.memory.Leads a (p.upload id).2.memory := by
  obtain ⟨adapter, r, g, stage, storage, compiled⟩ := p
  subst recorded
  unfold upload
  split
  · exact .refl r
  · rename_i d b found
    cases h : a.upload d b.data r.memory with
    | mk answer memory =>
      simp only [Adapter.recorded_upload h]
      exact .note (.upload h)

theorem download_leads (recorded : p.adapter = a.recorded) (id : BufferId) :
    p.memory.Leads a (p.download id).2.memory := by
  obtain ⟨adapter, r, g, stage, storage, compiled⟩ := p
  subst recorded
  unfold download
  split
  · exact .refl r
  · rename_i d b found
    cases h : a.download d b.data.toVector r.memory with
    | mk answer rest =>
      obtain ⟨data, memory⟩ := rest
      simp only [Adapter.recorded_download h]
      exact .note (.download h)

theorem perform_leads (recorded : p.adapter = a.recorded) (act : Action) :
    p.memory.Leads a (p.perform act).2.memory := by
  cases act with
  | setDimensions width height =>
    simp only [perform, setDimensions]
    split
    · exact onGraph_leads _
    · exact .refl _
  | createBuffer | createKernel | editBuffer | editKernel | replaceBuffer | replaceKernel =>
    exact onGraph_leads _
  | allocate => exact allocate_leads recorded
  | build => exact build_leads recorded
  | run => exact run_leads recorded
  | upload id => exact upload_leads recorded id
  | download id => exact download_leads recorded id

theorem served_induction {motive : List (Event (Recorded σ)) → Processor (Recorded σ) → Prop} {memory : σ}
    {owner : Owner} (start : motive [] (watched a memory owner))
    (next : ∀ events p act answer p', motive events p → p.Step act answer p' → p.memory.Leads a p'.memory →
      motive (events ++ [⟨p, act, answer, p'⟩]) p')
    (acts : List Action) :
    motive ((watched a memory owner).history acts) ((watched a memory owner).play acts) := by
  induction acts using List.reverseRecOn with
  | nil => exact start
  | append_singleton acts act ih =>
    rw [history_concat, play_concat]
    exact next _ _ act _ _ ih (play_step a memory owner acts act) (perform_leads (play_adapter rfl acts) act)

end Processor

end PixelPipeline
