import PixelPipeline.Proofs.Hosting
import PixelPipeline.Proofs.Ledger
import PixelPipeline.Proofs.SlotRuns

namespace PixelPipeline

namespace SlotTable

variable {α : Type} {t : SlotTable α} {keys : List SlotKey} {key : SlotKey}

/-- The table is tidy, and has values under just these keys. -/
structure Stocked (t : SlotTable α) (keys : List SlotKey) : Prop extends Tidy t where
  found : ∀ key, key ∈ keys ↔ (t.get? key).isSome
  nodup : keys.Nodup

theorem Stocked.empty : (empty : SlotTable α).Stocked [] :=
  ⟨Tidy.empty, fun key => by simp [get?, SlotTable.empty], List.nodup_nil⟩

theorem size_of_found (room : t.slots.size ≤ UInt32.size) (found : ∀ key, key ∈ keys ↔ (t.get? key).isSome)
    (nodup : keys.Nodup) : t.size = keys.length := by
  have all := lists_keys room
  have distinct : t.keys.Nodup := by
    refine all.ordered.imp fun {first second} before same => ?_
    subst same
    exact absurd before (UInt32.lt_irrefl _)
  rw [← length_keys]
  exact ((List.perm_ext_iff_of_nodup distinct nodup).mpr fun key =>
    (all.mem_iff key).trans (found key).symm).length_eq

theorem Stocked.size (stocked : t.Stocked keys) : t.size = keys.length :=
  size_of_found stocked.room.le stocked.found stocked.nodup

theorem Stocked.insert (stocked : t.Stocked keys) (value : α) (few : keys.length + 1 < UInt32.size) :
    (t.insert value).2.Stocked (keys ++ [(t.insert value).1]) := by
  have room := stocked.insert_room value
  have inserted (other : SlotKey) : (t.insert value).2.get? other =
      if other = (t.insert value).1 then some value else t.get? other := get?_insert stocked.toSound room
  have found : ∀ other, other ∈ keys ++ [(t.insert value).1] ↔ ((t.insert value).2.get? other).isSome := by
    intro other
    rw [inserted, List.mem_append, List.mem_singleton, stocked.found]
    by_cases here : other = (t.insert value).1 <;> simp [here]
  have new : (t.insert value).1 ∉ keys := by
    rw [stocked.found, get?_insert_key stocked.toSound room]
    simp
  have nodup : (keys ++ [(t.insert value).1]).Nodup :=
    List.Nodup.append stocked.nodup (List.nodup_singleton _) (by simpa using new)
  refine ⟨stocked.toTidy.insert ?_, found, nodup⟩
  rw [size_of_found room found nodup, List.length_append]
  exact few

theorem Stocked.modify (stocked : t.Stocked keys) (change : α → α) : (t.modify key change).Stocked keys := by
  refine ⟨stocked.toTidy.modify change, fun other => ?_, stocked.nodup⟩
  rw [stocked.found, get?_modify]
  split
  · rename_i same
    rw [same, Option.isSome_map]
  · rfl

theorem Stocked.remove (stocked : t.Stocked keys) : (t.remove key).2.Stocked (keys.erase key) := by
  refine ⟨stocked.toTidy.remove, fun other => ?_, stocked.nodup.erase key⟩
  rw [stocked.nodup.mem_erase_iff, stocked.found, get?_remove]
  by_cases here : other = key <;> simp [here]

theorem Stocked.drain (stocked : t.Stocked keys) : t.drain.2.Stocked [] :=
  ⟨stocked.toTidy.drain, fun key => by simp [get?_drain], List.nodup_nil⟩

end SlotTable

def DeviceCall.lend (storage : List DeviceBuffer) : DeviceCall → List DeviceBuffer
  | .allocate _ (.ok handles) => handles
  | .allocate _ (.error _) => []
  | .compile .. | .release _ | .dispatch .. | .upload .. | .download .. => storage

def DeviceCall.Indexed : DeviceCall → Prop
  | .allocate buffers _ => buffers.length < UInt32.size
  | _ => True

namespace HostMemory

variable {environment : Environment} {m m' : HostMemory} {call : DeviceCall} {calls : List DeviceCall}
  {keys : List SlotKey} {storage : List DeviceBuffer} {held : List Program}

def kept (m : HostMemory) (descriptions : List BufferDescription) : List BufferDescription :=
  match m.truncate with
  | some n => descriptions.take n
  | none => descriptions

theorem length_kept (m : HostMemory) (descriptions : List BufferDescription) :
    (m.kept descriptions).length ≤ descriptions.length := by
  unfold kept
  split
  · exact List.length_take_le' _ _
  · exact le_refl _

theorem allocate_of_answers {descriptions : List BufferDescription} {answer : Except Error (List DeviceBuffer)}
    (answered : (adapter environment).Answers m (.allocate descriptions answer) m') :
    (m.failAllocate = true ∧ answer = .error (.device "out of device memory") ∧
      m'.buffers = m.buffers.drain.2) ∨
    (m.failAllocate = false ∧
      answer = .ok ((reserve (m.kept descriptions) m.buffers.drain.2).1.map .mk) ∧
      m'.buffers = (reserve (m.kept descriptions) m.buffers.drain.2).2) := by
  cases answered with
  | allocate h =>
    simp only [adapter, HostMemory.allocate] at h
    split at h
    · rename_i fails
      cases h
      exact .inl ⟨fails, rfl, rfl⟩
    · rename_i fails
      cases h
      exact .inr ⟨by simpa using fails, rfl, rfl⟩

theorem stocked_reserve (descriptions : List BufferDescription) {t : SlotTable (Array Single)}
    (stocked : t.Stocked keys) (few : keys.length + descriptions.length < UInt32.size) :
    (reserve descriptions t).2.Stocked (keys ++ (reserve descriptions t).1) := by
  induction descriptions generalizing t keys with
  | nil => simpa [reserve] using stocked
  | cons d rest ih =>
    rw [List.length_cons] at few
    have first := stocked.insert (Array.replicate d.size.toNat .zero) (by omega)
    have later := ih first (by simp only [List.length_append, List.length_singleton]; omega)
    rw [reserve_cons]
    simpa using later

theorem reserve_holds (descriptions : List BufferDescription) {t : SlotTable (Array Single)}
    (stocked : t.Stocked keys) (few : keys.length + descriptions.length < UInt32.size) :
    (∀ key ∈ keys, (reserve descriptions t).2.get? key = t.get? key) ∧
      List.Forall₂ (fun d key => (reserve descriptions t).2.get? key = some (.replicate d.size.toNat .zero))
        descriptions (reserve descriptions t).1 := by
  induction descriptions generalizing t keys with
  | nil => exact ⟨fun _ _ => rfl, .nil⟩
  | cons d rest ih =>
    rw [List.length_cons] at few
    let zeros : Array Single := .replicate d.size.toNat .zero
    have first := stocked.insert zeros (by omega)
    have inserted (key : SlotKey) : (t.insert zeros).2.get? key =
        if key = (t.insert zeros).1 then some zeros else t.get? key :=
      SlotTable.get?_insert stocked.toSound (stocked.insert_room zeros)
    obtain ⟨kept, filled⟩ := ih first (by simp only [List.length_append, List.length_singleton]; omega)
    rw [reserve_cons]
    refine ⟨fun key member => ?_, .cons ?_ filled⟩
    · have new : (t.insert zeros).1 ∉ keys := fun member =>
        List.disjoint_of_nodup_append first.nodup member (List.mem_singleton_self _)
      have other : key ≠ (t.insert zeros).1 := fun same => new (same ▸ member)
      exact (kept key (List.mem_append_left _ member)).trans ((inserted key).trans (if_neg other))
    · have last := List.mem_append_right keys (List.mem_singleton_self (t.insert zeros).1)
      exact (kept _ last).trans ((inserted _).trans (if_pos rfl))

theorem stocked_store {results : List (String × Array Single)} {outputs : List (String × DeviceBuffer)}
    {t : SlotTable (Array Single)} (stocked : t.Stocked keys) : (store results outputs t).Stocked keys := by
  induction outputs generalizing t with
  | nil => exact stocked
  | cons first rest ih => exact ih (stocked.modify _)

theorem stocked_buffers (answered : (adapter environment).Answers m call m')
    (stocked : m.buffers.Stocked (storage.map (·.key))) (indexed : call.Indexed) :
    m'.buffers.Stocked ((call.lend storage).map (·.key)) := by
  by_cases allocates : ∃ descriptions answer, call = .allocate descriptions answer
  · obtain ⟨descriptions, answer, rfl⟩ := allocates
    rcases allocate_of_answers answered with ⟨-, rfl, buffers⟩ | ⟨-, rfl, buffers⟩
    · rw [buffers]
      exact stocked.drain
    · have few : (m.kept descriptions).length < UInt32.size := (m.length_kept _).trans_lt indexed
      have reserved := stocked_reserve (m.kept descriptions) stocked.drain (by simpa using few)
      rw [buffers]
      simpa [DeviceCall.lend, Function.comp_def] using reserved
  · have effect := (effect_of_answers answered).1
    generalize m'.buffers = buffers at effect ⊢
    generalize m'.programs = programs at effect
    have same : call.lend storage = storage := by
      cases call with
      | allocate => exact absurd ⟨_, _, rfl⟩ allocates
      | _ => rfl
    rw [same]
    cases effect with
    | allocated | unallocated => exact absurd ⟨_, _, rfl⟩ allocates
    | quiet | compiled | released => exact stocked
    | dispatched => exact stocked_store stocked
    | uploaded => exact stocked.modify _

theorem stocked_programs (answered : (adapter environment).Answers m call m')
    (stocked : m.programs.Stocked (held.map (·.key)))
    (few : held.length + call.issued?.toList.length < UInt32.size) :
    (∀ program, call.issued? = some program → program ∉ held) ∧
      m'.programs.Stocked ((call.loan held).map (·.key)) := by
  have effect := (effect_of_answers answered).1
  generalize m'.buffers = buffers at effect
  generalize m'.programs = programs at effect ⊢
  cases effect with
  | allocated | unallocated | dispatched | uploaded => exact ⟨by simp [DeviceCall.issued?], stocked⟩
  | quiet same =>
    cases call with
    | allocate | release => cases same
    | compile _ _ answer =>
      cases answer with
      | error e => exact ⟨by simp [DeviceCall.issued?], stocked⟩
      | ok _ => cases same
    | dispatch | upload | download => exact ⟨by simp [DeviceCall.issued?], stocked⟩
  | compiled kernel source =>
    have next := stocked.insert kernel (by simpa [DeviceCall.issued?] using few)
    refine ⟨?_, by simpa [DeviceCall.loan] using next⟩
    rintro program ⟨⟩ member
    have absent := SlotTable.get?_insert_key stocked.toSound (stocked.insert_room kernel)
    have there := (stocked.found _).mp (List.mem_map_of_mem member)
    rw [absent] at there
    cases there
  | released program =>
    refine ⟨by simp [DeviceCall.issued?], ?_⟩
    have rest : (DeviceCall.loan held (.release program)).map (·.key) = (held.map (·.key)).erase program.key := by
      rw [stocked.nodup.erase_eq_filter, List.filter_map, DeviceCall.loan]
      refine congrArg (List.map _) (List.filter_congr fun q _ => ?_)
      have same : q = program ↔ q.key = program.key := ⟨congrArg _, congrArg Program.mk⟩
      by_cases here : q.key = program.key <;> simp [same, here]
    rw [rest]
    exact stocked.remove

theorem stocked_buffers_of_serves (served : (adapter environment).Serves m calls m')
    (stocked : m.buffers.Stocked (storage.map (·.key))) (indexed : ∀ call ∈ calls, call.Indexed) :
    m'.buffers.Stocked ((calls.foldl DeviceCall.lend storage).map (·.key)) := by
  induction served generalizing storage with
  | nil => exact stocked
  | cons first _ ih =>
    obtain ⟨here, later⟩ := List.forall_mem_cons.mp indexed
    exact ih (stocked_buffers first stocked here) later

theorem stocked_programs_of_serves (served : (adapter environment).Serves m calls m')
    (stocked : m.programs.Stocked (held.map (·.key)))
    (few : held.length + (calls.filterMap DeviceCall.issued?).length < UInt32.size) :
    DeviceCall.Fresh held calls ∧ m'.programs.Stocked ((DeviceCall.loans held calls).map (·.key)) := by
  induction served generalizing held with
  | nil => exact ⟨trivial, stocked⟩
  | @cons _ _ _ call calls first _ ih =>
    have count : ((call :: calls).filterMap DeviceCall.issued?).length =
        call.issued?.toList.length + (calls.filterMap DeviceCall.issued?).length := by
      cases issued : call.issued? <;> simp [issued, Nat.add_comm]
    rw [count] at few
    obtain ⟨new, next⟩ := stocked_programs first stocked (by omega)
    have grown : (call.loan held).length ≤ held.length + call.issued?.toList.length := by
      cases issued : call.issued? with
      | some program => simp [DeviceCall.loan_of_issued issued]
      | none =>
        cases call with
        | compile kernel source answer => cases answer <;> simp_all [DeviceCall.issued?, DeviceCall.loan]
        | release program => exact (List.length_filter_le _ _).trans (Nat.le_add_right _ _)
        | allocate | dispatch | upload | download => exact Nat.le_add_right _ _
    obtain ⟨fresh, last⟩ := ih next (by omega)
    exact ⟨⟨new, fresh⟩, last⟩

end HostMemory

namespace Processor

open PixelPipeline.HostMemory Outcome

variable {environment : Environment} {settings : HostMemory} {p p' : Processor (Recorded HostMemory)}
  {act : Action} {answer : Except Error Unit} {new : List DeviceCall}

theorem foldl_lend {calls : List DeviceCall} {storage : List DeviceBuffer}
    (none : ∀ call ∈ calls, call.lend storage = storage) : calls.foldl DeviceCall.lend storage = storage := by
  induction calls with
  | nil => rfl
  | cons call rest ih =>
    obtain ⟨first, later⟩ := List.forall_mem_cons.mp none
    rw [List.foldl_cons, first]
    exact ih later

theorem Step.lends (step : p.Step act answer p') (added : p'.calls = p.calls ++ new) :
    new.foldl DeviceCall.lend p.storage = p'.storage := by
  -- Only an allocation changes what is lent; all that it does besides is to release programs.
  by_cases here : act = .allocate
  · subst here
    cases step with
    | edited only => cases only
    | refused fault reaches => exact absurd rfl reaches
    | allocated =>
      obtain rfl := List.append_cancel_left added
      rfl
    | unallocated =>
      obtain rfl := List.append_cancel_left added
      have released : (DeviceCall.releases p.compiled).foldl DeviceCall.lend [] = [] := by
        refine foldl_lend fun call member => ?_
        obtain ⟨c, -, rfl⟩ := List.mem_map.mp member
        rfl
      exact released
  · have same : p'.storage = p.storage := by
      cases step with
      | allocated | unallocated => exact absurd rfl here
      | _ => rfl
    rw [same]
    refine foldl_lend fun call member => ?_
    cases step.asks added call member with
    | allocate => exact absurd rfl here
    | _ => rfl

theorem length_of_prepareAll {units : List SourceUnit} (late : p.stage ≠ .created)
    (ready : p.prepareAll p.graph.kernelEntries = .ok units) : units.length = p.graph.kernels.length := by
  have each := (assembled_of_prepareAll late ready).length_eq
  rw [← kernelEntries_kernels, List.length_map, each]

theorem Step.length_issued (step : p.Step act answer p') (added : p'.calls = p.calls ++ new) :
    (new.filterMap DeviceCall.issued?).length ≤ p.graph.kernels.length := by
  by_cases here : act = .build
  · subst here
    cases step with
    | edited only => cases only
    | refused =>
      obtain rfl := List.self_eq_append_right.mp added
      exact Nat.zero_le _
    | built programs memory late ready each =>
      obtain rfl := List.append_cancel_left added
      rw [List.filterMap_append, DeviceCall.issued_compiles each, DeviceCall.issued_releases, List.append_nil, each]
      exact (length_of_prepareAll late ready).le
    | @unbuilt first u rest programs fault memory late ready each =>
      obtain rfl := List.append_cancel_left added
      have all := length_of_prepareAll late ready
      rw [List.length_append] at all
      rw [List.filterMap_append, DeviceCall.issued_compiles each, List.filterMap_cons_none rfl,
        DeviceCall.issued_releases, List.append_nil, each]
      omega
  · have none : new.filterMap DeviceCall.issued? = [] := by
      refine List.filterMap_eq_nil_iff.mpr fun call member => ?_
      cases step.asks added call member with
      | compile => exact absurd rfl here
      | _ => rfl
    rw [none]
    exact Nat.zero_le _

theorem Step.length_compiled (step : p.Step act answer p') (few : p.compiled.length ≤ p.graph.kernels.length) :
    p'.compiled.length ≤ p'.graph.kernels.length := by
  have grown := step.graph_grows.2.2
  cases step with
  | unallocated => exact Nat.zero_le _
  | built programs memory late ready each =>
    have all := length_of_prepareAll late ready
    simp only [List.length_zipWith]
    omega
  | _ => exact few.trans grown

variable (environment settings) (owner : Owner) (acts : List Action)

theorem storage_in_use :
    let p := (watched (HostMemory.adapter environment) settings.initial owner).play acts
    p.graph.registry.buffers.length < UInt32.size → p.memory.memory.buffers.Stocked (p.storage.map (·.key)) := by
  refine served_induction (a := HostMemory.adapter environment)
    (motive := fun _ p => p.graph.registry.buffers.length < UInt32.size →
      p.memory.memory.buffers.Stocked (p.storage.map (·.key))) ?_ ?_ acts
  · intro _
    exact .empty
  intro events p act answer p' earlier step leads few
  obtain ⟨new, added, served⟩ := leads
  have before := step.graph_grows.2.1.trans_lt few
  have indexed : ∀ call ∈ new, call.Indexed := by
    intro call member
    cases step.asks added call member with
    | allocate => simpa [DeviceCall.Indexed, descriptions] using before
    | _ => trivial
  have next := stocked_buffers_of_serves served (earlier before) indexed
  rwa [step.lends added] at next

theorem programs_in_use :
    let p := (watched (HostMemory.adapter environment) settings.initial owner).play acts
    2 * p.graph.kernels.length < UInt32.size →
      p.memory.memory.programs.Stocked (p.programs.map (·.key)) ∧
        p.compiled.length ≤ p.graph.kernels.length := by
  refine served_induction (a := HostMemory.adapter environment)
    (motive := fun _ p => 2 * p.graph.kernels.length < UInt32.size →
      p.memory.memory.programs.Stocked (p.programs.map (·.key)) ∧
        p.compiled.length ≤ p.graph.kernels.length) ?_ ?_ acts
  · intro _
    exact ⟨.empty, Nat.zero_le _⟩
  intro events p act answer p' earlier step leads few
  obtain ⟨new, added, served⟩ := leads
  have grown := step.graph_grows.2.2
  obtain ⟨stocked, compiled⟩ := earlier (by omega)
  have held : p.programs.length = p.compiled.length := List.length_map _
  have issued := step.length_issued added
  obtain ⟨fresh, next⟩ := stocked_programs_of_serves served stocked (by omega)
  obtain ⟨calls, balances⟩ := step.balances (stocked.nodup.of_map _)
  obtain rfl := List.append_cancel_left (added.symm.trans balances.calls)
  rw [balances.held fresh] at next
  exact ⟨next, step.length_compiled compiled⟩

end Processor

end PixelPipeline
