import Mathlib.Data.List.Perm.Basic
import Mathlib.Logic.Function.Basic
import PixelPipeline.Proofs.Slots

namespace PixelPipeline

inductive SlotRequest (α : Type) where
  | insert (value : α)
  | get (key : SlotKey)
  | change (key : SlotKey) (edit : α → α)
  | remove (key : SlotKey)
  | drain
  | size

inductive SlotReply (α : Type) where
  | key (key : SlotKey)
  | value (value : Option α)
  | values (values : List α)
  | count (n : Nat)
  deriving DecidableEq

namespace SlotTable

variable {α : Type}

def ask (t : SlotTable α) : SlotRequest α → SlotReply α × SlotTable α
  | .insert value => (.key (t.insert value).1, (t.insert value).2)
  | .get key => (.value (t.get? key), t)
  | .change key edit => (.value (t.get? key), t.modify key edit)
  | .remove key => (.value (t.remove key).1, (t.remove key).2)
  | .drain => (.values t.drain.1, t.drain.2)
  | .size => (.count t.size, t)

def after (t : SlotTable α) : List (SlotRequest α) → SlotTable α
  | [] => t
  | request :: rest => (t.ask request).2.after rest

def replies (t : SlotTable α) : List (SlotRequest α) → List (SlotReply α)
  | [] => []
  | request :: rest => (t.ask request).1 :: (t.ask request).2.replies rest

structure Lists (m : SlotKey → Option α) (keys : List SlotKey) : Prop where
  mem_iff : ∀ key, key ∈ keys ↔ (m key).isSome
  ordered : keys.Pairwise (·.index < ·.index)

/-- One operation on a finite map. Which unused key an insertion takes is left open. -/
inductive MapStep (m : SlotKey → Option α) :
    SlotRequest α → SlotReply α → (SlotKey → Option α) → Prop
  | insert (value : α) (key : SlotKey) (unused : m key = none) :
      MapStep m (.insert value) (.key key) (Function.update m key (some value))
  | get (key : SlotKey) : MapStep m (.get key) (.value (m key)) m
  | change (key : SlotKey) (edit : α → α) :
      MapStep m (.change key edit) (.value (m key)) (Function.update m key ((m key).map edit))
  | remove (key : SlotKey) : MapStep m (.remove key) (.value (m key)) (Function.update m key none)
  | drain (keys : List SlotKey) (all : Lists m keys) :
      MapStep m .drain (.values (keys.filterMap m)) fun _ => none
  | size (keys : List SlotKey) (all : Lists m keys) : MapStep m .size (.count keys.length) m

inductive MapRun : (SlotKey → Option α) → List (SlotRequest α) → List (SlotReply α) →
    (SlotKey → Option α) → Prop
  | nil (m : SlotKey → Option α) : MapRun m [] [] m
  | cons {m m' m'' : SlotKey → Option α} {request : SlotRequest α} {reply : SlotReply α}
      {requests : List (SlotRequest α)} {replies : List (SlotReply α)}
      (first : MapStep m request reply m') (rest : MapRun m' requests replies m'') :
      MapRun m (request :: requests) (reply :: replies) m''

def vacancies (t : SlotTable α) : List Nat :=
  (List.range t.slots.size).filter fun i => (t.slots[i]?.bind (·.value)).isNone

/-- The free list leaves out no vacant slot, and another slot would still have an index. -/
structure Tidy (t : SlotTable α) : Prop extends Sound t where
  listed : ∀ i generation, t.slots[i]? = some ⟨generation, none⟩ → ∃ index ∈ t.free, index.toNat = i
  room : t.slots.size < UInt32.size

variable {t : SlotTable α} {key : SlotKey} {value : α} {request : SlotRequest α}

theorem Tidy.empty : (empty : SlotTable α).Tidy :=
  ⟨Sound.empty, fun i generation there => by simp [SlotTable.empty] at there, by simp [SlotTable.empty]⟩

theorem Tidy.free_perm (tidy : t.Tidy) : (t.free.map (·.toNat)).Perm t.vacancies := by
  have distinct : (t.free.map (·.toNat)).Nodup :=
    tidy.distinct.map fun _ _ same => UInt32.toNat_inj.mp same
  refine (List.perm_ext_iff_of_nodup distinct (List.nodup_range.filter _)).mpr fun i => ?_
  rw [List.mem_map, List.mem_filter, List.mem_range]
  constructor
  · rintro ⟨index, member, rfl⟩
    obtain ⟨generation, vacant⟩ := tidy.vacant index member
    have inside := (Array.getElem?_eq_some_iff.mp vacant).1
    exact ⟨inside, by rw [vacant]; rfl⟩
  · intro ⟨inside, vacant⟩
    obtain ⟨⟨generation, held⟩, there⟩ : ∃ slot, t.slots[i]? = some slot :=
      ⟨_, Array.getElem?_eq_getElem inside⟩
    rw [there] at vacant
    have absent : held = none := Option.isNone_iff_eq_none.mp vacant
    exact tidy.listed i generation (absent ▸ there)

theorem size_of_full (listed : ∀ i generation, t.slots[i]? = some ⟨generation, none⟩ →
    ∃ index ∈ t.free, index.toNat = i) (full : t.free = []) : t.size = t.slots.size := by
  rw [size, ← Array.length_toList, List.countP_eq_length]
  intro slot member
  obtain ⟨i, there⟩ := List.mem_iff_getElem?.mp member
  rw [Array.getElem?_toList] at there
  obtain ⟨generation, held⟩ := slot
  cases held with
  | some value => rfl
  | none =>
    obtain ⟨index, free, -⟩ := listed i generation there
    rw [full] at free
    cases free

theorem Tidy.insert_room (tidy : t.Tidy) (value : α) : (t.insert value).2.slots.size ≤ UInt32.size := by
  have room := tidy.room
  unfold SlotTable.insert
  split
  · rw [Array.size_modify]
    omega
  · rw [Array.size_push]
    omega

theorem Tidy.insert (tidy : t.Tidy) (small : (t.insert value).2.size < UInt32.size) :
    (t.insert value).2.Tidy := by
  obtain ⟨-, slots⟩ := insert_fills tidy.toSound (tidy.insert_room value)
  have listed : ∀ i generation, (t.insert value).2.slots[i]? = some ⟨generation, none⟩ →
      ∃ index ∈ (t.insert value).2.free, index.toNat = i := by
    intro i generation vacant
    rw [slots] at vacant
    by_cases place : i = (t.insert value).1.index.toNat
    · rw [if_pos place] at vacant
      cases vacant
    · rw [if_neg place] at vacant
      obtain ⟨index, member, rfl⟩ := tidy.listed i generation vacant
      cases available : t.free with
      | nil =>
        rw [available] at member
        cases member
      | cons head free =>
        simp only [SlotTable.insert, available] at place ⊢
        rw [available] at member
        have other : index ≠ head := fun same => place (same ▸ rfl)
        exact ⟨index, (List.mem_cons.mp member).resolve_left other, rfl⟩
  refine ⟨tidy.toSound.insert, listed, ?_⟩
  cases available : t.free with
  | nil =>
    have full : (t.insert value).2.free = [] := by simp only [SlotTable.insert, available]
    rwa [size_of_full listed full] at small
  | cons index free =>
    simp only [SlotTable.insert, available, Array.size_modify]
    exact tidy.room

theorem Tidy.modify (tidy : t.Tidy) (edit : α → α) : (t.modify key edit).Tidy := by
  refine ⟨tidy.toSound.modify edit, ?_, by rw [size_modify]; exact tidy.room⟩
  unfold SlotTable.modify
  split
  · rename_i value held
    intro i generation vacant
    simp only [slots_modify (get?_eq_some.mp held)] at vacant
    by_cases place : i = key.index.toNat
    · rw [if_pos place] at vacant
      cases vacant
    · rw [if_neg place] at vacant
      exact tidy.listed i generation vacant
  · exact tidy.listed

theorem Tidy.remove (tidy : t.Tidy) : (t.remove key).2.Tidy := by
  refine ⟨tidy.toSound.remove, ?_, by rw [size_remove]; exact tidy.room⟩
  unfold SlotTable.remove
  split
  · rename_i value held
    intro i generation vacant
    simp only [slots_modify (get?_eq_some.mp held)] at vacant
    by_cases place : i = key.index.toNat
    · exact ⟨key.index, List.mem_cons_self, place.symm⟩
    · rw [if_neg place] at vacant
      obtain ⟨index, member, same⟩ := tidy.listed i generation vacant
      exact ⟨index, List.mem_cons_of_mem _ member, same⟩
  · exact tidy.listed

theorem Tidy.drain (tidy : t.Tidy) : t.drain.2.Tidy := by
  refine ⟨tidy.toSound.drain tidy.room.le, ?_, by rw [size_drain]; exact tidy.room⟩
  intro i generation vacant
  rw [slots_drain, Option.map_eq_some_iff] at vacant
  obtain ⟨⟨last, held⟩, there, emptied⟩ := vacant
  cases held with
  | none =>
    obtain ⟨index, member, same⟩ := tidy.listed i last there
    exact ⟨index, List.mem_append_right _ member, same⟩
  | some value =>
    have inside : i < t.slots.size := (Array.getElem?_eq_some_iff.mp there).1
    have taken : i ∈ t.occupied.map (·.toNat) := by
      rw [occupied_toNat tidy.room.le, List.mem_filter, List.mem_range, there]
      exact ⟨inside, rfl⟩
    obtain ⟨index, member, same⟩ := List.mem_map.mp taken
    exact ⟨index, List.mem_append_left _ (List.mem_reverse.mpr member), same⟩

theorem Tidy.ask (tidy : t.Tidy) (small : (t.ask request).2.size < UInt32.size) : (t.ask request).2.Tidy := by
  cases request with
  | insert value => exact tidy.insert small
  | get | size => exact tidy
  | change key edit => exact tidy.modify edit
  | remove key => exact tidy.remove
  | drain => exact tidy.drain

def keys (t : SlotTable α) : List SlotKey :=
  t.slots.toList.zipIdx.filterMap fun ⟨slot, i⟩ => slot.value.map fun _ => ⟨UInt32.ofNat i, slot.generation⟩

theorem slot_of_mem {slot : Slot α} {i : Nat} (member : (slot, i) ∈ t.slots.toList.zipIdx) :
    t.slots[i]? = some slot ∧ i < t.slots.size := by
  have there := List.mem_zipIdx_iff_getElem?.mp member
  rw [Array.getElem?_toList] at there
  exact ⟨there, (Array.getElem?_eq_some_iff.mp there).1⟩

theorem mem_keys (room : t.slots.size ≤ UInt32.size) : key ∈ t.keys ↔ (t.get? key).isSome := by
  rw [keys, List.mem_filterMap, Option.isSome_iff_exists]
  constructor
  · rintro ⟨⟨⟨generation, held⟩, i⟩, member, same⟩
    obtain ⟨value, rfl, rfl⟩ := Option.map_eq_some_iff.mp same
    obtain ⟨there, inside⟩ := slot_of_mem member
    refine ⟨value, get?_eq_some.mpr ?_⟩
    rwa [index_of_room (inside.trans_le room)]
  · rintro ⟨value, held⟩
    have there := get?_eq_some.mp held
    refine ⟨(⟨key.generation, some value⟩, key.index.toNat), ?_, ?_⟩
    · rwa [List.mem_zipIdx_iff_getElem?, Array.getElem?_toList]
    · simp

theorem lists_keys (room : t.slots.size ≤ UInt32.size) : Lists t.get? t.keys := by
  refine ⟨fun _ => mem_keys room, ?_⟩
  have ordered : t.slots.toList.zipIdx.Pairwise (·.2 < ·.2) := by
    refine List.pairwise_map.mp ?_
    rw [List.zipIdx_map_snd]
    exact List.pairwise_lt_range'
  rw [keys, List.pairwise_filterMap]
  refine ordered.imp_of_mem fun {first second} _ member before _ issued _ later => ?_
  obtain ⟨_, -, rfl⟩ := Option.map_eq_some_iff.mp issued
  obtain ⟨_, -, rfl⟩ := Option.map_eq_some_iff.mp later
  have inside : second.2 < t.slots.size := (slot_of_mem member).2
  rw [UInt32.lt_iff_toNat_lt, index_of_room (by omega), index_of_room (by omega)]
  exact before

theorem drain_values (room : t.slots.size ≤ UInt32.size) : t.drain.1 = t.keys.filterMap t.get? := by
  have paired : t.drain.1 = t.slots.toList.zipIdx.filterMap (·.1.value) := by
    have whole := List.zipIdx_map_fst 0 t.slots.toList
    calc t.slots.toList.filterMap (·.value)
        = (t.slots.toList.zipIdx.map Prod.fst).filterMap (·.value) := by rw [whole]
      _ = t.slots.toList.zipIdx.filterMap (·.1.value) := List.filterMap_map
  rw [paired, keys, List.filterMap_filterMap]
  refine List.filterMap_congr fun entry member => ?_
  obtain ⟨⟨generation, held⟩, i⟩ := entry
  obtain ⟨there, inside⟩ := slot_of_mem member
  cases held with
  | none => rfl
  | some value =>
    refine (get?_eq_some.mpr ?_).symm
    rwa [index_of_room (inside.trans_le room)]

theorem length_keys : t.keys.length = t.size := by
  have whole := List.zipIdx_map_fst 0 t.slots.toList
  calc t.keys.length
      = t.slots.toList.zipIdx.countP (·.1.value.isSome) := by
        simp only [keys, List.length_filterMap_eq_countP, Option.isSome_map]
    _ = (t.slots.toList.zipIdx.map Prod.fst).countP (·.value.isSome) := by
        rw [List.countP_map]
        rfl
    _ = t.size := by rw [whole, size]

theorem remove_value : (t.remove key).1 = t.get? key := by
  unfold remove
  split <;> simp [*]

theorem Tidy.step (tidy : t.Tidy) : MapStep t.get? request (t.ask request).1 (t.ask request).2.get? := by
  cases request with
  | insert value =>
    have unused := get?_insert_key tidy.toSound (tidy.insert_room value)
    have next : (t.insert value).2.get? = Function.update t.get? (t.insert value).1 (some value) := by
      funext other
      rw [get?_insert tidy.toSound (tidy.insert_room value), Function.update_apply]
    rw [SlotTable.ask, next]
    exact .insert value _ unused
  | get key => exact .get key
  | change key edit =>
    have next : (t.modify key edit).get? = Function.update t.get? key ((t.get? key).map edit) := by
      funext other
      rw [get?_modify, Function.update_apply]
    rw [SlotTable.ask, next]
    exact .change key edit
  | remove key =>
    have next : (t.remove key).2.get? = Function.update t.get? key none := by
      funext other
      rw [get?_remove, Function.update_apply]
    rw [SlotTable.ask, next, remove_value]
    exact .remove key
  | drain =>
    have next : t.drain.2.get? = fun _ => none := funext fun _ => get?_drain
    rw [SlotTable.ask, next, drain_values tidy.room.le]
    exact .drain t.keys (lists_keys tidy.room.le)
  | size =>
    rw [SlotTable.ask, ← length_keys]
    exact .size t.keys (lists_keys tidy.room.le)

variable {requests : List (SlotRequest α)}

theorem Tidy.run (tidy : t.Tidy) (small : ∀ n, (t.after (requests.take n)).size < UInt32.size) :
    MapRun t.get? requests (t.replies requests) (t.after requests).get? ∧ (t.after requests).Tidy := by
  induction requests generalizing t with
  | nil => exact ⟨.nil _, tidy⟩
  | cons request rest ih =>
    have next : (t.ask request).2.Tidy := tidy.ask (small 1)
    obtain ⟨later, last⟩ := ih next fun n => small (n + 1)
    exact ⟨.cons tidy.step later, last⟩

theorem ask_absent (absent : t.get? key = none) (edit : α → α) : t.ask (.get key) = (.value none, t) ∧
    t.ask (.change key edit) = (.value none, t) ∧ t.ask (.remove key) = (.value none, t) := by
  simp only [ask, modify, remove, absent, and_self]

/-- Keys are valid while their slot is occupied under their generation. -/
theorem refines_map (requests : List (SlotRequest α))
    (small : ∀ n, ((empty : SlotTable α).after (requests.take n)).size < UInt32.size) :
    let t := (empty : SlotTable α).after requests
    MapRun (fun _ => none) requests (empty.replies requests) t.get? ∧
      (∀ key value, t.get? key = some value ↔
        t.slots[key.index.toNat]? = some ⟨key.generation, some value⟩) ∧
      (∀ key edit, t.get? key = none → t.ask (.get key) = (.value none, t) ∧
        t.ask (.change key edit) = (.value none, t) ∧ t.ask (.remove key) = (.value none, t)) ∧
      (t.free.map (·.toNat)).Perm t.vacancies := by
  intro t
  obtain ⟨run, tidy⟩ := Tidy.empty.run small
  exact ⟨run, fun key value => get?_eq_some, fun key edit absent => ask_absent absent edit, tidy.free_perm⟩

def refilled : List (SlotRequest Nat) :=
  [.insert 10, .insert 20, .remove ⟨0, 0⟩, .insert 30, .change ⟨0, 1⟩ (· + 1), .get ⟨0, 0⟩, .drain]

theorem refines_map_refilled :
    let t := (empty : SlotTable Nat).after refilled
    (∀ n, ((empty : SlotTable Nat).after (refilled.take n)).size < UInt32.size) ∧
      MapRun (fun _ => none) refilled [.key ⟨0, 0⟩, .key ⟨1, 0⟩, .value (some 10), .key ⟨0, 1⟩, .value (some 30),
        .value none, .values [31, 20]] t.get? ∧
      (t.free.map (·.toNat)).Perm t.vacancies ∧ t.vacancies = [0, 1] := by
  have small : ∀ n, ((empty : SlotTable Nat).after (refilled.take n)).size < UInt32.size := by
    have first : ∀ n < 8, ((empty : SlotTable Nat).after (refilled.take n)).size < UInt32.size := by decide +kernel
    intro n
    by_cases early : n < 8
    · exact first n early
    · rw [List.take_of_length_le (by simp only [refilled, List.length_cons, List.length_nil]; omega)]
      exact first 7 (by omega)
  obtain ⟨run, -, -, free⟩ := refines_map refilled small
  have answered : (empty : SlotTable Nat).replies refilled = [.key ⟨0, 0⟩, .key ⟨1, 0⟩, .value (some 10),
      .key ⟨0, 1⟩, .value (some 30), .value none, .values [31, 20]] := by decide +kernel
  rw [answered] at run
  exact ⟨small, run, free, by decide +kernel⟩

end SlotTable

end PixelPipeline
