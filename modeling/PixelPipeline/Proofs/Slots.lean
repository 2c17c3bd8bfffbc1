import Mathlib.Data.List.Nodup
import Mathlib.Data.List.Range
import PixelPipeline.SlotTable

namespace PixelPipeline.SlotTable

variable {α : Type} {t : SlotTable α} {key other : SlotKey} {value : α}

/-- The free slots are different empty ones. -/
structure Sound (t : SlotTable α) : Prop where
  vacant : ∀ index ∈ t.free, ∃ generation, t.slots[index.toNat]? = some ⟨generation, none⟩
  distinct : t.free.Nodup

theorem get?_eq_some : t.get? key = some value ↔
    t.slots[key.index.toNat]? = some ⟨key.generation, some value⟩ := by
  unfold get?
  cases t.slots[key.index.toNat]? with
  | none => simp
  | some slot =>
    obtain ⟨generation, held⟩ := slot
    by_cases same : generation = key.generation
    · simp [same]
    · simp [same]

theorem get?_of_slot {generation : UInt32} {held : Option α}
    (there : t.slots[key.index.toNat]? = some ⟨generation, held⟩) :
    t.get? key = if generation = key.generation then held else none := by
  simp only [get?, there]

theorem Sound.empty : (empty : SlotTable α).Sound := ⟨by simp [SlotTable.empty], List.nodup_nil⟩

section

variable {slot : Slot α} {i : Nat} {change : Slot α → Slot α} {free : List UInt32}

theorem slots_modify (there : t.slots[i]? = some slot) (j : Nat) :
    (t.slots.modify i change)[j]? = if j = i then some (change slot) else t.slots[j]? := by
  rw [Array.getElem?_modify]
  by_cases same : j = i
  · subst same
    simp [there]
  · have other : ¬ i = j := fun eq => same eq.symm
    simp [same, other]

end

theorem get?_of_slots {u : SlotTable α} {i : Nat} {generation : UInt32} {held : Option α}
    (slots : ∀ j, u.slots[j]? = if j = i then some ⟨generation, held⟩ else t.slots[j]?) :
    u.get? other = if other.index.toNat = i then if generation = other.generation then held else none
      else t.get? other := by
  unfold get?
  rw [slots]
  by_cases place : other.index.toNat = i
  · simp [place]
  · simp [place]

theorem key_eq_iff : other = key ↔ other.index.toNat = key.index.toNat ∧ key.generation = other.generation := by
  obtain ⟨index, generation⟩ := key
  obtain ⟨index', generation'⟩ := other
  simp only [SlotKey.mk.injEq, UInt32.toNat_inj]
  exact and_congr_right fun _ => eq_comm

theorem size_modify (change : α → α) : (t.modify key change).slots.size = t.slots.size := by
  unfold modify
  split <;> simp

theorem get?_modify (change : α → α) : (t.modify key change).get? other =
    if other = key then (t.get? key).map change else t.get? other := by
  unfold modify
  cases held : t.get? key with
  | none =>
    by_cases same : other = key
    · simp [same, held]
    · simp [same]
  | some value =>
    have there := get?_eq_some.mp held
    rw [get?_of_slots (slots_modify there)]
    by_cases place : other.index.toNat = key.index.toNat
    · have before : t.get? other = if key.generation = other.generation then some value else none :=
        get?_of_slot (place ▸ there)
      simp only [place, ↓reduceIte, key_eq_iff, true_and, before, Option.map_some]
      split <;> rfl
    · simp [place, key_eq_iff]

theorem Sound.modify (sound : t.Sound) (change : α → α) : (t.modify key change).Sound := by
  unfold SlotTable.modify
  split
  · rename_i value held
    have there := get?_eq_some.mp held
    refine ⟨fun index member => ?_, sound.distinct⟩
    obtain ⟨generation, empty⟩ := sound.vacant index member
    have place : ¬ index.toNat = key.index.toNat := by
      intro same
      rw [same, there] at empty
      cases empty
    exact ⟨generation, by rw [slots_modify there, if_neg place, empty]⟩
  · exact sound

theorem size_remove : (t.remove key).2.slots.size = t.slots.size := by
  unfold remove
  split <;> simp

theorem get?_remove : (t.remove key).2.get? other = if other = key then none else t.get? other := by
  unfold remove
  cases held : t.get? key with
  | none =>
    by_cases same : other = key
    · simp [same, held]
    · simp [same]
  | some value =>
    have there := get?_eq_some.mp held
    rw [get?_of_slots (slots_modify there)]
    by_cases place : other.index.toNat = key.index.toNat
    · have before : t.get? other = if key.generation = other.generation then some value else none :=
        get?_of_slot (place ▸ there)
      simp only [place, ↓reduceIte, key_eq_iff, true_and, before, ite_self]
      split <;> rfl
    · simp [place, key_eq_iff]

theorem Sound.remove (sound : t.Sound) : (t.remove key).2.Sound := by
  unfold SlotTable.remove
  split
  · rename_i value held
    have there := get?_eq_some.mp held
    have occupied : key.index ∉ t.free := by
      intro member
      obtain ⟨generation, empty⟩ := sound.vacant _ member
      rw [there] at empty
      cases empty
    refine ⟨fun index member => ?_, List.nodup_cons.mpr ⟨occupied, sound.distinct⟩⟩
    rcases List.mem_cons.mp member with rfl | member
    · exact ⟨key.generation + 1, by rw [slots_modify there, if_pos rfl]; rfl⟩
    · obtain ⟨generation, empty⟩ := sound.vacant index member
      have place : ¬ index.toNat = key.index.toNat := by
        intro same
        exact occupied (UInt32.toNat_inj.mp same ▸ member)
      exact ⟨generation, by rw [slots_modify there, if_neg place, empty]⟩
  · exact sound

theorem size_insert : t.slots.size ≤ (t.insert value).2.slots.size := by
  unfold insert
  split <;> simp

theorem index_of_room {n : Nat} (room : n < UInt32.size) : (UInt32.ofNat n).toNat = n :=
  Nat.mod_eq_of_lt room

theorem insert_fills (sound : t.Sound) (room : (t.insert value).2.slots.size ≤ UInt32.size) :
    let key := (t.insert value).1
    (t.slots[key.index.toNat]? = none ∨ t.slots[key.index.toNat]? = some ⟨key.generation, none⟩) ∧
      ∀ j, (t.insert value).2.slots[j]? =
        if j = key.index.toNat then some ⟨key.generation, some value⟩ else t.slots[j]? := by
  cases available : t.free with
  | nil =>
    have filled : t.insert value = (⟨UInt32.ofNat t.slots.size, 0⟩, ⟨t.slots.push ⟨0, some value⟩, []⟩) := by
      simp only [insert, available]
    rw [filled] at room
    have index : (UInt32.ofNat t.slots.size).toNat = t.slots.size := by
      refine index_of_room ?_
      rwa [Array.size_push] at room
    simp only [filled, index]
    exact ⟨.inl (by simp), fun j => Array.getElem?_push⟩
  | cons index free =>
    obtain ⟨generation, empty⟩ := sound.vacant index (available ▸ List.mem_cons_self)
    have filled : t.insert value = (⟨index, generation⟩,
        ⟨t.slots.modify index.toNat ({ · with value := some value }), free⟩) := by
      simp only [insert, available, empty, Option.map_some, Option.getD_some]
    simp only [filled]
    exact ⟨.inr empty, fun j => slots_modify empty j⟩

theorem get?_insert_key (sound : t.Sound) (room : (t.insert value).2.slots.size ≤ UInt32.size) :
    t.get? (t.insert value).1 = none := by
  obtain ⟨absent | empty, -⟩ := insert_fills sound room
  · simp only [get?, absent]
  · simp [get?_of_slot empty]

theorem get?_insert (sound : t.Sound) (room : (t.insert value).2.slots.size ≤ UInt32.size) :
    (t.insert value).2.get? other = if other = (t.insert value).1 then some value else t.get? other := by
  obtain ⟨empty, slots⟩ := insert_fills sound room
  rw [get?_of_slots slots]
  generalize (t.insert value).1 = key at empty ⊢
  by_cases place : other.index.toNat = key.index.toNat
  · have before : t.get? other = none := by
      rw [← place] at empty
      rcases empty with absent | vacant
      · simp only [get?, absent]
      · simp [get?_of_slot vacant]
    simp [place, key_eq_iff, before]
  · simp [place, key_eq_iff]

theorem Sound.insert (sound : t.Sound) : (t.insert value).2.Sound := by
  cases available : t.free with
  | nil =>
    simp only [SlotTable.insert, available]
    exact ⟨by simp, List.nodup_nil⟩
  | cons index free =>
    obtain ⟨generation, empty⟩ := sound.vacant index (available ▸ List.mem_cons_self)
    obtain ⟨new, distinct⟩ := List.nodup_cons.mp (available ▸ sound.distinct)
    simp only [SlotTable.insert, available]
    refine ⟨fun other member => ?_, distinct⟩
    obtain ⟨last, vacant⟩ := sound.vacant other (available ▸ List.mem_cons_of_mem _ member)
    have place : ¬ other.toNat = index.toNat := by
      intro same
      exact new (UInt32.toNat_inj.mp same ▸ member)
    exact ⟨last, by rw [slots_modify empty, if_neg place, vacant]⟩

theorem size_drain : t.drain.2.slots.size = t.slots.size := by simp [drain]

theorem slots_drain (i : Nat) : t.drain.2.slots[i]? =
    t.slots[i]?.map fun s => if s.value.isSome then s.vacate else s := by
  simp [drain]

theorem get?_drain : t.drain.2.get? key = none := by
  refine Option.eq_none_iff_forall_ne_some.mpr fun value held => ?_
  have there := get?_eq_some.mp held
  rw [slots_drain, Option.map_eq_some_iff] at there
  obtain ⟨slot, -, same⟩ := there
  cases occupied : slot.value <;> simp_all [Slot.vacate]

theorem occupied_toNat (room : t.slots.size ≤ UInt32.size) : t.occupied.map (·.toNat) =
    (List.range t.slots.size).filter fun i => (t.slots[i]?.bind (·.value)).isSome := by
  rw [occupied, List.map_filterMap, ← List.filterMap_eq_filter]
  refine List.filterMap_congr fun i member => ?_
  have small : (UInt32.ofNat i).toNat = i :=
    index_of_room (lt_of_lt_of_le (List.mem_range.mp member) room)
  rw [Option.guard]
  by_cases held : (t.slots[i]?.bind (·.value)).isSome
  · obtain ⟨value, there⟩ := Option.isSome_iff_exists.mp held
    simp [there, small]
  · have absent := Option.not_isSome_iff_eq_none.mp held
    simp only [absent, Option.map_none, Option.isSome_none, Bool.false_eq_true, ↓reduceIte]

theorem occupied_of_mem {index : UInt32} (room : t.slots.size ≤ UInt32.size) (member : index ∈ t.occupied) :
    ∃ generation value, t.slots[index.toNat]? = some ⟨generation, some value⟩ := by
  have listed : index.toNat ∈ t.occupied.map (·.toNat) := List.mem_map_of_mem member
  rw [occupied_toNat room, List.mem_filter] at listed
  obtain ⟨value, held⟩ := Option.isSome_iff_exists.mp listed.2
  obtain ⟨⟨generation, _⟩, there, rfl⟩ := Option.bind_eq_some_iff.mp held
  exact ⟨generation, value, there⟩

theorem nodup_occupied (room : t.slots.size ≤ UInt32.size) : t.occupied.Nodup := by
  refine List.Nodup.of_map (·.toNat) ?_
  rw [occupied_toNat room]
  exact List.nodup_range.filter _

theorem Sound.drain (sound : t.Sound) (room : t.slots.size ≤ UInt32.size) : t.drain.2.Sound := by
  refine ⟨fun index member => ?_, ?_⟩
  · rw [slots_drain]
    rcases List.mem_append.mp member with taken | free
    · obtain ⟨generation, value, there⟩ := occupied_of_mem room (List.mem_reverse.mp taken)
      exact ⟨generation + 1, by rw [there]; rfl⟩
    · obtain ⟨generation, empty⟩ := sound.vacant index free
      exact ⟨generation, by rw [empty]; rfl⟩
  · refine List.Nodup.append (List.nodup_reverse.mpr (nodup_occupied room)) sound.distinct ?_
    intro index taken free
    obtain ⟨generation, value, there⟩ := occupied_of_mem room (List.mem_reverse.mp taken)
    obtain ⟨_, empty⟩ := sound.vacant index free
    rw [there] at empty
    cases empty

end PixelPipeline.SlotTable
