import PixelPipeline.Proofs.SlotRuns

namespace PixelPipeline.SlotTable

variable {α : Type} {t t' : SlotTable α} {key : SlotKey} {value : α} {slot : Slot α} {i : Nat}
  {request gone : SlotRequest α} {requests earlier between later : List (SlotRequest α)}

def content (t : SlotTable α) (i : Nat) : Option α := t.slots[i]?.bind (·.value)

def frees (t t' : SlotTable α) (i : Nat) : Bool := (t.content i).isSome && (t'.content i).isNone

def timesFreed (t : SlotTable α) (i : Nat) : List (SlotRequest α) → Nat
  | [] => 0
  | request :: rest =>
    (if t.frees (t.ask request).2 i then 1 else 0) + (t.ask request).2.timesFreed i rest

theorem content_of_slot (there : t.slots[i]? = some slot) : t.content i = slot.value := by
  rw [content, there, Option.bind_some]

theorem frees_of_slots {slot' : Slot α} (there : t.slots[i]? = some slot) (next : t'.slots[i]? = some slot') :
    t.frees t' i = (slot.value.isSome && slot'.value.isNone) := by
  rw [frees, content_of_slot there, content_of_slot next]

/-- A slot keeps its generation while it keeps its value, and counts up when it loses it. -/
def Continues (before after : Slot α) : Prop :=
  if before.value.isSome && after.value.isNone then after.generation = before.generation + 1
  else after.generation = before.generation

theorem continues_self : Continues slot slot := by
  cases held : slot.value <;> simp [Continues, held]

theorem continues_vacate (held : slot.value = some value) : Continues slot slot.vacate := by
  simp [Continues, Slot.vacate, held]

theorem continues_fill : Continues slot { slot with value := some value } := by simp [Continues]

theorem continues_modify {j : Nat} {change : Slot α → Slot α} (there : t.slots[i]? = some slot)
    (lawful : ∀ old, t.slots[j]? = some old → Continues old (change old)) :
    ∃ slot', (t.slots.modify j change)[i]? = some slot' ∧ Continues slot slot' := by
  rw [Array.getElem?_modify, there]
  by_cases place : j = i
  · subst place
    exact ⟨change slot, by rw [if_pos rfl]; rfl, lawful slot there⟩
  · exact ⟨slot, by rw [if_neg place], continues_self⟩

theorem continues_ask (request : SlotRequest α) (there : t.slots[i]? = some slot) :
    ∃ slot', (t.ask request).2.slots[i]? = some slot' ∧ Continues slot slot' := by
  have unchanged : ∃ slot', t.slots[i]? = some slot' ∧ Continues slot slot' := ⟨slot, there, continues_self⟩
  cases request with
  | insert value =>
    simp only [ask, insert]
    split
    · exact continues_modify there fun _ _ => continues_fill
    · have inside := (Array.getElem?_eq_some_iff.mp there).1
      rw [Array.getElem?_push, if_neg inside.ne]
      exact unchanged
  | get | size => exact unchanged
  | change key edit =>
    simp only [ask, modify]
    split
    · exact continues_modify there fun _ _ => continues_fill
    · exact unchanged
  | remove key =>
    simp only [ask, remove]
    split
    · rename_i value found
      refine continues_modify there fun old occupied => ?_
      rw [get?_eq_some.mp found] at occupied
      cases occupied
      exact continues_vacate rfl
    · exact unchanged
  | drain =>
    rw [ask, slots_drain, there]
    refine ⟨_, rfl, ?_⟩
    cases held : slot.value with
    | none => simpa [held] using continues_self
    | some value => simpa [held] using continues_vacate held

theorem generation_after (requests : List (SlotRequest α)) (there : t.slots[i]? = some slot) :
    ∃ slot', (t.after requests).slots[i]? = some slot' ∧
      slot'.generation = slot.generation + UInt32.ofNat (t.timesFreed i requests) := by
  induction requests generalizing t slot with
  | nil => exact ⟨slot, there, by simp [timesFreed]⟩
  | cons request rest ih =>
    obtain ⟨next, nextThere, continues⟩ := continues_ask request there
    obtain ⟨last, lastThere, generation⟩ := ih nextThere
    refine ⟨last, lastThere, ?_⟩
    rw [generation, timesFreed, frees_of_slots there nextThere]
    unfold Continues at continues
    split at continues
    · rename_i freed
      rw [continues, if_pos freed, UInt32.ofNat_add, UInt32.add_assoc]
      rfl
    · rename_i kept
      rw [continues, if_neg kept, Nat.zero_add]

theorem content_after (held : (t.content i).isSome) (kept : t.timesFreed i requests = 0) :
    ((t.after requests).content i).isSome := by
  induction requests generalizing t with
  | nil => exact held
  | cons request rest ih =>
    obtain ⟨first, others⟩ := Nat.add_eq_zero_iff.mp kept
    have notFreed : ¬ t.frees (t.ask request).2 i := by
      intro freed
      rw [if_pos freed] at first
      cases first
    have next : ((t.ask request).2.content i).isSome := by
      by_contra absent
      have lost := Option.not_isSome_iff_eq_none.mp absent
      exact notFreed (by rw [frees, held, lost]; rfl)
    exact ih next others

theorem timesFreed_append : t.timesFreed i (between ++ later) =
    t.timesFreed i between + (t.after between).timesFreed i later := by
  induction between generalizing t with
  | nil => exact (Nat.zero_add _).symm
  | cons request rest ih =>
    have tail := ih (t := (t.ask request).2)
    rw [List.cons_append, timesFreed, tail, timesFreed, Nat.add_assoc]
    rfl

theorem ofNat_eq_zero (n : Nat) : UInt32.ofNat n = 0 ↔ UInt32.size ∣ n := by
  rw [← UInt32.toNat_inj, UInt32.toNat_ofNat', Nat.dvd_iff_mod_eq_zero]
  rfl

theorem get?_after (held : t.get? key = some value) : (t.after requests).get? key =
    if UInt32.size ∣ t.timesFreed key.index.toNat requests
      then (t.after requests).content key.index.toNat else none := by
  obtain ⟨slot', there, generation⟩ := generation_after requests (get?_eq_some.mp held)
  have unmoved : slot'.generation = key.generation ↔ UInt32.size ∣ t.timesFreed key.index.toNat requests := by
    rw [generation, ← ofNat_eq_zero]
    exact UInt32.add_eq_left
  rw [content_of_slot there, get?_of_slot there]
  simp only [unmoved]

theorem frees_of_gone (held : t.get? key = some value) (takes : gone = .remove key ∨ gone = .drain) :
    t.frees (t.ask gone).2 key.index.toNat := by
  have there := get?_eq_some.mp held
  have emptied : (t.ask gone).2.slots[key.index.toNat]? = some ⟨key.generation + 1, none⟩ := by
    rcases takes with rfl | rfl
    · simp only [ask, remove, held]
      rw [slots_modify there, if_pos rfl]
      rfl
    · rw [ask, slots_drain, there]
      rfl
  rw [frees_of_slots there emptied]
  rfl

theorem freed_of_gone (held : t.get? key = some value) (takes : gone = .remove key ∨ gone = .drain) :
    0 < t.timesFreed key.index.toNat (between ++ gone :: later) := by
  rw [timesFreed_append, timesFreed]
  by_cases kept : t.timesFreed key.index.toNat between = 0
  · have first : (t.content key.index.toNat).isSome := by
      rw [content_of_slot (get?_eq_some.mp held)]
      rfl
    obtain ⟨last, remains⟩ := Option.isSome_iff_exists.mp (content_after first kept)
    have found : (t.after between).get? key = some last := by
      rw [get?_after held, kept, if_pos (Nat.dvd_zero _), remains]
    rw [if_pos (frees_of_gone found takes)]
    omega
  · omega

theorem held_after_insert (tidy : t.Tidy) : (t.insert value).2.get? (t.insert value).1 = some value := by
  rw [get?_insert tidy.toSound (tidy.insert_room value), if_pos rfl]

/-- Only up to the insertion are entries bounded; the key is looked up at the end of the run. -/
theorem stale_key_found_iff (earlier between later : List (SlotRequest α)) (value : α) (gone : SlotRequest α)
    (small : ∀ n, ((empty : SlotTable α).after (earlier.take n)).size < UInt32.size)
    (takes : gone = .remove (((empty : SlotTable α).after earlier).insert value).1 ∨ gone = .drain) :
    let issued := ((empty : SlotTable α).after earlier).insert value
    let t := issued.2.after (between ++ gone :: later)
    let freed := issued.2.timesFreed issued.1.index.toNat (between ++ gone :: later)
    0 < freed ∧
      (¬ UInt32.size ∣ freed → ∀ edit, t.ask (.get issued.1) = (.value none, t) ∧
        t.ask (.change issued.1 edit) = (.value none, t) ∧ t.ask (.remove issued.1) = (.value none, t)) ∧
      (UInt32.size ∣ freed → t.get? issued.1 = t.content issued.1.index.toNat) := by
  intro issued t freed
  have held : issued.2.get? issued.1 = some value := held_after_insert (Tidy.empty.run small).2
  have last : t.get? issued.1 = if UInt32.size ∣ freed then t.content issued.1.index.toNat else none :=
    get?_after held
  refine ⟨freed_of_gone held takes, fun moved edit => ?_, fun back => ?_⟩
  · rw [if_neg moved] at last
    exact ask_absent last edit
  · rwa [if_pos back] at last

theorem stale_key_found_iff_reused :
    let issued := (empty : SlotTable Nat).insert 7
    let t := issued.2.after [.change issued.1 (· + 1), .drain, .insert 9]
    ¬ UInt32.size ∣ issued.2.timesFreed issued.1.index.toNat [.change issued.1 (· + 1), .drain, .insert 9] ∧
      t.get? ⟨0, 1⟩ = some 9 ∧ t.ask (.remove issued.1) = (.value none, t) := by
  have small : ∀ n, ((empty : SlotTable Nat).after (List.take n [])).size < UInt32.size := by
    intro n
    rw [List.take_nil]
    decide
  have once : ¬ UInt32.size ∣ ((empty : SlotTable Nat).insert 7).2.timesFreed 0
      [.change ⟨0, 0⟩ (· + 1), .drain, .insert 9] := by decide +kernel
  obtain ⟨-, dead, -⟩ := stale_key_found_iff [] [.change ⟨0, 0⟩ (· + 1)] [.insert 9] 7 .drain small (.inr rfl)
  exact ⟨once, by decide +kernel, (dead once id).2.2⟩

theorem after_round (generation : UInt32) (old value : α) :
    (⟨#[⟨generation, some old⟩], []⟩ : SlotTable α).after [.drain, .insert value] =
      ⟨#[⟨generation + 1, some value⟩], []⟩ := by
  simp [after, ask, drain, insert, occupied, Slot.vacate]

theorem after_append : t.after (between ++ later) = (t.after between).after later := by
  induction between generalizing t with
  | nil => rfl
  | cons request rest ih => exact ih

theorem after_rounds (generation : UInt32) (value : α) (n : Nat) :
    (⟨#[⟨generation, some value⟩], []⟩ : SlotTable α).after (List.replicate n [.drain, .insert value]).flatten =
      ⟨#[⟨generation + UInt32.ofNat n, some value⟩], []⟩ := by
  induction n generalizing generation with
  | zero => simp [after]
  | succ n ih =>
    rw [List.replicate_succ, List.flatten_cons, after_append, after_round, ih, UInt32.ofNat_add,
      UInt32.add_assoc, UInt32.add_comm 1]
    rfl

theorem drained_key_found_again :
    let issued := (empty : SlotTable Nat).insert 7
    (issued.2.ask .drain).2.get? issued.1 = none ∧
      (issued.2.after ([.drain, .insert 8] ++
        (List.replicate (UInt32.size - 1) [.drain, .insert 8]).flatten)).get? issued.1 = some 8 := by
  refine ⟨by decide +kernel, ?_⟩
  have start : ((empty : SlotTable Nat).insert 7).2 = ⟨#[⟨0, some 7⟩], []⟩ := rfl
  have back : (0 : UInt32) + 1 + UInt32.ofNat (UInt32.size - 1) = 0 := by decide
  rw [start, after_append, after_round, after_rounds, back]
  rfl

end PixelPipeline.SlotTable
