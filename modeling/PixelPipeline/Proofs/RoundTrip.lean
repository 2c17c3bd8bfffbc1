import PixelPipeline.Proofs.Capacity

namespace PixelPipeline

/-- The call leaves the contents under a handle alone. -/
def DeviceCall.Spares (d : DeviceBuffer) : DeviceCall → Prop
  | .allocate .. => False
  | .dispatch l _ => ∀ argument ∈ l.outputs, argument.2 ≠ d
  | .upload target .. => target ≠ d
  | .compile .. | .release _ | .download .. => True

namespace HostMemory

variable {environment : Environment} {m m' : HostMemory} {call : DeviceCall} {calls : List DeviceCall}
  {d : DeviceBuffer}

theorem get?_store {results : List (String × Array Single)} {outputs : List (String × DeviceBuffer)}
    {t : SlotTable (Array Single)} (spared : ∀ argument ∈ outputs, argument.2 ≠ d) :
    (store results outputs t).get? d.key = t.get? d.key := by
  induction outputs generalizing t with
  | nil => rfl
  | cons first rest ih =>
    obtain ⟨here, later⟩ := List.forall_mem_cons.mp spared
    have other : ¬ d.key = first.2.key := fun same => here (congrArg DeviceBuffer.mk same.symm)
    calc (store results (first :: rest) t).get? d.key
        = (t.modify first.2.key _).get? d.key := ih later
      _ = t.get? d.key := by rw [SlotTable.get?_modify, if_neg other]

theorem spared_of_answers (answered : (adapter environment).Answers m call m') (spares : call.Spares d) :
    m'.buffers.get? d.key = m.buffers.get? d.key := by
  have effect := (effect_of_answers answered).1
  generalize m'.buffers = buffers at effect ⊢
  generalize m'.programs = programs at effect
  cases effect with
  | quiet | compiled | released => rfl
  | allocated | unallocated => cases spares
  | dispatched => exact get?_store spares
  | uploaded target data =>
    have other : ¬ d.key = target.key := fun same => spares (congrArg DeviceBuffer.mk same.symm)
    rw [SlotTable.get?_modify, if_neg other]

theorem spared_of_serves (served : (adapter environment).Serves m calls m')
    (spares : ∀ call ∈ calls, call.Spares d) : m'.buffers.get? d.key = m.buffers.get? d.key := by
  induction served with
  | nil => rfl
  | cons first _ ih =>
    obtain ⟨here, later⟩ := List.forall_mem_cons.mp spares
    exact (ih later).trans (spared_of_answers first here)

theorem stored_eq_ok {data : Array Single} : m.stored d = .ok data ↔ m.buffers.get? d.key = some data := by
  unfold stored
  split <;> simp_all

theorem transfer_eq_ok {fail : Bool} {text : String} {length : Nat} {data : Array Single} :
    m.transfer fail text d length = .ok data ↔
      fail = false ∧ m.buffers.get? d.key = some data ∧ data.size = length := by
  rw [← stored_eq_ok]
  cases fail with
  | true => simp [transfer, bind, Except.bind, throw, throwThe, MonadExceptOf.throw]
  | false =>
    cases found : m.stored d with
    | error e => simp [transfer, found, bind, Except.bind]
    | ok held =>
      by_cases same : held.size = length
      · have reads : m.transfer false text d length = .ok held := by
          simp [transfer, found, same, bind, Except.bind, pure, Except.pure]
        rw [reads]
        constructor
        · rintro ⟨⟩
          exact ⟨rfl, rfl, same⟩
        · exact fun there => there.2.1
      · have refused : m.transfer false text d length = .error (.sizeMismatch held.size length) := by
          simp [transfer, found, same, bind, Except.bind, throw, throwThe, MonadExceptOf.throw]
        rw [refused]
        constructor
        · intro impossible
          cases impossible
        · rintro ⟨-, ⟨⟩, size⟩
          exact absurd size same

theorem download_cases {n : Nat} (host : Vector Single n) :
    (∃ e, m.transfer m.failDownload "download failed" d n = .error e ∧
      m.download d host = (.error e, host, m.note (.download d.key n))) ∨
    ∃ data : Vector Single n, m.transfer m.failDownload "download failed" d n = .ok data.toArray ∧
      m.download d host = (.ok (), data, m.note (.download d.key n)) := by
  have noted : (m.note (.download d.key n)).transfer (m.note (.download d.key n)).failDownload "download failed" d n =
      m.transfer m.failDownload "download failed" d n := rfl
  cases moved : m.transfer m.failDownload "download failed" d n with
  | error e =>
    refine .inl ⟨e, rfl, ?_⟩
    simp only [HostMemory.download, noted, moved]
  | ok data =>
    obtain ⟨-, -, size⟩ := transfer_eq_ok.mp moved
    refine .inr ⟨⟨data, size⟩, rfl, ?_⟩
    simp only [HostMemory.download, noted, moved, dif_pos size]

end HostMemory

namespace Processor

open PixelPipeline.HostMemory Outcome

variable {environment : Environment} {p p' : Processor (Recorded HostMemory)} {act : Action}
  {answer : Except Error Unit} {id other : BufferId} {d e : DeviceBuffer} {b : Buffer} {data : Array Single}

structure Stores (p : Processor (Recorded HostMemory)) (id : BufferId) (d : DeviceBuffer) (data : Array Single) :
    Prop where
  own : id.owner = p.graph.owner
  place : p.storage[id.index]? = some d
  distinct : p.storage.Nodup
  contents : p.memory.memory.buffers.get? d.key = some data

theorem Stores.apart (stores : p.Stores id d data) (known : p.graph.registry.contains other)
    (place : p.storage[other.index]? = some e) (different : other ≠ id) : e ≠ d := by
  rintro rfl
  have inside : other.index < p.storage.length := (List.getElem?_eq_some_iff.mp place).1
  have index : other.index = id.index := (List.getElem?_inj inside stores.distinct).mp (place.trans stores.place.symm)
  have owner : other.owner = id.owner := (Registry.contains_iff.mp known).1.trans stores.own.symm
  obtain ⟨_, _⟩ := other
  obtain ⟨_, _⟩ := id
  cases index
  cases owner
  exact different rfl

theorem Asks.spares {call : DeviceCall} (asks : p.Asks act call) (stores : p.Stores id d data)
    (kept : act ≠ .allocate) (others : act ≠ .upload id)
    (unwritten : act = .run → ∀ c ∈ p.compiled, ∀ b ∈ c.outputs, b.buffer ≠ id) : call.Spares d := by
  cases asks with
  | allocate => exact kept rfl
  | compile | release | download => trivial
  | dispatch _ late member planned =>
    intro argument listed
    obtain ⟨_, -, -, -, -, writes, -⟩ := launch_eq_ok.mp planned
    obtain ⟨b, bound, known, place⟩ := binding_of_argument writes argument listed
    exact stores.apart known place (unwritten rfl _ member b bound)
  | upload _ stored =>
    obtain ⟨-, known, place⟩ := stored_of_requireStorage stored
    exact stores.apart known place fun same => others (by rw [same])

theorem Stores.step (stores : p.Stores id d data) (step : p.Step act answer p')
    (leads : p.memory.Leads (HostMemory.adapter environment) p'.memory) (kept : act ≠ .allocate)
    (others : act ≠ .upload id) (unwritten : act = .run → ∀ c ∈ p.compiled, ∀ b ∈ c.outputs, b.buffer ≠ id) :
    p'.Stores id d data := by
  obtain ⟨new, added, served⟩ := leads
  have storage := (step.keeps_storage kept).1
  have spares : ∀ call ∈ new, call.Spares d := fun call member =>
    (step.asks added call member).spares stores kept others unwritten
  exact {
    own := stores.own.trans step.graph_grows.1.symm
    place := storage ▸ stores.place
    distinct := storage ▸ stores.distinct
    contents := (spared_of_serves served spares).trans stores.contents }

theorem Stores.play (acts : List Action) (recorded : p.adapter = (HostMemory.adapter environment).recorded)
    (stores : p.Stores id d data) (others : ∀ act ∈ acts, act ≠ .allocate ∧ act ≠ .upload id)
    (unwritten : ∀ e ∈ p.history acts, e.action = .run → ∀ c ∈ e.before.compiled, ∀ b ∈ c.outputs, b.buffer ≠ id) :
    (p.play acts).Stores id d data := by
  induction acts generalizing p with
  | nil => exact stores
  | cons act rest ih =>
    obtain ⟨here, later⟩ := List.forall_mem_cons.mp others
    obtain ⟨first, following⟩ := List.forall_mem_cons.mp unwritten
    have step := perform_step recorded act
    exact ih (step.adapter.trans recorded) (stores.step step (perform_leads recorded act) here.1 here.2 first)
      later following

theorem download_on_host (recorded : p.adapter = (HostMemory.adapter environment).recorded)
    (stored : p.requireStorage id = .ok d) (held : p.graph.buffer id = .ok b) :
    ∃ answer, ∃ data : Vector Single b.data.size,
      p.download id = (answer, { p with
        memory := ⟨p.memory.memory.note (.download d.key b.data.size),
          p.calls ++ [.download d b.data.size (answer.map fun _ => data.toArray)]⟩
        graph := { p.graph with registry := { p.graph.registry with
          buffers := p.graph.registry.buffers.set id.index { b with data := data.toArray } } } }) ∧
      ((∃ e, answer = .error e ∧ data = b.data.toVector ∧
          p.memory.memory.transfer p.memory.memory.failDownload "download failed" d b.data.size = .error e) ∨
        answer = .ok () ∧
          p.memory.memory.transfer p.memory.memory.failDownload "download failed" d b.data.size =
            .ok data.toArray) := by
  have all := download_eq recorded stored held
  have device : (HostMemory.adapter environment).download d b.data.toVector p.memory.memory =
      p.memory.memory.download d b.data.toVector := rfl
  rw [device] at all
  rcases download_cases (d := d) b.data.toVector (m := p.memory.memory) with ⟨e, moved, call⟩ | ⟨data, moved, call⟩
  · rw [call] at all
    exact ⟨.error e, b.data.toVector, all, .inl ⟨e, rfl, rfl, moved⟩⟩
  · rw [call] at all
    exact ⟨.ok (), data, all, .inr ⟨rfl, moved⟩⟩

theorem Stores.of_upload (recorded : p.adapter = (HostMemory.adapter environment).recorded)
    (distinct : p.storage.Nodup) (done : (p.event (.upload id)).answer = .ok ()) :
    ∃ b d, p.graph.buffer id = .ok b ∧ (p.event (.upload id)).after.Stores id d b.data := by
  have step : p.Step (.upload id) (p.event (.upload id)).answer (p.event (.upload id)).after :=
    upload_step recorded id
  have leads : p.memory.Leads (HostMemory.adapter environment) (p.event (.upload id)).after.memory :=
    upload_leads recorded id
  rw [done] at step
  generalize (p.event (.upload id)).after = p' at step leads ⊢
  cases step with
  | edited only => cases only
  | @uploaded _ d b _ memory stored held =>
    obtain ⟨-, known, place⟩ := stored_of_requireStorage stored
    obtain ⟨_, first, rest⟩ := Adapter.Serves.cons_iff.mp (leads.serves rfl)
    obtain rfl := Adapter.Serves.nil_iff.mp rest
    refine ⟨b, d, held, (Registry.contains_iff.mp known).1, place, distinct, ?_⟩
    cases first with
    | upload h =>
      simp only [HostMemory.adapter, HostMemory.upload] at h
      split at h
      · cases h
      · rename_i old moved
        obtain ⟨-, there, -⟩ := transfer_eq_ok.mp moved
        cases h
        have found : (p.memory.memory.buffers.modify d.key fun _ => b.data).get? d.key = some b.data := by
          rw [SlotTable.get?_modify, if_pos rfl]
          exact congrArg (Option.map fun _ => b.data) there
        exact found

theorem Stores.download (recorded : p.adapter = (HostMemory.adapter environment).recorded)
    (stores : p.Stores id d data) (done : (p.event (.download id)).answer = .ok ()) :
    ∃ now, p.graph.buffer id = .ok now ∧
      (p.event (.download id)).after = { p with
        memory := (p.event (.download id)).after.memory
        graph := { p.graph with registry := { p.graph.registry with
          buffers := p.graph.registry.buffers.set id.index { now with data } } } } ∧
      (p.event (.download id)).after.memory.memory.buffers = p.memory.memory.buffers := by
  have answer : (p.event (.download id)).answer = (p.download id).1 := rfl
  have after : (p.event (.download id)).after = (p.download id).2 := rfl
  have step : p.Step (.download id) (p.download id).1 (p.download id).2 := download_step recorded id
  rw [answer] at done
  rw [done] at step
  obtain ⟨d', b, stored, held⟩ : ∃ d' b, p.requireStorage id = .ok d' ∧ p.graph.buffer id = .ok b := by
    generalize (p.download id).2 = p' at step
    cases step with
    | edited only => cases only
    | downloaded _ _ _ stored held => exact ⟨_, _, stored, held⟩
  obtain ⟨-, -, place⟩ := stored_of_requireStorage stored
  obtain rfl : d' = d := Option.some.inj (place.symm.trans stores.place)
  obtain ⟨_, got, all, moved⟩ := download_on_host recorded stored held
  rw [all] at done
  rcases moved with ⟨e, rfl, -⟩ | ⟨rfl, moved⟩
  · cases done
  · obtain ⟨-, there, -⟩ := transfer_eq_ok.mp moved
    obtain rfl : data = got.toArray := Option.some.inj (stores.contents.symm.trans there)
    exact ⟨b, held, by rw [after, all], by rw [after, all]; rfl⟩

/-- After an upload, a download of the same buffer brings back what was uploaded, whatever was done in between to the
host contents and to other buffers, and changes nothing else on the host and nothing on the device. -/
theorem download_returns_upload (environment : Environment) (settings : HostMemory) (owner : Owner)
    (before after : List Action) (id : BufferId) :
    let p := (watched (HostMemory.adapter environment) settings.initial owner).play before
    let up := p.event (.upload id)
    let q := up.after.play after
    let down := q.event (.download id)
    p.graph.registry.buffers.length < UInt32.size → up.answer = .ok () →
    (∀ act ∈ after, act ≠ .allocate ∧ act ≠ .upload id) →
    (∀ e ∈ up.after.history after, e.action = .run → ∀ c ∈ e.before.compiled, ∀ b ∈ c.outputs, b.buffer ≠ id) →
    down.answer = .ok () →
      ∃ b now, p.graph.buffer id = .ok b ∧ q.graph.buffer id = .ok now ∧
        down.after = { q with
          memory := down.after.memory
          graph := { q.graph with registry := { q.graph.registry with
            buffers := q.graph.registry.buffers.set id.index { now with data := b.data } } } } ∧
        down.after.memory.memory.buffers = q.memory.memory.buffers := by
  intro p up q down few uploaded others unwritten downloaded
  have recorded : p.adapter = (HostMemory.adapter environment).recorded :=
    play_adapter (p := watched (HostMemory.adapter environment) settings.initial owner) rfl before
  have stocked := storage_in_use environment settings owner before few
  obtain ⟨b, d, held, stores⟩ := Stores.of_upload recorded (stocked.nodup.of_map _) uploaded
  have uploading : up.after.adapter = (HostMemory.adapter environment).recorded :=
    (upload_step recorded id).adapter.trans recorded
  have kept : q.Stores id d b.data := stores.play after uploading others unwritten
  obtain ⟨now, present, changed, same⟩ := kept.download (play_adapter uploading after) downloaded
  exact ⟨b, now, held, present, changed, same⟩

def besides : List Action :=
  Action.twoKernels ++
    [.createBuffer "a" 1, .editBuffer ⟨⟨0⟩, 1⟩ (.setData #[Single.ofInt 3]), .allocate, .build]

def overwrites : List Action :=
  [.run, .editBuffer ⟨⟨0⟩, 1⟩ (.setData #[Single.ofInt 9]), .download ⟨⟨0⟩, 0⟩, .createBuffer "c" 1,
    .upload ⟨⟨0⟩, 0⟩, .build]

theorem download_returns_upload_overwritten :
    let p := (watched (HostMemory.adapter .openCL) HostMemory.twoKernels.initial ⟨0⟩).play besides
    let up := p.event (.upload ⟨⟨0⟩, 1⟩)
    let q := up.after.play overwrites
    let down := q.event (.download ⟨⟨0⟩, 1⟩)
    p.graph.registry.buffers.length < UInt32.size ∧ up.answer = .ok () ∧ down.answer = .ok () ∧
      p.graph.registry.buffers[1]?.map (·.data) = some #[Single.ofInt 3] ∧
      q.graph.registry.buffers[1]?.map (·.data) = some #[Single.ofInt 9] ∧
      ∃ b now, p.graph.buffer ⟨⟨0⟩, 1⟩ = .ok b ∧ q.graph.buffer ⟨⟨0⟩, 1⟩ = .ok now ∧
        down.after = { q with
          memory := down.after.memory
          graph := { q.graph with registry := { q.graph.registry with
            buffers := q.graph.registry.buffers.set 1 { now with data := b.data } } } } ∧
        down.after.memory.memory.buffers = q.memory.memory.buffers := by
  have others : ∀ act ∈ overwrites, act ≠ .allocate ∧ act ≠ .upload ⟨⟨0⟩, 1⟩ := by simp [overwrites]
  have first : ∀ c ∈ (((watched (HostMemory.adapter .openCL) HostMemory.twoKernels.initial ⟨0⟩).play besides).event
      (.upload ⟨⟨0⟩, 1⟩)).after.compiled, ∀ b ∈ c.outputs, b.buffer ≠ ⟨⟨0⟩, 1⟩ := by decide +kernel
  have unwritten : ∀ e ∈ (((watched (HostMemory.adapter .openCL) HostMemory.twoKernels.initial ⟨0⟩).play
      besides).event (.upload ⟨⟨0⟩, 1⟩)).after.history overwrites, e.action = .run →
        ∀ c ∈ e.before.compiled, ∀ b ∈ c.outputs, b.buffer ≠ ⟨⟨0⟩, 1⟩ := by
    simp only [overwrites, history, List.forall_mem_cons]
    exact ⟨fun _ => first, nofun, nofun, nofun, nofun, nofun, by simp⟩
  have back := download_returns_upload .openCL .twoKernels ⟨0⟩ besides overwrites ⟨⟨0⟩, 1⟩ (by decide +kernel)
    (by decide +kernel) others unwritten (by decide +kernel)
  exact ⟨by decide +kernel, by decide +kernel, by decide +kernel, by decide +kernel, by decide +kernel, back⟩

end Processor

end PixelPipeline
