import PixelPipeline.Proofs.Lookup
import PixelPipeline.Proofs.Session

/-!
Edits of a receiver that keeps what was written to it before an error. Main statements: every edit checks before it
writes, so that a refused one leaves the receiver as it was.
-/
namespace PixelPipeline

/-- What is written stays written, also where an error follows. -/
abbrev InPlace (σ α : Type) := ExceptT Error (StateM σ) α

namespace InPlace

variable {σ τ α β : Type}

def on (program : InPlace σ α) (s : σ) : Except Error α × σ := program.run s

def require (answer : Except Error α) : InPlace σ α := ExceptT.mk (pure answer)

def focus (part : τ → σ) (put : τ → σ → τ) (program : InPlace σ α) : InPlace τ α := fun t =>
  let (answer, s) := program.on (part t)
  (answer, put t s)

/-- Works on what is found in the receiver, if anything is. -/
def item (look : τ → Except Error σ) (put : τ → σ → τ) (program : InPlace σ Unit) : InPlace τ Unit := do
  let s ← require (look (← get))
  focus (fun _ => s) put program

variable {program : InPlace σ α} {s : σ}

@[simp] theorem on_pure (a : α) : (pure a : InPlace σ α).on s = (.ok a, s) := rfl

@[simp] theorem on_get : (get : InPlace σ σ).on s = (.ok s, s) := rfl

@[simp] theorem on_modify (change : σ → σ) : (modify change : InPlace σ PUnit).on s = (.ok (), change s) := rfl

@[simp] theorem on_throw (e : Error) : (throw e : InPlace σ α).on s = (.error e, s) := rfl

@[simp] theorem on_require (answer : Except Error α) : (require answer).on s = (answer, s) := rfl

@[simp] theorem on_bind (next : α → InPlace σ β) : (program >>= next).on s =
    match program.on s with
    | (.ok a, t) => (next a).on t
    | (.error e, t) => (.error e, t) := by
  change (ExceptT.bindCont next (program.on s).1).run (program.on s).2 = _
  rcases program.on s with ⟨_ | a, t⟩ <;> rfl

@[simp] theorem on_ite (c : Prop) [Decidable c] (first second : InPlace σ α) :
    (if c then first else second).on s = if c then first.on s else second.on s :=
  apply_ite (fun program => program.on s) c first second

/-- What an edit leaves: its result, or the receiver as it was. -/
def settle (s : σ) : Except Error (α × σ) → Except Error α × σ
  | .ok (a, t) => (.ok a, t)
  | .error e => (.error e, s)

@[simp] theorem settle_ok (a : α) (t : σ) : settle s (.ok (a, t)) = (.ok a, t) := rfl

@[simp] theorem settle_error (e : Error) : settle s (.error e : Except Error (α × σ)) = (.error e, s) := rfl

@[simp] theorem settle_ite (c : Prop) [Decidable c] (first second : Except Error (α × σ)) :
    settle s (if c then first else second) = if c then settle s first else settle s second :=
  apply_ite (settle s) c first second

theorem on_focus {part : τ → σ} {put : τ → σ → τ} {t : τ} {edited : Except Error (α × σ)}
    (kept : put t (part t) = t) (settled : program.on (part t) = settle (part t) edited) :
    (focus part put program).on t = settle t (edited.map fun (a, s) => (a, put t s)) := by
  change ((program.on (part t)).1, put t (program.on (part t)).2) = _
  rw [settled]
  cases edited with
  | error e => exact congrArg (Prod.mk _) kept
  | ok made => rfl

theorem on_item {look : τ → Except Error σ} {put : τ → σ → τ} {program : InPlace σ Unit}
    {edit : σ → Except Error σ} {t : τ} (settled : ∀ s, program.on s = settle s ((edit s).map ((), ·)))
    (kept : ∀ s, look t = .ok s → put t s = t) :
    (item look put program).on t = settle t ((look t >>= edit).map fun s => ((), put t s)) := by
  simp only [item, on_bind, on_get, on_require]
  cases found : look t with
  | error e => rfl
  | ok s =>
    refine Eq.trans (on_focus (kept s found) (settled s)) ?_
    show _ = settle t ((edit s).map fun s => ((), put t s))
    cases edit s <;> rfl

theorem on_map {edited : Except Error (α × σ)} (settled : program.on s = settle s edited) (f : α → β) :
    (do return f (← program) : InPlace σ β).on s = settle s (edited.map fun (a, t) => (f a, t)) := by
  rw [on_bind, settled]
  cases edited <;> rfl

theorem on_look (look : σ → Except Error α) (f : α → β) :
    (do return f (← require (look (← get))) : InPlace σ β).on s =
      settle s ((look s).map fun a => (f a, s)) := by
  simp only [on_bind, on_get, on_require]
  cases look s <;> rfl

def setValue (p : Parameter) : InPlace ParameterSet Unit := do
  let s ← get
  match s.find? p.name with
  | some existing =>
    if existing.value.type ≠ p.value.type then throw (.typeMismatch p.name existing.value.type p.value.type)
    modify fun s => ⟨ParameterSet.replaceFirst p s.entries⟩
  | none => modify fun s => ⟨s.entries ++ [p]⟩

def attach (add : Kernel → Binding → Kernel) (name : String) (buffer : BufferId) : InPlace Kernel Unit := do
  require ((← get).checkBinding name buffer)
  modify fun k => add k ⟨name, buffer⟩

def setParameter (p : Parameter) : InPlace Kernel Unit := do
  let k ← get
  if k.isBound p.name then throw (.duplicateBinding k.name p.name)
  focus (·.parameters) (fun k parameters => { k with parameters }) (setValue p)

def editKernel : KernelEdit → InPlace Kernel Unit
  | .bindInput name buffer => attach (fun k b => { k with inputs := k.inputs ++ [b] }) name buffer
  | .bindOutput name buffer => attach (fun k b => { k with outputs := k.outputs ++ [b] }) name buffer
  | .setParameter p => setParameter p
  | .setSource source => modify (·.setSource source)

theorem on_setValue (p : Parameter) (s : ParameterSet) :
    (setValue p).on s = settle s ((s.set p).map ((), ·)) := by
  simp only [setValue, ParameterSet.set, on_bind, on_get]
  cases s.find? p.name with
  | none => rfl
  | some existing =>
    by_cases same : existing.value.type = p.value.type <;> simp [same, Except.map]

theorem on_attach (add : Kernel → Binding → Kernel) (name : String) (buffer : BufferId) (k : Kernel) :
    (attach add name buffer).on k =
      settle k ((k.checkBinding name buffer).map fun _ => ((), add k ⟨name, buffer⟩)) := by
  simp only [attach, on_bind, on_get, on_require]
  cases k.checkBinding name buffer <;> rfl

theorem on_setParameter (p : Parameter) (k : Kernel) :
    (setParameter p).on k = settle k ((k.setParameter p).map ((), ·)) := by
  simp only [setParameter, Kernel.setParameter, on_bind, on_get]
  cases k.isBound p.name with
  | true => rfl
  | false =>
    simp only [Bool.false_eq_true, if_false]
    refine Eq.trans (on_focus rfl (on_setValue p k.parameters)) ?_
    cases k.parameters.set p <;> rfl

theorem on_editKernel (edit : KernelEdit) (k : Kernel) :
    (editKernel edit).on k = settle k ((edit.apply k).map ((), ·)) := by
  cases edit with
  | bindInput name buffer =>
    rw [editKernel, on_attach, KernelEdit.apply, Kernel.bindInput]
    cases k.checkBinding name buffer <;> rfl
  | bindOutput name buffer =>
    rw [editKernel, on_attach, KernelEdit.apply, Kernel.bindOutput]
    cases k.checkBinding name buffer <;> rfl
  | setParameter p => exact on_setParameter p k
  | setSource source => rfl

def setData (data : Array Single) : InPlace Buffer Unit := do
  let b ← get
  if data.size ≠ b.size then throw (.sizeMismatch b.size data.size)
  modify fun b => { b with data }

def editBuffer : BufferEdit → InPlace Buffer Unit
  | .setData data => setData data
  | .overwrite change => modify fun b => { b with data := (change b.data.size b.data.toVector).toArray }

def setRegistryDimensions (width height : UInt32) : InPlace Registry Unit := do
  let r ← get
  if !r.buffers.isEmpty then throw (.misuse .dimensionsFixed)
  modify fun r => { r with width }
  modify fun r => { r with height }

def create (name : String) (channels : UInt32) : InPlace Registry BufferId := do
  let r ← get
  if r.width = 0 || r.height = 0 then throw (.misuse .dimensionsUnset)
  if channels < 1 || 4 < channels then throw (.invalidChannels channels)
  if r.buffers.any (·.name == name) then throw (.duplicateName .buffer name)
  if largestBlock < Single.byteCount * (Buffer.elementCount r.width r.height channels).toNat then throw .overflow
  modify fun r => { r with buffers := r.buffers ++ [.zeroed name r.width r.height channels] }
  let r ← get
  return ⟨r.owner, r.buffers.length - 1⟩

def atBuffer (id : BufferId) (program : InPlace Buffer Unit) : InPlace Registry Unit :=
  item (·.get id) (fun r b => { r with buffers := r.buffers.set id.index b }) program

def registry (program : InPlace Registry α) : InPlace Graph α :=
  focus (·.registry) (fun g registry => { g with registry }) program

def setDimensions (width height : UInt32) : InPlace Graph Unit := do
  if width = 0 || height = 0 || Graph.largestDimension < width || Graph.largestDimension < height then
    throw (.invalidDimensions width height)
  registry (setRegistryDimensions width height)

def createKernel (name : String) : InPlace Graph KernelId := do
  if (← get).kernels.any (·.name == name) then throw (.duplicateName .kernel name)
  modify fun g => { g with kernels := g.kernels ++ [.empty name g.owner] }
  let g ← get
  return ⟨g.owner, g.kernels.length - 1⟩

def atKernel (id : KernelId) (program : InPlace Kernel Unit) : InPlace Graph Unit :=
  item (·.kernel id) (fun g k => { g with kernels := g.kernels.set id.index k }) program

theorem on_setData (data : Array Single) (b : Buffer) :
    (setData data).on b = settle b ((b.setData data).map ((), ·)) := by
  simp only [setData, Buffer.setData, on_bind, on_get]
  by_cases same : data.size = b.size <;> simp [same, Except.map]

theorem on_editBuffer (edit : BufferEdit) (b : Buffer) :
    (editBuffer edit).on b = settle b ((edit.apply b).map ((), ·)) := by
  cases edit with
  | setData data => exact on_setData data b
  | overwrite change => rfl

theorem on_setRegistryDimensions (width height : UInt32) (r : Registry) :
    (setRegistryDimensions width height).on r = settle r ((r.setDimensions width height).map ((), ·)) := by
  simp only [setRegistryDimensions, Registry.setDimensions, on_bind, on_get]
  cases r.buffers.isEmpty <;> rfl

theorem on_create (name : String) (channels : UInt32) (r : Registry) :
    (create name channels).on r = settle r (r.create name channels) := by
  simp [create, Registry.create, -bind_pure_comp]

theorem on_atBuffer {program : InPlace Buffer Unit} {edit : Buffer → Except Error Buffer}
    (settled : ∀ b, program.on b = settle b ((edit b).map ((), ·))) (id : BufferId) (r : Registry) :
    (atBuffer id program).on r = settle r ((r.modify id edit).map ((), ·)) := by
  refine Eq.trans (on_item settled fun b held => ?_) ?_
  · obtain ⟨early, rfl⟩ := List.getElem?_eq_some_iff.mp (Registry.get_eq_ok.mp held).2
    simp only [List.set_getElem_self]
  · rw [Registry.modify]
    cases r.get id with
    | error e => rfl
    | ok b =>
      show settle r ((edit b).map _) = settle r ((edit b >>= _).map _)
      cases edit b <;> rfl

theorem on_registry {program : InPlace Registry α} {g : Graph} {edited : Except Error (α × Registry)}
    (settled : program.on g.registry = settle g.registry edited) :
    (registry program).on g = settle g (edited.map fun (a, registry) => (a, { g with registry })) :=
  on_focus rfl settled

theorem on_setDimensions (width height : UInt32) (g : Graph) :
    (setDimensions width height).on g = settle g ((g.setDimensions width height).map ((), ·)) := by
  have fixed := on_registry (on_setRegistryDimensions width height g.registry)
  simp only [setDimensions, Graph.setDimensions, on_bind, on_ite, on_throw, fixed]
  split_ifs
  · rfl
  · cases g.registry.setDimensions width height <;> rfl

theorem on_createKernel (name : String) (g : Graph) :
    (createKernel name).on g = settle g (g.createKernel name) := by
  simp [createKernel, Graph.createKernel, Graph.owner, -bind_pure_comp]

theorem on_atKernel {program : InPlace Kernel Unit} {edit : Kernel → Except Error Kernel}
    (settled : ∀ k, program.on k = settle k ((edit k).map ((), ·))) (id : KernelId) (g : Graph) :
    (atKernel id program).on g = settle g ((g.modifyKernel id edit).map ((), ·)) := by
  refine Eq.trans (on_item settled fun k held => ?_) ?_
  · obtain ⟨early, rfl⟩ := List.getElem?_eq_some_iff.mp (Graph.kernel_eq_ok.mp held).2
    simp only [List.set_getElem_self]
  · rw [Graph.modifyKernel]
    cases g.kernel id with
    | error e => rfl
    | ok k =>
      show settle g ((edit k).map _) = settle g ((edit k >>= _).map _)
      cases edit k <;> rfl

end InPlace

end PixelPipeline
