import PixelPipeline.Proofs.Ledger
import PixelPipeline.Proofs.Script

/-!
How an execution carries out its duties, put together from its steps. Main statement: steps that carry out some
duties each carry them all out in order one after another.
-/
namespace PixelPipeline.Run

open DeviceCall

variable {σ W α β : Type}

/-- An execution over a device and surroundings that both keep a record. -/
abbrev Watched (σ W α : Type) : Type := Running (Recorded σ) (StateM (Journal W)) α

section

variable {x : Watched σ W α} {f : α → Watched σ W β} {p p' : Processor (Recorded σ)} {j j' : Journal W} {a : α}
  {e : Failure}

theorem bind_of_ok (ran : x p j = ((.ok a, p'), j')) : (x >>= f) p j = f a p' j' := by
  have step : (x >>= f) p j = ExceptT.bindCont f (x p j).1.1 (x p j).1.2 (x p j).2 := rfl
  rw [step, ran]
  rfl

theorem bind_of_error (ran : x p j = ((.error e, p'), j')) : (x >>= f) p j = ((.error e, p'), j') := by
  have step : (x >>= f) p j = ExceptT.bindCont f (x p j).1.1 (x p j).1.2 (x p j).2 := rfl
  rw [step, ran]
  rfl

theorem perform_eq (activity : Option Activity) {operation : Operation (Recorded σ) α} {answer : Except Error α}
    (done : operation p = (answer, p')) : (perform activity operation : Watched σ W α) p j =
      ((answer.mapError fun e => ⟨activity, .rejected e⟩, p'), j) := by
  have step : (perform activity operation : Watched σ W α) p j =
      (((operation p).1.mapError fun e => ⟨activity, .rejected e⟩, (operation p).2), j) := rfl
  rw [step, done]

theorem outside_eq {action : StateM (Journal W) (Except Failure α)} {answer : Except Failure α}
    (done : action j = (answer, j')) : (outside action : Watched σ W α) p j = ((answer, p), j') := by
  have step : (outside action : Watched σ W α) p j = (((action j).1, p), (action j).2) := rfl
  rw [step, done]

end

theorem isOk_mapError {ε ε' : Type} (answer : Except ε α) (report : ε → ε') :
    (answer.mapError report).isOk = answer.isOk := by
  cases answer <;> rfl

def Closes (p : Processor (Recorded σ)) (calls : List DeviceCall) : Prop :=
  p.drop.calls = calls ++ (calls.filterMap issued?).map .release

/-- An execution carries out duties in order, up to the first that fails. -/
def Yields (x : Watched σ W α) (p : Processor (Recorded σ)) (j : Journal W) (duties : List Duty)
    (post : α → Processor (Recorded σ) → Journal W → Prop) : Prop :=
  ∃ result p' j' trace, x p j = ((result, p'), j') ∧ InOrder duties trace result.isOk ∧
    j'.writes = j.writes ++ Access.writes trace ∧ Closes p' (p.calls ++ Access.calls trace) ∧
    ∀ a, result = .ok a → p'.calls = p.calls ++ Access.calls trace ∧ post a p' j'

namespace Yields

variable {x : Watched σ W α} {f : α → Watched σ W β} {p p' : Processor (Recorded σ)} {j j' : Journal W} {a : α}
  {first rest : List Duty} {mid : α → Processor (Recorded σ) → Journal W → Prop}
  {post : β → Processor (Recorded σ) → Journal W → Prop}

theorem bind_exists {γ : Type} [Inhabited γ] (rest : γ → List Duty) (early : Yields x p j first mid)
    (late : ∀ a p' j', mid a p' j' → ∃ c, Yields (f a) p' j' (rest c) post) :
    ∃ c, Yields (x >>= f) p j (first ++ rest c) post := by
  obtain ⟨result, p', j', trace, ran, order, written, closes, succeeded⟩ := early
  cases result with
  | error e =>
    refine ⟨default, .error e, p', j', trace, bind_of_error ran, InOrder.append_iff.mpr (.inl ⟨order, rfl⟩),
      written, closes, fun b impossible => ?_⟩
    cases impossible
  | ok a =>
    obtain ⟨called, held⟩ := succeeded a rfl
    obtain ⟨c, result, last, k, later, ran', order', written', closes', succeeded'⟩ := late a p' j' held
    rw [called, List.append_assoc, ← Access.calls_append] at closes' succeeded'
    refine ⟨c, result, last, k, trace ++ later, (bind_of_ok ran).trans ran',
      InOrder.append_iff.mpr (.inr ⟨trace, later, rfl, order, order'⟩), ?_, closes', succeeded'⟩
    rw [written', written, List.append_assoc, Access.writes_append]

theorem bind (early : Yields x p j first mid) (late : ∀ a p' j', mid a p' j' → Yields (f a) p' j' rest post) :
    Yields (x >>= f) p j (first ++ rest) post := by
  obtain ⟨_, all⟩ := bind_exists (fun _ : Unit => rest) early fun a p' j' held => ⟨(), late a p' j' held⟩
  exact all

theorem imp {duties : List Duty} {post : α → Processor (Recorded σ) → Journal W → Prop}
    (carried : Yields x p j first post)
    (weaker : ∀ trace done, InOrder first trace done → InOrder duties trace done) : Yields x p j duties post := by
  obtain ⟨result, p', j', trace, ran, order, others⟩ := carried
  exact ⟨result, p', j', trace, ran, weaker _ _ order, others⟩

theorem needed {γ : Type} {known : γ → Prop} {duty : γ → Duty} {c : γ}
    {post : α → Processor (Recorded σ) → Journal W → Prop} (here : known c) (carried : Yields x p j [duty c] post) :
    Yields x p j [.needs known duty] post :=
  carried.imp fun _ _ all => InOrder.singleton.mpr (.inl ⟨c, here, InOrder.singleton.mp all⟩)

theorem silent (ran : x p j = ((.ok a, p'), j')) (calls : p'.calls = p.calls) (writes : j'.writes = j.writes)
    (later : Yields (f a) p' j' rest post) : Yields (x >>= f) p j rest post := by
  unfold Yields at later ⊢
  rw [calls, writes] at later
  rwa [bind_of_ok ran]

theorem quiet {post : α → Processor (Recorded σ) → Journal W → Prop} (ran : x p j = ((.ok a, p), j'))
    (writes : j'.writes = j.writes) (closes : Closes p p.calls) (held : post a p j') : Yields x p j [] post := by
  refine ⟨.ok a, p, j', [], ran, .nil, writes.trans (List.append_nil _).symm, ?_, fun b same => ?_⟩
  · rwa [Access.calls, List.filterMap_nil, List.append_nil]
  · cases same
    exact ⟨(List.append_nil _).symm, held⟩

theorem stopped {post : α → Processor (Recorded σ) → Journal W → Prop} {e : Failure} {duty : Duty}
    (ran : x p j = ((.error e, p'), j)) (closes : Closes p' p.calls) (fails : duty [] false) :
    Yields x p j (duty :: rest) post := by
  refine ⟨.error e, p', j, [], ran, .failed fails, (List.append_nil _).symm, ?_, fun a impossible => ?_⟩
  · rwa [Access.calls, List.filterMap_nil, List.append_nil]
  · cases impossible

theorem performed {activity : Option Activity} {operation : Operation (Recorded σ) α} {result : Except Error α}
    {calls : List DeviceCall} {duties : List Duty} {post : α → Processor (Recorded σ) → Journal W → Prop}
    (done : operation p = (result, p')) (order : InOrder duties (calls.map .call) result.isOk)
    (closes : Closes p' (p.calls ++ calls))
    (held : ∀ a, result = .ok a → p'.calls = p.calls ++ calls ∧ post a p' j) :
    Yields (perform activity operation) p j duties post := by
  refine ⟨_, p', j, calls.map .call, perform_eq activity done, ?_, ?_, ?_, fun a succeeded => ?_⟩
  · rwa [isOk_mapError]
  · rw [Access.writes_map_call, List.append_nil]
  · rwa [Access.calls_map_call]
  · rw [Access.calls_map_call]
    cases result with
    | error e => cases succeeded
    | ok b =>
      cases succeeded
      exact held a rfl

theorem asked {β : Type} {activity : Option Activity} {operation : Operation (Recorded σ) α}
    {result : Except Error α} (answer : Except Error β) {call : Except Error β → DeviceCall} {expected : β → Prop}
    {post : α → Processor (Recorded σ) → Journal W → Prop} (done : operation p = (result, p'))
    (called : p'.calls = p.calls ++ [call answer]) (same : result.isOk = answer.isOk)
    (known : ∀ b, answer = .ok b → expected b) (closes : Closes p' p'.calls)
    (held : ∀ a, result = .ok a → post a p' j) :
    Yields (perform activity operation) p j [.asks call expected] post := by
  refine .performed done ?_ (called ▸ closes) fun a succeeded => ⟨called, held a succeeded⟩
  rw [same]
  exact InOrder.singleton.mpr ⟨answer, rfl, rfl, known⟩

theorem saves {shell : Shell (StateM W)} {path : Path} {data : Array Single}
    {post : Processor (Recorded σ) → Prop} (closes : Closes p p.calls) (held : post p) :
    Yields (outside (RawFloats.save shell.recorded.files path data)) p j [.saves path data]
      fun _ p' _ => post p' := by
  obtain ⟨answer, world, saved⟩ := save_recorded shell j path data
  refine ⟨_, p, _, [.write ⟨path, RawFloats.encode data, answer⟩], outside_eq saved, ?_, rfl, ?_, fun _ _ => ?_⟩
  · rw [isOk_mapError]
    exact InOrder.singleton.mpr ⟨answer, rfl, rfl⟩
  · rwa [show Access.calls [.write ⟨path, RawFloats.encode data, answer⟩] = [] from rfl, List.append_nil]
  · exact ⟨(List.append_nil _).symm, held⟩

theorem forM {ι : Type} {body : ι → Watched σ W Unit} {duties : ι → List Duty}
    {holds : Processor (Recorded σ) → Journal W → Prop} (closed : ∀ p j, holds p j → Closes p p.calls)
    {xs : List ι} (each : ∀ i ∈ xs, ∀ p j, holds p j → Yields (body i) p j (duties i) fun _ => holds)
    (held : holds p j) : Yields (xs.forM body) p j (xs.flatMap duties) fun _ => holds := by
  induction xs generalizing p j with
  | nil => exact .quiet rfl rfl (closed p j held) held
  | cons i xs ih =>
    rw [List.flatMap_cons]
    refine (each i List.mem_cons_self p j held).bind fun _ p' j' held => ?_
    exact ih (fun i member => each i (List.mem_cons_of_mem _ member)) held

end Yields

end PixelPipeline.Run
