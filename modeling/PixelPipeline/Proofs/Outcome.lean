import Mathlib.Data.List.Forall2
import PixelPipeline.Processor.Lifecycle

namespace PixelPipeline.Outcome

variable {ε α β : Type}

theorem bind_eq_ok {x : Except ε α} {f : α → Except ε β} {b : β} :
    (x >>= f) = .ok b ↔ ∃ a, x = .ok a ∧ f a = .ok b := by
  cases x with
  | error e => simp [bind, Except.bind]
  | ok a => simp [bind, Except.bind]

theorem bind_eq_error {x : Except ε α} {f : α → Except ε β} {e : ε} :
    (x >>= f) = .error e ↔ x = .error e ∨ ∃ a, x = .ok a ∧ f a = .error e := by
  cases x with
  | error e => simp [bind, Except.bind]
  | ok a => simp [bind, Except.bind]

theorem pure_ne_error {a : α} {e : ε} : (pure a : Except ε α) ≠ .error e := by
  intro made
  cases made

theorem bind_ne_error {x : Except ε α} {f : α → Except ε β} {e : ε} (first : x ≠ .error e)
    (later : ∀ a, f a ≠ .error e) : (x >>= f) ≠ .error e := by
  intro failed
  rcases bind_eq_error.mp failed with failed | ⟨a, -, failed⟩
  · exact first failed
  · exact later a failed

theorem ran_bind {S : Type} {x : ExceptT ε (StateM S) α} {f : α → ExceptT ε (StateM S) β} {s t : S} {b : β} :
    (x >>= f) s = (.ok b, t) ↔ ∃ a r, x s = (.ok a, r) ∧ f a r = (.ok b, t) := by
  have step : (x >>= f) s = ExceptT.bindCont f (x s).1 (x s).2 := rfl
  rw [step]
  rcases x s with ⟨e | a, r⟩
  · constructor
    · intro made
      cases made
    · rintro ⟨_, _, made, -⟩
      cases made
  · constructor
    · intro made
      exact ⟨a, r, rfl, made⟩
    · rintro ⟨_, _, made, later⟩
      cases made
      exact later

theorem ran_lift {S : Type} {x : StateM S α} {s t : S} {a : α} :
    (liftM x : ExceptT ε (StateM S) α) s = (.ok a, t) ↔ x s = (a, t) := by
  have step : (liftM x : ExceptT ε (StateM S) α) s = (.ok (x s).1, (x s).2) := rfl
  rw [step]
  rcases x s with ⟨b, r⟩
  constructor
  · intro made
    cases made
    rfl
  · intro made
    cases made
    rfl

theorem guard_eq_ok {refused : Prop} [Decidable refused] {x : Except ε α} {e : ε} {a : α} :
    (if refused then .error e else x) = .ok a ↔ ¬ refused ∧ x = .ok a := by
  split <;> simp_all

theorem guard_eq_error {refused : Prop} [Decidable refused] {x : Except ε α} {e e' : ε} :
    (if refused then .error e else x) = .error e' ↔ refused ∧ e = e' ∨ ¬ refused ∧ x = .error e' := by
  split <;> simp_all

theorem map_eq_ok {x : Except ε α} {f : α → β} {b : β} :
    x.map f = .ok b ↔ ∃ a, x = .ok a ∧ f a = b := by
  cases x <;> simp [Except.map]

theorem map_eq_error {x : Except ε α} {f : α → β} {e : ε} : x.map f = .error e ↔ x = .error e := by
  cases x <;> simp [Except.map]

theorem mapError_eq_ok {ε' : Type} {x : Except ε α} {report : ε → ε'} {a : α} :
    x.mapError report = .ok a ↔ x = .ok a := by
  cases x <;> simp [Except.mapError]

theorem toOption_eq_some {x : Except ε α} {a : α} : x.toOption = some a ↔ x = .ok a := by
  cases x <;> simp [Except.toOption]

theorem mapM_eq_ok {f : α → Except ε β} {xs : List α} {ys : List β} :
    xs.mapM f = .ok ys ↔ List.Forall₂ (fun x y => f x = .ok y) xs ys := by
  induction xs generalizing ys with
  | nil =>
    rw [List.forall₂_nil_left_iff]
    exact ⟨fun h => by cases h; rfl, fun h => by subst h; rfl⟩
  | cons x xs ih =>
    simp only [List.mapM_cons, bind_eq_ok, List.forall₂_cons_left_iff]
    constructor
    · rintro ⟨y, first, rest, others, all⟩
      cases all
      exact ⟨y, rest, first, ih.mp others, rfl⟩
    · rintro ⟨y, rest, first, others, rfl⟩
      exact ⟨y, first, rest, ih.mpr others, rfl⟩

theorem forM_eq_ok {f : α → Except ε Unit} {xs : List α} :
    xs.forM f = .ok () ↔ ∀ x ∈ xs, f x = .ok () := by
  induction xs with
  | nil => simp [pure, Except.pure]
  | cons x xs ih =>
    have unfolded : (x :: xs).forM f = f x >>= fun _ => xs.forM f := rfl
    rw [unfolded, bind_eq_ok, List.forall_mem_cons, ← ih]
    constructor
    · rintro ⟨_, first, rest⟩
      exact ⟨first, rest⟩
    · exact fun ⟨first, rest⟩ => ⟨(), first, rest⟩

theorem exists_of_forM_eq_error {f : α → Except ε Unit} {xs : List α} {e : ε} (failed : xs.forM f = .error e) :
    ∃ x ∈ xs, f x = .error e := by
  induction xs with
  | nil => cases failed
  | cons x xs ih =>
    have unfolded : (x :: xs).forM f = f x >>= fun _ => xs.forM f := rfl
    rw [unfolded] at failed
    rcases bind_eq_error.mp failed with first | ⟨_, -, later⟩
    · exact ⟨x, List.mem_cons_self, first⟩
    · obtain ⟨y, member, failed⟩ := ih later
      exact ⟨y, List.mem_cons_of_mem x member, failed⟩

theorem exists_mapM_eq_ok {f : α → Except ε β} {xs : List α} :
    (∃ ys, xs.mapM f = .ok ys) ↔ ∀ x ∈ xs, ∃ y, f x = .ok y := by
  simp only [mapM_eq_ok]
  induction xs with
  | nil => simp
  | cons x xs ih =>
    simp only [List.forall₂_cons_left_iff, List.forall_mem_cons, ← ih]
    constructor
    · rintro ⟨_, y, ys, first, rest, -⟩
      exact ⟨⟨y, first⟩, ys, rest⟩
    · rintro ⟨⟨y, first⟩, ys, rest⟩
      exact ⟨_, y, ys, first, rest, rfl⟩

theorem mapM_related {f : α → Except ε β} {related : α → β → Prop} {xs : List α}
    (each : ∀ x ∈ xs, ∃ y, f x = .ok y ∧ related x y) :
    ∃ ys, xs.mapM f = .ok ys ∧ List.Forall₂ related xs ys := by
  obtain ⟨ys, all⟩ := exists_mapM_eq_ok.mpr fun x member => (each x member).imp fun _ made => made.1
  refine ⟨ys, all, ?_⟩
  rw [mapM_eq_ok, List.forall₂_iff_zip] at all
  rw [List.forall₂_iff_zip]
  refine ⟨all.1, fun {x y} member => ?_⟩
  obtain ⟨z, made, known⟩ := each x (List.of_mem_zip member).1
  rw [all.2 member] at made
  cases made
  exact known

theorem mapM_eq_error {f : α → Except ε β} {xs : List α} {e : ε} :
    xs.mapM f = .error e ↔
      ∃ before x after, xs = before ++ x :: after ∧ (∀ y ∈ before, ∃ b, f y = .ok b) ∧ f x = .error e := by
  induction xs with
  | nil =>
    constructor
    · intro h
      cases h
    · rintro ⟨before, x, after, split, -⟩
      simp at split
  | cons x xs ih =>
    simp only [List.mapM_cons, bind_eq_error, ih]
    constructor
    · rintro (first | ⟨y, first, (⟨before, z, after, rfl, earlier, failed⟩ | ⟨_, _, impossible⟩)⟩)
      · exact ⟨[], x, xs, rfl, by simp, first⟩
      · refine ⟨x :: before, z, after, rfl, ?_, failed⟩
        intro w member
        rcases List.mem_cons.mp member with rfl | member
        · exact ⟨y, first⟩
        · exact earlier w member
      · cases impossible
    · rintro ⟨before, z, after, split, earlier, failed⟩
      cases before with
      | nil =>
        obtain ⟨rfl, rfl⟩ := List.cons.inj split
        exact .inl failed
      | cons w before =>
        obtain ⟨rfl, rfl⟩ := List.cons.inj split
        obtain ⟨y, first⟩ := earlier x List.mem_cons_self
        exact .inr ⟨y, first, .inl ⟨before, z, after, rfl,
          fun w member => earlier w (List.mem_cons_of_mem _ member), failed⟩⟩

end PixelPipeline.Outcome

namespace PixelPipeline

open Outcome

variable {σ : Type}

def Kernel.valueOf (k : Kernel) (name : String) : Except Error Parameter :=
  match k.parameters.find? name with
  | some p => .ok p
  | none => .error (.notFound .parameter name)

theorem Kernel.valueOf_eq_ok {k : Kernel} {name : String} {p : Parameter} :
    k.valueOf name = .ok p ↔ k.parameters.find? name = some p := by
  unfold valueOf
  split <;> simp_all

namespace Processor

theorem checkBindings_eq_mapM (p : Processor σ) (bindings : List Binding) :
    p.checkBindings bindings = (bindings.mapM fun b => p.requireStorage b.buffer).map fun _ => () := by
  induction bindings with
  | nil => rfl
  | cons b rest ih =>
    simp only [checkBindings, List.mapM_cons, ih]
    cases p.requireStorage b.buffer with
    | error e => rfl
    | ok d => cases rest.mapM fun b => p.requireStorage b.buffer <;> rfl

theorem prepareAll_eq_mapM (p : Processor σ) (entries : List (KernelId × Kernel)) :
    p.prepareAll entries = entries.mapM fun entry => p.prepare entry.1 entry.2 := by
  induction entries with
  | nil => rfl
  | cons entry rest ih => simp only [prepareAll, List.mapM_cons, ih]

theorem resolveBindings_eq_mapM (g : Graph) (storage : List DeviceBuffer) (bindings : List Binding) :
    resolveBindings g storage bindings =
      bindings.mapM fun b => (deviceBuffer g storage b.buffer).map (b.name, ·) := by
  induction bindings with
  | nil => rfl
  | cons b rest ih =>
    simp only [resolveBindings, List.mapM_cons, ih]
    cases deviceBuffer g storage b.buffer <;> rfl

theorem resolveParameters_eq_mapM (k : Kernel) (names : List String) :
    resolveParameters k names = names.mapM k.valueOf := by
  induction names with
  | nil => rfl
  | cons name rest ih =>
    simp only [resolveParameters, List.mapM_cons, ih, Kernel.valueOf]
    cases k.parameters.find? name <;> rfl

end Processor

theorem Signature.resolve_eq_mapM (r : Registry) (bindings : List Binding) :
    resolve r bindings = bindings.mapM fun b => (r.get b.buffer).map fun buffer => ⟨b.name, buffer.channels⟩ := by
  induction bindings with
  | nil => rfl
  | cons b rest ih =>
    simp only [resolve, List.mapM_cons, ih]
    cases r.get b.buffer <;> rfl

end PixelPipeline
