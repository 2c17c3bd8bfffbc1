import PixelPipeline.Proofs.Growth

namespace PixelPipeline

open Outcome

namespace Event

variable {σ : Type}

/-- The latest event of a kind. -/
def latest (kind : Event σ → Bool) (events : List (Event σ)) : Option (Event σ) :=
  (events.filter kind).getLast?

def sets? (id : KernelId) (name : String) : Event σ → Option Scalar
  | ⟨_, .editKernel target (.setParameter q), .ok _, _⟩ =>
    if target = id ∧ q.name = name then some q.value else none
  | _ => none

def lastValue (events : List (Event σ)) (id : KernelId) (name : String) : Option Scalar :=
  (events.filterMap (sets? id name)).getLast?

theorem latest_concat (kind : Event σ → Bool) (events : List (Event σ)) (e : Event σ) :
    latest kind (events ++ [e]) = if kind e then some e else latest kind events := by
  by_cases last : kind e <;> simp [latest, List.filter_append, last]

theorem lastValue_concat (events : List (Event σ)) (e : Event σ) (id : KernelId) (name : String) :
    lastValue (events ++ [e]) id name = (e.sets? id name).or (lastValue events id name) := by
  cases given : e.sets? id name <;> simp [lastValue, List.filterMap_append, given]

theorem sets?_of_error {p p' : Processor σ} {act : Action} {fault : Error} (id : KernelId)
    (name : String) : sets? id name ⟨p, act, .error fault, p'⟩ = none := by
  cases act with
  | editKernel target edit => cases edit <;> rfl
  | _ => rfl

end Event

open Event

variable {σ : Type}

structure Valued (events : List (Event (Recorded σ))) (g : Graph) : Prop where
  distinct : ∀ k ∈ g.kernels, k.parameters.Distinct
  latest : ∀ (i : Nat) k name q, g.kernels[i]? = some k → k.parameters.find? name = some q →
    lastValue events ⟨g.owner, i⟩ name = some q.value

section

variable {events : List (Event (Recorded σ))} {g h : Graph} {e : Event (Recorded σ)}

theorem Valued.start (g : Graph) (none : g.kernels = []) : Valued ([] : List (Event (Recorded σ))) g := by
  constructor <;> simp [none]

theorem Valued.quiet (valued : Valued events g) (silent : ∀ id name, e.sets? id name = none)
    (owner : h.owner = g.owner)
    (same : ∀ (i : Nat) l, h.kernels[i]? = some l →
      l.parameters = ∅ ∨ ∃ k, g.kernels[i]? = some k ∧ l.parameters = k.parameters) :
    Valued (events ++ [e]) h := by
  constructor
  · intro l member
    obtain ⟨i, found⟩ := List.mem_iff_getElem?.mp member
    rcases same i l found with empty | ⟨k, known, kept⟩
    · rw [empty]
      exact List.nodup_nil
    · rw [kept]
      exact valued.distinct k (List.mem_of_getElem? known)
  · intro i l name q found given
    rw [lastValue_concat, silent, Option.none_or, owner]
    rcases same i l found with empty | ⟨k, known, kept⟩
    · rw [empty] at given
      cases given
    · exact valued.latest i k name q known (kept ▸ given)

theorem Valued.unchanged (valued : Valued events g) (silent : ∀ id name, e.sets? id name = none)
    (owner : h.owner = g.owner) (kernels : h.kernels = g.kernels) : Valued (events ++ [e]) h :=
  valued.quiet silent owner fun _ l found => .inr ⟨l, kernels ▸ found, rfl⟩

theorem Valued.replace (valued : Valued events g) (silent : ∀ id name, e.sets? id name = none)
    {i : Nat} {k l : Kernel} (known : g.kernels[i]? = some k) (kept : l.parameters = k.parameters) :
    Valued (events ++ [e]) { g with kernels := g.kernels.set i l } := by
  refine valued.quiet silent rfl fun j m found => .inr ?_
  by_cases here : i = j
  · subst here
    have early : i < g.kernels.length := (List.getElem?_eq_some_iff.mp known).1
    rw [List.getElem?_set_self early] at found
    cases found
    exact ⟨k, known, kept⟩
  · rw [List.getElem?_set_ne here] at found
    exact ⟨m, found, rfl⟩

theorem Valued.set (valued : Valued events g) {p p' : Processor (Recorded σ)} {id : KernelId}
    {q : Parameter} {k : Kernel} {s : ParameterSet} (held : g.kernel id = .ok k)
    (changed : k.parameters.set q = .ok s) :
    Valued (events ++ [⟨p, .editKernel id (.setParameter q), .ok (), p'⟩])
      { g with kernels := g.kernels.set id.index { k with parameters := s } } := by
  obtain ⟨owner, i⟩ := id
  obtain ⟨rfl, known⟩ : owner = g.owner ∧ g.kernels[i]? = some k := Graph.kernel_eq_ok.mp held
  have early : i < g.kernels.length := (List.getElem?_eq_some_iff.mp known).1
  constructor
  · intro l member
    rcases List.mem_or_eq_of_mem_set member with old | rfl
    · exact valued.distinct l old
    · exact (valued.distinct k (List.mem_of_getElem? known)).set changed
  · intro j l name r found given
    rw [lastValue_concat]
    show (sets? ⟨g.owner, j⟩ name _).or (lastValue events ⟨g.owner, j⟩ name) = some r.value
    by_cases here : i = j
    · subst here
      rw [List.getElem?_set_self early] at found
      cases found
      rw [ParameterSet.find?_set changed] at given
      by_cases asked : name = q.name
      · simp only [asked, ↓reduceIte, Option.some.injEq] at given
        subst asked given
        simp [sets?]
      · simp only [asked, ↓reduceIte] at given
        have other : ¬ q.name = name := fun same => asked same.symm
        simp only [sets?, other, and_false, ↓reduceIte, Option.none_or]
        exact valued.latest i k name r known given
    · rw [List.getElem?_set_ne here] at found
      have other : ¬ KernelId.mk g.owner i = ⟨g.owner, j⟩ := fun same => here (congrArg (·.index) same)
      simp only [sets?, other, false_and, ↓reduceIte, Option.none_or]
      exact valued.latest j l name r found given

end

theorem KernelEdit.parameters_kept {edit : KernelEdit} {k l : Kernel} (edited : edit.apply k = .ok l)
    (other : ∀ q, edit ≠ .setParameter q) : l.parameters = k.parameters := by
  cases edit.edited edited with
  | input | output | source => rfl
  | parameter => exact absurd rfl (other _)

theorem Valued.edit {events : List (Event (Recorded σ))} {p p' : Processor (Recorded σ)} {act : Action}
    {h : Graph} (valued : Valued events p.graph) (edited : p.graph.Edited act h) :
    Valued (events ++ [⟨p, act, .ok (), p'⟩]) h := by
  cases edited with
  | registry registry owner buffers other =>
    refine valued.unchanged (fun id name => ?_) owner rfl
    cases act with
    | editKernel target edit => exact absurd rfl (other target edit)
    | _ => rfl
  | added name =>
    refine valued.quiet (fun _ _ => rfl) rfl fun i l found => ?_
    by_cases old : i < p.graph.kernels.length
    · rw [List.getElem?_append_left old] at found
      exact .inr ⟨l, found, rfl⟩
    · rw [List.getElem?_append_right (by omega), List.getElem?_singleton] at found
      split at found
      · cases found
        exact .inl rfl
      · cases found
  | @kernel id edit k l held edited =>
    have known := (Graph.kernel_eq_ok.mp held).2
    cases edit with
    | setParameter q =>
      obtain ⟨-, s, set, rfl⟩ := Kernel.setParameter_eq_ok.mp edited
      exact valued.set held set
    | bindInput | bindOutput | setSource =>
      exact valued.replace (fun _ _ => rfl) known (KernelEdit.parameters_kept edited (by simp))

theorem Valued.step {events : List (Event (Recorded σ))} {p p' : Processor (Recorded σ)} {act : Action}
    {answer : Except Error Unit} (valued : Valued events p.graph) (inPlace : act.EditsInPlace)
    (step : p.Step act answer p') : Valued (events ++ [⟨p, act, answer, p'⟩]) p'.graph := by
  cases step with
  | edited only changed _ => exact valued.edit (act.edited inPlace only changed)
  | refused | unallocated | unbuilt | halted => exact valued.unchanged (sets?_of_error · ·) rfl rfl
  | allocated | built | ran | uploaded | downloaded => exact valued.unchanged (fun _ _ => rfl) rfl rfl

theorem ParameterSet.signatureOrder_perm (s : ParameterSet) : s.signatureOrder.Perm s.entries := by
  have floats : s.entries.filter (·.value.type = .float) = s.entries.filter fun q => !decide (q.value.type = .int) := by
    refine List.filter_congr fun q _ => ?_
    cases q.value <;> rfl
  rw [signatureOrder, floats]
  exact List.filter_append_perm _ _

theorem ParameterSet.mem_signatureOrder {s : ParameterSet} {q : Parameter} (member : q ∈ s.signatureOrder) :
    q ∈ s.entries :=
  s.signatureOrder_perm.mem_iff.mp member

theorem Valued.resolves {events : List (Event (Recorded σ))} {g : Graph} {k l : Kernel} {i : Nat}
    (valued : Valued events g)
    (found : g.kernels[i]? = some l) (distinct : k.parameters.Distinct) (grows : k.Grows l) :
    ∃ parameters, Processor.resolveParameters l (k.parameters.signatureOrder.map (·.name)) = .ok parameters ∧
      List.Forall₂ (fun declared q => q.name = declared.name ∧ q.value.type = declared.value.type ∧
        lastValue events ⟨g.owner, i⟩ declared.name = some q.value)
        k.parameters.signatureOrder parameters := by
  rw [Processor.resolveParameters_eq_mapM, List.mapM_map]
  refine mapM_related fun declared member => ?_
  have first := distinct.find? (ParameterSet.mem_signatureOrder member)
  obtain ⟨q, current, type⟩ := grows.parameters declared.name declared first
  have name : q.name = declared.name := by simpa using List.find?_some current
  exact ⟨q, Kernel.valueOf_eq_ok.mpr current, name, type, valued.latest i l declared.name q found current⟩

end PixelPipeline
