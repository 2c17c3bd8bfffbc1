import PixelPipeline.Proofs.InPlace
import PixelPipeline.Proofs.Parameters

namespace PixelPipeline

namespace ParameterSet

variable {s : ParameterSet} {p : Parameter} {name : String}

def type? (s : ParameterSet) (name : String) : Option ScalarType := (s.find? name).map (·.value.type)

theorem Distinct.type?_eq_some (distinct : s.Distinct) {t : ScalarType} :
    (∃ q ∈ s.entries, q.name = name ∧ q.value.type = t) ↔ s.type? name = some t := by
  rw [type?, Option.map_eq_some_iff]
  constructor
  · rintro ⟨q, member, rfl, type⟩
    exact ⟨q, distinct.find? member, type⟩
  · rintro ⟨q, found, type⟩
    exact ⟨q, List.mem_of_find?_eq_some found, by simpa using List.find?_some found, type⟩

theorem answer_set : (s.set p).map (fun _ => ()) =
    match s.type? p.name with
    | none => .ok ()
    | some t => if t = p.value.type then .ok () else .error (.typeMismatch p.name t p.value.type) := by
  rw [set, type?]
  cases s.find? p.name with
  | none => rfl
  | some q => exact apply_ite (Except.map fun _ => ()) _ _ _

end ParameterSet

namespace Kernel

structure AnswersBinding (k : Kernel) (name : String) (buffer : BufferId) (answer : Except Error Unit) : Prop where
  foreign : answer = .error (.foreignBinding buffer.index name) ↔ buffer.owner ≠ k.owner
  taken : answer = .error (.duplicateBinding k.name name) ↔ buffer.owner = k.owner ∧ name ∈ k.names
  bound : answer = .ok () ↔ buffer.owner = k.owner ∧ name ∉ k.names

structure AnswersSetting (k : Kernel) (p : Parameter) (answer : Except Error Unit) : Prop where
  taken : answer = .error (.duplicateBinding k.name p.name) ↔ p.name ∈ k.bindings.map (·.name)
  mismatch : ∀ type, answer = .error (.typeMismatch p.name type p.value.type) ↔
    p.name ∉ k.bindings.map (·.name) ∧ type ≠ p.value.type ∧
      ∃ q ∈ k.parameters.entries, q.name = p.name ∧ q.value.type = type
  set : answer = .ok () ↔ p.name ∉ k.bindings.map (·.name) ∧
    ∀ q ∈ k.parameters.entries, q.name = p.name → q.value.type = p.value.type

variable {k : Kernel} {name : String} {buffer : BufferId} {p : Parameter}

theorem checkBinding_eq : k.checkBinding name buffer =
    if buffer.owner ≠ k.owner then .error (.foreignBinding buffer.index name)
    else if name ∈ k.names then .error (.duplicateBinding k.name name)
    else .ok () := by
  have taken : (k.isBound name || (k.parameters.find? name).isSome) ↔ name ∈ k.names := by
    have declared : (k.parameters.find? name).isSome ↔ name ∈ k.parameters.entries.map (·.name) := by
      simp [ParameterSet.find?, List.find?_isSome]
    rw [Bool.or_eq_true, isBound_iff, declared, names, List.mem_append]
  simp only [checkBinding, taken]

theorem answersBinding : k.AnswersBinding name buffer (k.checkBinding name buffer) := by
  rw [checkBinding_eq]
  by_cases own : buffer.owner = k.owner
  · by_cases known : name ∈ k.names
    · constructor <;> simp [own, known]
    · constructor <;> simp [own, known]
  · constructor <;> simp [own]

theorem answer_setParameter : (k.setParameter p).map (fun _ => ()) =
    if p.name ∈ k.bindings.map (·.name) then .error (.duplicateBinding k.name p.name)
    else (k.parameters.set p).map fun _ => () := by
  rw [setParameter]
  by_cases bound : p.name ∈ k.bindings.map (·.name)
  · rw [if_pos (isBound_iff.mpr bound), if_pos bound]
    rfl
  · rw [if_neg (mt isBound_iff.mp bound), if_neg bound]
    cases k.parameters.set p <;> rfl

theorem answersSetting (distinct : k.parameters.Distinct) :
    k.AnswersSetting p ((k.setParameter p).map fun _ => ()) := by
  rw [answer_setParameter]
  by_cases bound : p.name ∈ k.bindings.map (·.name)
  · rw [if_pos bound]
    constructor <;> simp only [bound, not_true_eq_false, false_and, Except.error.injEq, reduceCtorEq, implies_true]
  · have other : (∀ q ∈ k.parameters.entries, q.name = p.name → q.value.type = p.value.type) ↔
        ∀ t, k.parameters.type? p.name = some t → t = p.value.type := by
      simp only [← distinct.type?_eq_some]
      exact ⟨fun all t ⟨q, member, name, type⟩ => type ▸ all q member name,
        fun all q member name => all _ ⟨q, member, name, rfl⟩⟩
    -- Types are looked up from here on: the three answers are those for no type, this type and another.
    rw [if_neg bound, ParameterSet.answer_set]
    refine ⟨?_, fun t => ?_, ?_⟩
    · cases k.parameters.type? p.name with
      | none => simp [bound]
      | some t => by_cases same : t = p.value.type <;> simp [bound, same]
    · rw [distinct.type?_eq_some]
      cases k.parameters.type? p.name with
      | none => simp
      | some u => by_cases same : u = p.value.type <;> grind
    · rw [other]
      cases k.parameters.type? p.name with
      | none => simp [bound]
      | some t => by_cases same : t = p.value.type <;> simp [bound, same]

end Kernel

namespace KernelEdit

variable {edit : KernelEdit} {k l : Kernel}

theorem names_insert {before after : List String} {name : String} (distinct : (before ++ after).Nodup)
    (free : name ∉ before ++ after) : (before ++ name :: after).Nodup :=
  List.nodup_middle.mpr (List.nodup_cons.mpr ⟨free, distinct⟩)

theorem names_nodup (edited : edit.apply k = .ok l) (distinct : k.names.Nodup) : l.names.Nodup := by
  cases edit.edited edited with
  | @input name buffer own free =>
    have names : Kernel.names { k with inputs := k.inputs ++ [⟨name, buffer⟩] } = k.inputs.map (·.name) ++
        name :: (k.outputs.map (·.name) ++ k.parameters.entries.map (·.name)) := by
      simp [Kernel.names, Kernel.bindings]
    have split : k.names = k.inputs.map (·.name) ++ (k.outputs.map (·.name) ++ k.parameters.entries.map (·.name)) := by
      simp [Kernel.names, Kernel.bindings]
    rw [names]
    rw [split] at distinct free
    exact names_insert distinct free
  | @output name buffer own free =>
    have names : Kernel.names { k with outputs := k.outputs ++ [⟨name, buffer⟩] } = k.bindings.map (·.name) ++
        name :: k.parameters.entries.map (·.name) := by
      simp [Kernel.names, Kernel.bindings]
    rw [names]
    exact names_insert distinct free
  | @parameter p s unbound set =>
    have names : Kernel.names { k with parameters := s } =
        k.bindings.map (·.name) ++ s.entries.map (·.name) := rfl
    rw [names, ParameterSet.names_set set]
    -- A known parameter keeps its place, so the names stay as they are.
    split
    · exact distinct
    · rename_i undeclared
      have free : p.name ∉ k.names := by
        rw [Kernel.names, List.mem_append]
        exact not_or.mpr ⟨unbound, undeclared⟩
      rw [← List.append_assoc, ← List.concat_eq_append]
      exact distinct.concat free
  | source => exact distinct

def input? : KernelEdit → Option Binding
  | bindInput name buffer => some ⟨name, buffer⟩
  | _ => none

def output? : KernelEdit → Option Binding
  | bindOutput name buffer => some ⟨name, buffer⟩
  | _ => none

def parameter? : KernelEdit → Option Parameter
  | setParameter p => some p
  | _ => none

theorem bindings_of_apply (edited : edit.apply k = .ok l) :
    l.inputs = k.inputs ++ edit.input?.toList ∧ l.outputs = k.outputs ++ edit.output?.toList := by
  cases edit.edited edited with
  | input => exact ⟨rfl, (List.append_nil _).symm⟩
  | output => exact ⟨(List.append_nil _).symm, rfl⟩
  | parameter | source => exact ⟨(List.append_nil _).symm, (List.append_nil _).symm⟩

theorem parameters_of_apply (edited : edit.apply k = .ok l) :
    match edit.parameter? with
    | none => l.parameters = k.parameters
    | some p => k.parameters.set p = .ok l.parameters := by
  cases edit.edited edited with
  | input | output | source => rfl
  | parameter unbound set => exact set

end KernelEdit

/-- A kernel with the edits that it agreed to, in their order. -/
structure Composition where
  kernel : Kernel
  accepted : List KernelEdit

namespace Composition

def empty (name : String) (owner : Owner) : Composition := ⟨.empty name owner, []⟩

def ask (c : Composition) (edit : KernelEdit) : Except Error Unit × Composition :=
  match (InPlace.editKernel edit).on c.kernel with
  | (.ok (), kernel) => (.ok (), ⟨kernel, c.accepted ++ [edit]⟩)
  | (.error e, kernel) => (.error e, { c with kernel })

def after (name : String) (owner : Owner) (edits : List KernelEdit) : Composition :=
  edits.foldl (fun c edit => (c.ask edit).2) (empty name owner)

variable {c : Composition} {name : String} {owner : Owner}

theorem after_concat (edits : List KernelEdit) (edit : KernelEdit) :
    after name owner (edits ++ [edit]) = ((after name owner edits).ask edit).2 := List.foldl_concat ..

theorem ask_cases (c : Composition) (edit : KernelEdit) :
    (∃ e, c.ask edit = (.error e, c)) ∨
      ∃ k, edit.apply c.kernel = .ok k ∧ c.ask edit = (.ok (), ⟨k, c.accepted ++ [edit]⟩) := by
  rw [ask, InPlace.on_editKernel]
  cases edit.apply c.kernel with
  | error e => exact .inl ⟨e, rfl⟩
  | ok k => exact .inr ⟨k, rfl, rfl⟩

theorem ask_refused {edit : KernelEdit} {e : Error} (refused : (c.ask edit).1 = .error e) :
    (c.ask edit).2 = c := by
  rcases ask_cases c edit with ⟨_, asked⟩ | ⟨_, -, asked⟩
  · rw [asked]
  · rw [asked] at refused
    cases refused

theorem answer_eq (c : Composition) (edit : KernelEdit) :
    (c.ask edit).1 = (edit.apply c.kernel).map fun _ => () := by
  rw [ask, InPlace.on_editKernel]
  cases edit.apply c.kernel <;> rfl

theorem answer_bindInput (c : Composition) (name : String) (buffer : BufferId) :
    (c.ask (.bindInput name buffer)).1 = c.kernel.checkBinding name buffer := by
  rw [answer_eq, KernelEdit.apply, Kernel.bindInput]
  cases c.kernel.checkBinding name buffer <;> rfl

theorem answer_bindOutput (c : Composition) (name : String) (buffer : BufferId) :
    (c.ask (.bindOutput name buffer)).1 = c.kernel.checkBinding name buffer := by
  rw [answer_eq, KernelEdit.apply, Kernel.bindOutput]
  cases c.kernel.checkBinding name buffer <;> rfl

structure Sound (name : String) (owner : Owner) (c : Composition) : Prop where
  name : c.kernel.name = name
  owner : c.kernel.owner = owner
  distinct : c.kernel.names.Nodup
  inputs : c.kernel.inputs = c.accepted.filterMap KernelEdit.input?
  outputs : c.kernel.outputs = c.accepted.filterMap KernelEdit.output?
  types : OneType (c.accepted.filterMap KernelEdit.parameter?)
  parameters : c.kernel.parameters.entries = lastValues (c.accepted.filterMap KernelEdit.parameter?)

theorem Sound.settings (sound : c.Sound name owner) {edit : KernelEdit} {k : Kernel}
    (edited : edit.apply c.kernel = .ok k) :
    OneType ((c.accepted ++ [edit]).filterMap KernelEdit.parameter?) ∧
      k.parameters.entries = lastValues ((c.accepted ++ [edit]).filterMap KernelEdit.parameter?) := by
  have changed := KernelEdit.parameters_of_apply edited
  rw [List.filterMap_append]
  cases given : edit.parameter? with
  | none =>
    rw [given] at changed
    simpa [given, changed] using ⟨sound.types, sound.parameters⟩
  | some p =>
    have before : c.kernel.parameters = ⟨lastValues (c.accepted.filterMap KernelEdit.parameter?)⟩ :=
      congrArg ParameterSet.mk sound.parameters
    rw [given, before] at changed
    obtain ⟨types, after⟩ := (ParameterSet.set_lastValues_eq_ok sound.types).mp changed
    simpa [given, after] using types

theorem Sound.ask (sound : c.Sound name owner) (edit : KernelEdit) : (c.ask edit).2.Sound name owner := by
  rcases ask_cases c edit with ⟨_, asked⟩ | ⟨k, edited, asked⟩
  · rw [asked]
    exact sound
  · rw [asked]
    obtain ⟨inputs, outputs⟩ := KernelEdit.bindings_of_apply edited
    obtain ⟨types, parameters⟩ := sound.settings edited
    exact {
      name := (KernelEdit.grows edited).name.trans sound.name
      owner := (KernelEdit.owner_of_apply edited).trans sound.owner
      distinct := KernelEdit.names_nodup edited sound.distinct
      inputs := by
        rw [inputs, sound.inputs, List.filterMap_append]
        cases edit <;> rfl
      outputs := by
        rw [outputs, sound.outputs, List.filterMap_append]
        cases edit <;> rfl
      types
      parameters }

theorem sound_after (name : String) (owner : Owner) (edits : List KernelEdit) :
    (after name owner edits).Sound name owner := by
  induction edits using List.reverseRecOn with
  | nil => exact ⟨rfl, rfl, List.nodup_nil, rfl, rfl, fun _ member => absurd member List.not_mem_nil, rfl⟩
  | append_singleton edits edit ih =>
    rw [after_concat]
    exact ih.ask edit

theorem accepted_prefix (name : String) (owner : Owner) (edits more : List KernelEdit) :
    (after name owner edits).accepted <+: (after name owner (edits ++ more)).accepted := by
  induction more using List.reverseRecOn with
  | nil => exact ⟨[], by rw [List.append_nil, List.append_nil]⟩
  | append_singleton more edit ih =>
    rw [← List.append_assoc, after_concat]
    refine ih.trans ?_
    rcases ask_cases (after name owner (edits ++ more)) edit with ⟨_, asked⟩ | ⟨_, -, asked⟩
    · exact ⟨[], by rw [asked, List.append_nil]⟩
    · exact ⟨[edit], by rw [asked]⟩

/-- Inputs, outputs and parameters have different names. The bindings are those that were agreed to, in the order of
the calls, and stay where they are, and the parameters are those too, each where it came first and as it was last.
A buffer is refused if it is foreign, and else if its name is used; a parameter
if its name is bound, and else if it has another type. A call that fails changes nothing. -/
theorem one_namespace (name : String) (owner : Owner) (edits : List KernelEdit) :
    let c := after name owner edits
    c.kernel.names.Nodup ∧ (c.kernel.name = name ∧ c.kernel.owner = owner) ∧
    (c.kernel.inputs = c.accepted.filterMap KernelEdit.input? ∧
      c.kernel.outputs = c.accepted.filterMap KernelEdit.output? ∧
      c.kernel.parameters.entries = lastValues (c.accepted.filterMap KernelEdit.parameter?)) ∧
    (∀ more, let d := after name owner (edits ++ more)
      c.kernel.inputs <+: d.kernel.inputs ∧ c.kernel.outputs <+: d.kernel.outputs) ∧
    (∀ binding buffer, c.kernel.AnswersBinding binding buffer (c.ask (.bindInput binding buffer)).1 ∧
      c.kernel.AnswersBinding binding buffer (c.ask (.bindOutput binding buffer)).1) ∧
    (∀ p, c.kernel.AnswersSetting p (c.ask (.setParameter p)).1) ∧
    (∀ source, (c.ask (.setSource source)).1 = .ok ()) ∧
    ∀ edit e, (c.ask edit).1 = .error e → (c.ask edit).2 = c := by
  intro c
  have sound : c.Sound name owner := sound_after name owner edits
  refine ⟨sound.distinct, ⟨sound.name, sound.owner⟩, ⟨sound.inputs, sound.outputs, sound.parameters⟩, fun more => ?_,
    fun binding buffer => ⟨?_, ?_⟩, fun p => ?_, fun source => ?_, fun edit e => ask_refused⟩
  · intro d
    have later : d.Sound name owner := sound_after name owner (edits ++ more)
    have longer : c.accepted <+: d.accepted := accepted_prefix name owner edits more
    rw [sound.inputs, sound.outputs, later.inputs, later.outputs]
    exact ⟨longer.filterMap _, longer.filterMap _⟩
  · rw [answer_bindInput]
    exact Kernel.answersBinding
  · rw [answer_bindOutput]
    exact Kernel.answersBinding
  · have distinct : c.kernel.parameters.Distinct := (List.nodup_append.mp sound.distinct).2.1
    rw [answer_eq]
    exact Kernel.answersSetting distinct
  · rw [answer_eq]
    rfl

def trials : List KernelEdit :=
  [.bindInput "A" ⟨⟨0⟩, 0⟩, .setParameter ⟨"n", .int 3⟩, .bindOutput "A" ⟨⟨0⟩, 1⟩, .bindInput "n" ⟨⟨0⟩, 0⟩,
    .bindOutput "B" ⟨⟨1⟩, 1⟩, .bindOutput "B" ⟨⟨0⟩, 1⟩, .setParameter ⟨"B", .int 1⟩, .setParameter ⟨"m", .int 4⟩,
    .setParameter ⟨"n", .float .zero⟩, .setParameter ⟨"n", .int 5⟩, .bindInput "A" ⟨⟨0⟩, 1⟩]

theorem one_namespace_trials :
    let c := after "k" ⟨0⟩ trials
    c.kernel.names = ["A", "B", "n", "m"] ∧ c.kernel.names.Nodup ∧
    (c.kernel.inputs = [⟨"A", ⟨0⟩, 0⟩] ∧ c.kernel.outputs = [⟨"B", ⟨0⟩, 1⟩] ∧
      c.kernel.parameters.entries = [⟨"n", .int 5⟩, ⟨"m", .int 4⟩]) ∧
    c.ask (.bindOutput "n" ⟨⟨0⟩, 1⟩) = (.error (.duplicateBinding "k" "n"), c) ∧
    c.ask (.setParameter ⟨"m", .float .zero⟩) = (.error (.typeMismatch "m" .int .float), c) := by
  obtain ⟨distinct, -, ⟨inputs, outputs, parameters⟩, -, binding, setting, -, kept⟩ := one_namespace "k" ⟨0⟩ trials
  have accepted : (after "k" ⟨0⟩ trials).accepted =
      [.bindInput "A" ⟨⟨0⟩, 0⟩, .setParameter ⟨"n", .int 3⟩, .bindOutput "B" ⟨⟨0⟩, 1⟩, .setParameter ⟨"m", .int 4⟩,
        .setParameter ⟨"n", .int 5⟩] := rfl
  rw [accepted] at inputs outputs parameters
  have taken := (binding "n" ⟨⟨0⟩, 1⟩).2.taken.mpr ⟨rfl, by decide⟩
  have mismatch := ((setting ⟨"m", .float .zero⟩).mismatch .int).mpr ⟨by decide, by decide, by decide⟩
  exact ⟨rfl, distinct, ⟨inputs, outputs, parameters⟩, Prod.ext taken (kept _ _ taken),
    Prod.ext mismatch (kept _ _ mismatch)⟩

end Composition

end PixelPipeline
