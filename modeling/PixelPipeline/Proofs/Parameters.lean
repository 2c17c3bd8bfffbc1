import PixelPipeline.Proofs.Growth

namespace PixelPipeline

/-- Settings of one name are all of one type. -/
def OneType (ps : List Parameter) : Prop :=
  ∀ q ∈ ps, ∀ r ∈ ps, q.name = r.name → q.value.type = r.value.type

/-- The names in the order of their first mention, each with its last value. -/
def lastValues (ps : List Parameter) : List Parameter :=
  (ps.map (·.name)).eraseDups.filterMap fun name => ps.reverse.find? (·.name == name)

theorem eraseDups_concat {α : Type} [DecidableEq α] (xs : List α) (x : α) :
    (xs ++ [x]).eraseDups = if x ∈ xs then xs.eraseDups else xs.eraseDups ++ [x] := by
  rw [List.eraseDups_append]
  by_cases known : x ∈ xs <;> simp [List.removeAll, known, List.eraseDups_cons]

theorem nodup_eraseDups {α : Type} [DecidableEq α] (xs : List α) : xs.eraseDups.Nodup := by
  induction xs using List.reverseRecOn with
  | nil => exact List.nodup_nil
  | append_singleton xs x ih =>
    rw [eraseDups_concat]
    split
    · exact ih
    · rename_i new
      rw [← List.concat_eq_append]
      exact ih.concat (by simpa using new)

theorem OneType.concat {ps : List Parameter} {p : Parameter} :
    OneType (ps ++ [p]) ↔ OneType ps ∧ ∀ q ∈ ps, q.name = p.name → q.value.type = p.value.type := by
  simp only [OneType, List.forall_mem_append, List.forall_mem_singleton]
  grind

namespace ParameterSet

theorem find?_reverse_concat (ps : List Parameter) (p : Parameter) (name : String) :
    (ps ++ [p]).reverse.find? (·.name == name) =
      if name = p.name then some p else ps.reverse.find? (·.name == name) := by
  by_cases asked : name = p.name
  · simp [asked]
  · have other : ¬ p.name = name := fun same => asked same.symm
    simp [asked, other]

theorem filterMap_replace {value : String → Option Parameter} {p q : Parameter} {names : List String}
    (named : ∀ name r, value name = some r → r.name = name) (known : value p.name = some q)
    (distinct : names.Nodup) :
    (names.filterMap fun name => if name = p.name then some p else value name) =
      replaceFirst p (names.filterMap value) := by
  induction names with
  | nil => rfl
  | cons name rest ih =>
    obtain ⟨new, distinct⟩ := List.nodup_cons.mp distinct
    by_cases here : name = p.name
    · subst here
      have later : (rest.filterMap fun name => if name = p.name then some p else value name) =
          rest.filterMap value := by
        refine List.filterMap_congr fun name member => ?_
        have other : ¬ name = p.name := fun same => new (same ▸ member)
        simp [other]
      have replaced : q.name = p.name := named _ _ known
      simp [known, later, replaceFirst, replaced]
    · have step := ih distinct
      cases given : value name with
      | none => simpa [given, here] using step
      | some r =>
        have other : ¬ r.name = p.name := fun same => here ((named _ _ given).symm.trans same)
        simpa [given, here, replaceFirst, other] using step

theorem find?_filterMap {value : String → Option Parameter} {names : List String} {name : String}
    (named : ∀ name r, value name = some r → r.name = name)
    (listed : name ∈ names ∨ value name = none) :
    (names.filterMap value).find? (·.name == name) = value name := by
  induction names with
  | nil =>
    have absent : value name = none := by simpa using listed
    simp [absent]
  | cons first rest ih =>
    cases given : value first with
    | none =>
      have later : name ∈ rest ∨ value name = none := by
        rcases listed with member | none
        · rcases List.mem_cons.mp member with rfl | member
          · exact .inr given
          · exact .inl member
        · exact .inr none
      simpa [given] using ih later
    | some r =>
      have first_name : r.name = first := named _ _ given
      by_cases here : first = name
      · subst here
        simp [given, first_name]
      · have later : name ∈ rest ∨ value name = none :=
          listed.imp_left fun member => (List.mem_cons.mp member).resolve_left fun same => here same.symm
        simpa [given, first_name, here] using ih later

theorem lastValues_named {ps : List Parameter} (name : String) (r : Parameter)
    (given : ps.reverse.find? (·.name == name) = some r) : r.name = name := by
  simpa using List.find?_some given

theorem find?_lastValues (ps : List Parameter) (name : String) :
    (lastValues ps).find? (·.name == name) = ps.reverse.find? (·.name == name) := by
  refine find?_filterMap lastValues_named ?_
  by_cases member : name ∈ ps.map (·.name)
  · exact .inl (List.mem_eraseDups.mpr member)
  · exact .inr (by simpa using member)

theorem lastValues_concat (ps : List Parameter) (p : Parameter) :
    lastValues (ps ++ [p]) =
      if p.name ∈ ps.map (·.name) then replaceFirst p (lastValues ps) else lastValues ps ++ [p] := by
  unfold lastValues
  simp only [find?_reverse_concat, List.map_append, List.map_singleton, eraseDups_concat]
  split
  · rename_i known
    obtain ⟨q, given⟩ : ∃ q, ps.reverse.find? (·.name == p.name) = some q := by
      rw [← Option.isSome_iff_exists]
      simpa [List.find?_isSome] using known
    exact filterMap_replace lastValues_named given (nodup_eraseDups _)
  · rename_i new
    have same : ((ps.map (·.name)).eraseDups.filterMap fun name =>
        if name = p.name then some p else ps.reverse.find? (·.name == name)) =
        (ps.map (·.name)).eraseDups.filterMap fun name => ps.reverse.find? (·.name == name) := by
      refine List.filterMap_congr fun name member => ?_
      have other : ¬ name = p.name := fun same => new (same ▸ List.mem_eraseDups.mp member)
      simp [other]
    rw [List.filterMap_append, same]
    simp

theorem set_lastValues_eq_ok {ps : List Parameter} {p : Parameter} {t : ParameterSet}
    (types : OneType ps) :
    set ⟨lastValues ps⟩ p = .ok t ↔ OneType (ps ++ [p]) ∧ t = ⟨lastValues (ps ++ [p])⟩ := by
  have found : find? ⟨lastValues ps⟩ p.name = ps.reverse.find? (·.name == p.name) :=
    find?_lastValues ps p.name
  simp only [set, found, OneType.concat, types, true_and, lastValues_concat]
  cases given : ps.reverse.find? (·.name == p.name) with
  | none =>
    have new : ∀ q ∈ ps, ¬ q.name = p.name := by simpa using given
    have absent : p.name ∉ ps.map (·.name) := by simpa using new
    have free : ∀ q ∈ ps, q.name = p.name → q.value.type = p.value.type :=
      fun q member same => absurd same (new q member)
    rw [if_neg absent]
    exact ⟨fun made => ⟨free, (Except.ok.inj made).symm⟩, fun made => congrArg Except.ok made.2.symm⟩
  | some q =>
    have name : q.name = p.name := lastValues_named _ _ given
    have member : q ∈ ps := List.mem_reverse.mp (List.mem_of_find?_eq_some given)
    have known : p.name ∈ ps.map (·.name) := name ▸ List.mem_map_of_mem member
    by_cases same : q.value.type = p.value.type
    · have all : ∀ r ∈ ps, r.name = p.name → r.value.type = p.value.type := fun r listed named =>
        (types r listed q member (named.trans name.symm)).trans same
      simp only [if_pos known, if_pos same]
      exact ⟨fun made => ⟨all, (Except.ok.inj made).symm⟩, fun made => congrArg Except.ok made.2.symm⟩
    · have wrong : ¬ ∀ r ∈ ps, r.name = p.name → r.value.type = p.value.type :=
        fun all => same (all q member name)
      simp [same, wrong]

end ParameterSet

end PixelPipeline
