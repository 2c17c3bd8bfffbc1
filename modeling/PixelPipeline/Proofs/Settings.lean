import PixelPipeline.Proofs.Namespace
import PixelPipeline.Proofs.Parameters
import PixelPipeline.Proofs.Values

namespace PixelPipeline

variable {s : ParameterSet} {ps : List Parameter} {p q first : Parameter} {name : String}

/-- The last setting of a name that has the type of its first one. -/
def settled? (ps : List Parameter) (name : String) : Option Parameter :=
  (ps.find? (·.name == name)).bind fun first =>
    ps.reverse.find? fun p => p.name == name && decide (p.value.type = first.value.type)

/-- The names in the order of their first setting, each with the value that it settled on. -/
def settledValues (ps : List Parameter) : List Parameter :=
  (ps.map (·.name)).eraseDups.filterMap (settled? ps)

def Parameter.ofInt (given : String × Int32) : Parameter := ⟨given.1, .int given.2⟩

def Parameter.ofFloat (given : String × Single) : Parameter := ⟨given.1, .float given.2⟩

namespace ParameterSet

def setting (s : ParameterSet) (p : Parameter) : ParameterSet := (s.set p).toOption.getD s

def settings (ps : List Parameter) : ParameterSet := ps.foldl setting ∅

theorem settings_concat (ps : List Parameter) (p : Parameter) :
    settings (ps ++ [p]) = (settings ps).setting p := by
  simp [settings]

end ParameterSet

theorem mem_names_of_find? (found : ps.find? (·.name == name) = some first) : name ∈ ps.map (·.name) := by
  have named : first.name = name := by simpa using List.find?_some found
  exact named ▸ List.mem_map_of_mem (List.mem_of_find?_eq_some found)

theorem settled?_eq_some (settled : settled? ps name = some q) :
    q.name = name ∧ ∃ first, ps.find? (·.name == name) = some first ∧ q.value.type = first.value.type := by
  obtain ⟨first, found, last⟩ := Option.bind_eq_some_iff.mp settled
  have fits : q.name = name ∧ q.value.type = first.value.type := by simpa using List.find?_some last
  exact ⟨fits.1, first, found, fits.2⟩

theorem exists_settled (found : ps.find? (·.name == name) = some first) :
    ∃ q, settled? ps name = some q ∧ q.value.type = first.value.type := by
  have given : (ps.reverse.find? fun p => p.name == name && decide (p.value.type = first.value.type)).isSome := by
    have named : first.name = name := by simpa using List.find?_some found
    simpa using ⟨first, List.mem_of_find?_eq_some found, named, rfl⟩
  obtain ⟨q, last⟩ := Option.isSome_iff_exists.mp given
  have type : q.name = name ∧ q.value.type = first.value.type := by simpa using List.find?_some last
  exact ⟨q, by simp [settled?, found, last], type.2⟩

theorem settled?_of_absent (absent : ps.find? (·.name == name) = none) : settled? ps name = none := by
  simp [settled?, absent]

theorem settled?_concat_of_other (other : name ≠ p.name) : settled? (ps ++ [p]) name = settled? ps name := by
  have differs : ¬ p.name = name := fun same => other same.symm
  simp [settled?, differs]

theorem settled?_concat_of_absent (absent : ps.find? (·.name == p.name) = none) :
    settled? (ps ++ [p]) p.name = some p := by
  simp [settled?, absent]

theorem settled?_concat_of_found (found : ps.find? (·.name == p.name) = some first) :
    settled? (ps ++ [p]) p.name =
      if p.value.type = first.value.type then some p else settled? ps p.name := by
  by_cases same : p.value.type = first.value.type <;> simp [settled?, found, same]

namespace ParameterSet

theorem find?_settledValues (ps : List Parameter) (name : String) :
    (settledValues ps).find? (·.name == name) = settled? ps name := by
  refine find?_filterMap (fun _ _ settled => (settled?_eq_some settled).1) ?_
  cases found : ps.find? (·.name == name) with
  | none => exact .inr (settled?_of_absent found)
  | some first => exact .inl (List.mem_eraseDups.mpr (mem_names_of_find? found))

theorem type?_settledValues (ps : List Parameter) (name : String) :
    type? ⟨settledValues ps⟩ name = (ps.find? (·.name == name)).map (·.value.type) := by
  rw [type?, find?, find?_settledValues]
  cases found : ps.find? (·.name == name) with
  | none => rw [settled?_of_absent found, Option.map_none]
  | some first =>
    obtain ⟨q, settled, type⟩ := exists_settled found
    rw [settled, Option.map_some, Option.map_some, type]

theorem settledValues_names (ps : List Parameter) :
    (settledValues ps).map (·.name) = (ps.map (·.name)).eraseDups := by
  have every : ∀ name ∈ (ps.map (·.name)).eraseDups,
      ((settled? ps name).map (·.name)) = some name := by
    intro name member
    have given : (ps.find? (·.name == name)).isSome := by
      simpa using List.mem_eraseDups.mp member
    obtain ⟨first, found⟩ := Option.isSome_iff_exists.mp given
    obtain ⟨q, settled, -⟩ := exists_settled found
    rw [settled, Option.map_some, (settled?_eq_some settled).1]
  rw [settledValues, List.map_filterMap, List.filterMap_congr every, List.filterMap_some]

theorem settledValues_concat_of_mismatch (found : ps.find? (·.name == p.name) = some first)
    (differs : p.value.type ≠ first.value.type) : settledValues (ps ++ [p]) = settledValues ps := by
  have known : p.name ∈ ps.map (·.name) := mem_names_of_find? found
  have same : ∀ name, settled? (ps ++ [p]) name = settled? ps name := by
    intro name
    by_cases here : name = p.name
    · rw [here, settled?_concat_of_found found, if_neg differs]
    · exact settled?_concat_of_other here
  rw [settledValues, settledValues, List.map_append, List.map_singleton, eraseDups_concat, if_pos known,
    funext same]

theorem settledValues_concat_of_match (found : ps.find? (·.name == p.name) = some first)
    (same : p.value.type = first.value.type) :
    settledValues (ps ++ [p]) = replaceFirst p (settledValues ps) := by
  have known : p.name ∈ ps.map (·.name) := mem_names_of_find? found
  have value : settled? (ps ++ [p]) = fun name => if name = p.name then some p else settled? ps name := by
    funext name
    by_cases here : name = p.name
    · rw [here, settled?_concat_of_found found, if_pos same, if_pos rfl]
    · rw [settled?_concat_of_other here, if_neg here]
  obtain ⟨q, settled, -⟩ := exists_settled found
  rw [settledValues, List.map_append, List.map_singleton, eraseDups_concat, if_pos known, value]
  exact filterMap_replace (fun _ _ settled => (settled?_eq_some settled).1) settled (nodup_eraseDups _)

theorem settledValues_concat_of_absent (absent : ps.find? (·.name == p.name) = none) :
    settledValues (ps ++ [p]) = settledValues ps ++ [p] := by
  have new : p.name ∉ ps.map (·.name) := by simpa using absent
  have kept : (ps.map (·.name)).eraseDups.filterMap (settled? (ps ++ [p])) = settledValues ps := by
    refine List.filterMap_congr fun name member => settled?_concat_of_other fun same => ?_
    exact new (same ▸ List.mem_eraseDups.mp member)
  rw [settledValues, List.map_append, List.map_singleton, eraseDups_concat, if_neg new, List.filterMap_append, kept,
    List.filterMap_cons_some (settled?_concat_of_absent absent), List.filterMap_nil]

theorem setting_settledValues (ps : List Parameter) (p : Parameter) :
    setting ⟨settledValues ps⟩ p = ⟨settledValues (ps ++ [p])⟩ := by
  have asked : find? ⟨settledValues ps⟩ p.name = settled? ps p.name := find?_settledValues ps p.name
  cases found : ps.find? (·.name == p.name) with
  | none =>
    rw [setting, set, asked, settled?_of_absent found, settledValues_concat_of_absent found]
    rfl
  | some first =>
    obtain ⟨q, settled, type⟩ := exists_settled found
    rw [setting, set, asked, settled]
    by_cases same : p.value.type = first.value.type
    · rw [settledValues_concat_of_match found same]
      simp [type, same, Except.toOption]
    · have differs : ¬ q.value.type = p.value.type := fun equal => same (equal.symm.trans type)
      rw [settledValues_concat_of_mismatch found same]
      simp [differs, Except.toOption]

theorem settings_eq (ps : List Parameter) : settings ps = ⟨settledValues ps⟩ := by
  induction ps using List.reverseRecOn with
  | nil => rfl
  | append_singleton ps p ih => rw [settings_concat, ih, setting_settledValues]

theorem filter_int (s : ParameterSet) : s.entries.filter (·.value.type = .int) = s.ints.map .ofInt := by
  obtain ⟨entries⟩ := s
  simp only [ints]
  induction entries with
  | nil => rfl
  | cons q rest ih =>
    obtain ⟨name, n | x⟩ := q
    · exact congrArg (Parameter.ofInt (name, n) :: ·) ih
    · exact ih

theorem filter_float (s : ParameterSet) : s.entries.filter (·.value.type = .float) = s.floats.map .ofFloat := by
  obtain ⟨entries⟩ := s
  simp only [floats]
  induction entries with
  | nil => rfl
  | cons q rest ih =>
    obtain ⟨name, n | x⟩ := q
    · exact ih
    · exact congrArg (Parameter.ofFloat (name, x) :: ·) ih

theorem set_eq_error {fault : Error} (distinct : s.Distinct) : s.set p = .error fault ↔
    ∃ q ∈ s.entries, q.name = p.name ∧ q.value.type ≠ p.value.type ∧
      fault = .typeMismatch p.name q.value.type p.value.type := by
  constructor
  · intro refused
    rw [set] at refused
    split at refused
    · cases refused
    · rename_i q found
      split at refused
      · cases refused
      · rename_i differs
        cases refused
        exact ⟨q, List.mem_of_find?_eq_some found, by simpa using List.find?_some found, differs, rfl⟩
  · rintro ⟨q, member, named, differs, rfl⟩
    have found : s.find? p.name = some q := named ▸ distinct.find? member
    simp [set, found, differs]

theorem mem_iff_find? (distinct : s.Distinct) : q ∈ s.entries ↔ s.find? q.name = some q :=
  ⟨distinct.find?, List.mem_of_find?_eq_some⟩

structure Settled (ps : List Parameter) (s : ParameterSet) : Prop where
  entries : s.entries = settledValues ps
  names : s.entries.map (·.name) = (ps.map (·.name)).eraseDups
  distinct : (s.entries.map (·.name)).Nodup
  types : ∀ name, s.type? name = (ps.find? (·.name == name)).map (·.value.type)
  found : ∀ name, s.find? name = settled? ps name
  exact : ∀ q, q ∈ s.entries ↔ s.find? q.name = some q
  refused : ∀ p fault, s.set p = .error fault ↔
    ∃ q ∈ s.entries, q.name = p.name ∧ q.value.type ≠ p.value.type ∧
      fault = .typeMismatch p.name q.value.type p.value.type
  unchanged : ∀ p fault, s.set p = .error fault → settings (ps ++ [p]) = s
  order : s.signatureOrder = s.ints.map .ofInt ++ s.floats.map .ofFloat
  ints : (s.ints.map Parameter.ofInt).Sublist s.entries
  floats : (s.floats.map Parameter.ofFloat).Sublist s.entries
  all : s.signatureOrder.Perm s.entries

/-- Whatever was set, and whether each setting was accepted or not, the parameters are settled. -/
theorem settings_settled (ps : List Parameter) : Settled ps (settings ps) := by
  have entries : (settings ps).entries = settledValues ps := congrArg (·.entries) (settings_eq ps)
  have names : (settings ps).entries.map (·.name) = (ps.map (·.name)).eraseDups := by
    rw [entries, settledValues_names]
  have distinct : (settings ps).Distinct := by
    rw [Distinct, names]
    exact nodup_eraseDups _
  exact
    { entries
      names
      distinct
      types := fun name => by rw [settings_eq, type?_settledValues]
      found := fun name => by rw [settings_eq, find?, find?_settledValues]
      exact := fun q => mem_iff_find? distinct
      refused := fun p fault => set_eq_error distinct
      unchanged := fun p fault refused => by
        rw [settings_concat, setting, refused]
        rfl
      order := by rw [signatureOrder, filter_int, filter_float]
      ints := filter_int _ ▸ List.filter_sublist
      floats := filter_float _ ▸ List.filter_sublist
      all := signatureOrder_perm _ }

-- The float is refused: the last integer stands.
example : (settings [⟨"n", .int 1⟩, ⟨"m", .int 5⟩, ⟨"n", .int 2⟩, ⟨"n", .float ⟨0⟩⟩]).entries =
    [⟨"n", .int 2⟩, ⟨"m", .int 5⟩] := by decide

end ParameterSet

end PixelPipeline
