import PixelPipeline.Proofs.FileWrites

namespace PixelPipeline

open Outcome

namespace Path

theorem split_cons {c : Char} (other : c ≠ '/') {cs : List Char} {segment : List Char} {rest : List (List Char)}
    (parts : split cs = segment :: rest) : split (c :: cs) = (c :: segment) :: rest := by
  rw [split]
  · rw [parts]
  · simpa using other

theorem split_append (xs ys : List Char) : split (xs ++ '/' :: ys) = split xs ++ split ys := by
  induction xs with
  | nil => rfl
  | cons c xs ih =>
    by_cases slash : c = '/'
    · subst slash
      exact congrArg ([] :: ·) ih
    · obtain ⟨segment, rest, parts⟩ := List.exists_cons_of_ne_nil (split_ne_nil xs)
      rw [parts] at ih
      rw [List.cons_append, split_cons slash ih, split_cons slash parts]
      rfl

theorem split_of_notMem {xs : List Char} (one : '/' ∉ xs) : split xs = [xs] := by
  induction xs with
  | nil => rfl
  | cons c xs ih =>
    obtain ⟨other, later⟩ := List.ne_and_not_mem_of_not_mem_cons one
    exact split_cons other.symm (ih later)

theorem names_append (a b : String) : names ⟨a ++ "/" ++ b⟩ = names ⟨a⟩ ++ names ⟨b⟩ := by
  have slash : "/".toList = ['/'] := rfl
  simp only [names, segments, String.toList_append, slash, List.append_assoc, List.singleton_append, split_append,
    List.map_append]

theorem names_of_notMem {a : String} (one : '/' ∉ a.toList) : names ⟨a⟩ = [a] := by
  simp [names, segments, split_of_notMem one]

theorem not_isAbsolute_of_notMem {a : String} (one : '/' ∉ a.toList) : isAbsolute ⟨a⟩ = false := by
  rw [isAbsolute, beq_eq_false_iff_ne]
  intro first
  exact one (List.mem_of_mem_head? first)

end Path

namespace FileTree

variable {t u v : FileTree} {path base p : Path} {place d : Place}

/-- All of a path leads through directories, to the one at the place. The empty path stays where it is. -/
def Enters (t : FileTree) (path : Path) (place : Place) : Prop := t.descend (t.start path) path.names = .ok place

theorem descend_append {xs ys : List String} : t.descend place (xs ++ ys) = .ok d ↔
    ∃ e, t.descend place xs = .ok e ∧ t.descend e ys = .ok d := by
  induction xs generalizing place with
  | nil => simp [descend]
  | cons x xs ih =>
    simp only [List.cons_append, descend_cons, ih]
    split
    · rfl
    · split
      · rfl
      · simp only [and_assoc, exists_and_left]

theorem descend_blank {names : List String} (blank : ∀ name ∈ names, name = "") :
    t.descend place names = .ok place := by
  induction names with
  | nil => rfl
  | cons name names ih =>
    obtain ⟨here, later⟩ := List.forall_mem_cons.mp blank
    exact descend_cons.mpr (by rw [if_pos (.inl here)]; exact ih later)

theorem exists_blank (names : List String) : ∃ blank, (∀ name ∈ blank, name = "") ∧
    names = (names.reverse.dropWhile (· = "")).reverse ++ blank := by
  refine ⟨(names.reverse.takeWhile (· = "")).reverse, ?_, ?_⟩
  · intro name member
    have all := List.all_eq_true.mp (List.all_takeWhile (l := names.reverse) (p := fun name => decide (name = "")))
    exact of_decide_eq_true (all name (List.mem_reverse.mp member))
  · rw [← List.reverse_append, List.takeWhile_append_dropWhile, List.reverse_reverse]

theorem enters_of_named {named : List String} (counted : (path.names.reverse.dropWhile (· = "")).reverse = named)
    (reached : t.descend (t.start path) named = .ok place) : t.Enters path place := by
  obtain ⟨blank, empty, whole⟩ := exists_blank path.names
  rw [Enters, whole, counted]
  exact descend_append.mpr ⟨place, reached, descend_blank empty⟩

theorem enters_of_directory (leads : t.destination path = .ok (.directory place)) : t.Enters path place := by
  have usable := usable_of_destination leads
  generalize counted : (path.names.reverse.dropWhile (· = "")).reverse = named at leads
  rw [destination_of_usable usable counted] at leads
  cases ended : named.getLast? with
  | none =>
    rw [ended] at leads
    cases leads
    rw [List.getLast?_eq_none_iff.mp ended] at counted
    exact enters_of_named counted rfl
  | some last =>
    simp only [ended] at leads
    split at leads
    · obtain ⟨_, reached, same⟩ := map_eq_ok.mp leads
      cases same
      exact enters_of_named counted reached
    · obtain ⟨_, -, impossible⟩ := map_eq_ok.mp leads
      cases impossible

theorem start_of_append {a b : String} (filled : a ≠ "") : t.start ⟨a ++ b⟩ = t.start ⟨a⟩ := by
  have nonempty : a.toList ≠ [] := by simpa using filled
  have head : (a ++ b).toList.head? = a.toList.head? := by
    rw [String.toList_append, List.head?_append_of_ne_nil _ nonempty]
  rw [start, start, Path.isAbsolute, Path.isAbsolute, head]

theorem enters_join (relative : p.isAbsolute = false) (entered : t.Enters base d) :
    ∃ names, (base.join p).names = names ++ p.names ∧ t.descend (t.start (base.join p)) names = .ok d := by
  obtain ⟨a⟩ := base
  obtain ⟨b⟩ := p
  rw [Enters] at entered
  by_cases empty : a = ""
  · subst empty
    have same : Path.join ⟨""⟩ ⟨b⟩ = ⟨b⟩ := by simp [Path.join]
    have starts : t.start ⟨b⟩ = t.start ⟨""⟩ := by rw [start, start, relative]; rfl
    rw [same, starts]
    exact ⟨[], rfl, entered⟩
  have filled : a.isEmpty = false := by simpa using empty
  by_cases slash : a.toList.getLast? = some '/'
  · have same : Path.join ⟨a⟩ ⟨b⟩ = ⟨a ++ b⟩ := by simp [Path.join, relative, filled, slash]
    obtain ⟨cs, whole⟩ := List.getLast?_eq_some_iff.mp slash
    have text : a = String.ofList cs ++ "/" := by
      rw [← String.ofList_toList (s := a), whole, String.ofList_append]
    have ended : Path.names ⟨a⟩ = Path.names ⟨String.ofList cs⟩ ++ [""] := by
      have closed := Path.names_append (String.ofList cs) ""
      rw [String.append_empty, ← text] at closed
      exact closed
    rw [ended] at entered
    obtain ⟨e, reached, last⟩ := descend_append.mp entered
    cases last
    refine ⟨Path.names ⟨String.ofList cs⟩, ?_, ?_⟩
    · rw [same]
      conv_lhs => rw [text]
      exact Path.names_append _ _
    · rw [same, start_of_append empty]
      exact reached
  · have same : Path.join ⟨a⟩ ⟨b⟩ = ⟨a ++ "/" ++ b⟩ := by simp [Path.join, relative, filled, slash]
    refine ⟨Path.names ⟨a⟩, ?_, ?_⟩
    · rw [same]
      exact Path.names_append a b
    · rw [same, String.append_assoc, start_of_append empty]
      exact entered

theorem file?_join (entered : t.Enters base d) (leads : t.file? (base.join p) = some place) :
    ∃ names last e, p.names = names ++ [last] ∧ t.descend (if p.isAbsolute then [] else d) names = .ok e ∧
      place = e ++ [last] := by
  obtain ⟨-, names, last, e, parts, -, reached, rfl⟩ := file?_eq_some.mp leads
  cases absolute : p.isAbsolute with
  | true =>
    have same : base.join p = p := by simp [Path.join, absolute]
    rw [same] at parts reached
    rw [start, absolute] at reached
    exact ⟨names, last, e, parts, reached, rfl⟩
  | false =>
    obtain ⟨before, whole, entered⟩ := enters_join absolute entered
    have filled : p.names ≠ [] := by simpa [Path.names, Path.segments] using Path.split_ne_nil _
    obtain ⟨after, last', own⟩ : ∃ after last', p.names = after ++ [last'] :=
      ⟨_, _, (List.dropLast_append_getLast filled).symm⟩
    rw [own, ← List.append_assoc] at whole
    obtain ⟨rfl, ends⟩ := List.append_inj' (parts.symm.trans whole) rfl
    cases ends
    obtain ⟨e', first, rest⟩ := descend_append.mp reached
    cases entered.symm.trans first
    exact ⟨after, last, e, own, rest, rfl⟩

structure MoreDirectories (t u : FileTree) : Prop where
  working : u.working = t.working
  directory : ∀ place, t.node? place = some .directory → u.node? place = some .directory
  bytes? : ∀ place, u.bytes? place = t.bytes? place

theorem MoreDirectories.refl (t : FileTree) : t.MoreDirectories t := ⟨rfl, fun _ => id, fun _ => rfl⟩

theorem MoreDirectories.trans (first : t.MoreDirectories u) (second : u.MoreDirectories v) : t.MoreDirectories v :=
  ⟨second.working.trans first.working, fun place here => second.directory place (first.directory place here),
    fun place => (second.bytes? place).trans (first.bytes? place)⟩

theorem MoreDirectories.descend (more : t.MoreDirectories u) {names : List String}
    (reached : t.descend place names = .ok d) : u.descend place names = .ok d := by
  induction names generalizing place with
  | nil => exact reached
  | cons name names ih =>
    rw [descend_cons] at reached ⊢
    split
    · rename_i idle
      rw [if_pos idle] at reached
      exact ih reached
    · rename_i named
      rw [if_neg named] at reached
      split
      · rename_i up
        rw [if_pos up] at reached
        exact ih reached
      · rename_i down
        rw [if_neg down] at reached
        exact ⟨more.directory _ reached.1, ih reached.2⟩

theorem MoreDirectories.start (more : t.MoreDirectories u) (path : Path) : u.start path = t.start path := by
  rw [FileTree.start, FileTree.start, more.working]

theorem enters_of_entry {slash : Bool} (leads : t.destination path = .ok (.entry place slash))
    (more : t.MoreDirectories u) (here : u.node? place = some .directory) : u.Enters path place := by
  obtain ⟨names, last, d, counted, ⟨filled, proper⟩, reached, rfl, -⟩ := parts_of_entry leads
  apply enters_of_named counted
  rw [more.start]
  refine descend_append.mpr ⟨d, more.descend reached, descend_cons.mpr ?_⟩
  rw [if_neg (by simp [filled, proper.1]), if_neg proper.2]
  exact ⟨here, rfl⟩

theorem enters_of_isDirectory (found : t.isDirectory path = true) : ∃ place, t.Enters path place := by
  unfold isDirectory at found
  split at found
  · exact ⟨_, enters_of_directory ‹_›⟩
  · split at found
    · exact ⟨_, enters_of_entry ‹_› (.refl t) ‹_›⟩
    · cases found
  · cases found

theorem createDirectory_eq_ok : t.createDirectory path = .ok u ↔ ∃ place slash,
    t.destination path = .ok (.entry place slash) ∧ t.node? place = none ∧ t.set place .directory = u := by
  simp only [createDirectory, bind_eq_ok]
  constructor
  · rintro ⟨_ | ⟨place, slash⟩, leads, made⟩
    · cases made
    · dsimp only at made
      split at made
      · cases made
      · cases made
        exact ⟨place, slash, leads, ‹_›, rfl⟩
  · rintro ⟨place, slash, leads, free, rfl⟩
    refine ⟨_, leads, ?_⟩
    simp only [free]
    rfl

theorem createDirectory_enters (made : t.createDirectory path = .ok u) :
    t.MoreDirectories u ∧ ∃ place, u.Enters path place := by
  obtain ⟨place, slash, leads, free, rfl⟩ := createDirectory_eq_ok.mp made
  obtain ⟨-, last, d, -, -, -, rfl, -⟩ := parts_of_entry leads
  have proper : d ++ [last] ≠ [] := by simp
  have node := node?_set (t := t) proper .directory
  have more : t.MoreDirectories (t.set (d ++ [last]) .directory) := by
    constructor
    · unfold set
      split <;> rfl
    · intro other here
      rw [node]
      split
      · rfl
      · exact here
    · intro other
      unfold FileTree.bytes?
      rw [node]
      by_cases same : other = d ++ [last]
      · rw [if_pos same, same, free]
      · rw [if_neg same]
  exact ⟨more, _, enters_of_entry leads more ((node _).trans (if_pos rfl))⟩

end FileTree

namespace Console

variable {time : String} {c c' : Console} {path : Path}

theorem createDirectory_cases (time : String) (c : Console) (path : Path) :
    (∃ u, (shell time).files.createDirectory path c = (.ok (), { c with tree := u }) ∧
      c.tree.createDirectory path = .ok u) ∨
    ∃ e, (shell time).files.createDirectory path c = (.error e, c) := by
  have step : (shell time).files.createDirectory path c =
      let (answer, tree) := FileTree.attempt (·.createDirectory path) c.tree
      (answer, { c with tree }) := rfl
  rw [step, FileTree.attempt]
  cases c.tree.createDirectory path with
  | error e => exact .inr ⟨e, rfl⟩
  | ok u => exact .inl ⟨u, rfl, rfl⟩

def Entered (path : Path) (c c' : Console) : Prop :=
  c.tree.MoreDirectories c'.tree ∧ ∃ place, c'.tree.Enters path place

theorem entered_of_found {e : FileError}
    (made : ((shell time).files.isDirectory path >>= fun found => if found then pure (.ok ()) else pure (.error e)) c =
      ((.ok () : Except FileError Unit), c')) : Entered path c c' := by
  have looked : (shell time).files.isDirectory path c = (c.tree.isDirectory path, c) := rfl
  rw [next_of_ran looked] at made
  cases found : c.tree.isDirectory path with
  | false =>
    rw [found] at made
    cases made
  | true =>
    rw [found] at made
    cases made
    exact ⟨.refl _, FileTree.enters_of_isDirectory found⟩

theorem entered_of_ensured (made : (shell time).files.ensureDirectory path c = (.ok (), c')) : Entered path c c' := by
  unfold Files.ensureDirectory at made
  rcases createDirectory_cases time c path with ⟨u, answered, created⟩ | ⟨e, answered⟩
  · rw [next_of_ran answered] at made
    cases made
    exact FileTree.createDirectory_enters created
  · rw [next_of_ran answered] at made
    exact entered_of_found made

theorem entered_of_createMissing {paths : List Path}
    (made : (shell time).files.createMissing paths c = (.ok (), c')) :
    c.tree.MoreDirectories c'.tree ∧ ∀ path ∈ paths.head?, Entered path c c' := by
  induction paths generalizing c c' with
  | nil =>
    cases made
    exact ⟨.refl _, by simp⟩
  | cons path outer ih =>
    have entered : Entered path c c' := by
      unfold Files.createMissing at made
      rcases createDirectory_cases time c path with ⟨u, answered, created⟩ | ⟨e, answered⟩
      · rw [next_of_ran answered] at made
        cases made
        exact FileTree.createDirectory_enters created
      · rw [next_of_ran answered] at made
        cases e with
        | notFound =>
          cases before : (shell time).files.createMissing outer c with
          | mk answer c₁ =>
            have later := (next_of_ran before).symm.trans made
            cases answer with
            | error e => cases later
            | ok _ =>
              obtain ⟨more, enters⟩ := entered_of_ensured later
              exact ⟨(ih before).1.trans more, enters⟩
        | _ => exact entered_of_found made
    exact ⟨entered.1, by simpa using entered⟩

theorem entered_of_createDirectories (made : (shell time).files.createDirectories path c = (.ok (), c')) :
    Entered path c c' := by
  unfold Files.createDirectories Files.ancestors at made
  split at made
  · rename_i empty
    cases made
    have text : path = ⟨""⟩ := by
      obtain ⟨text⟩ := path
      simpa using empty
    subst text
    exact ⟨.refl _, c.tree.working, rfl⟩
  · exact (entered_of_createMissing made).2 path (by simp)

end Console

end PixelPipeline
