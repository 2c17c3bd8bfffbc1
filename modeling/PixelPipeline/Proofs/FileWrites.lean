import PixelPipeline.Command.Shell
import PixelPipeline.Pipeline.Loading
import PixelPipeline.Proofs.Outcome

namespace PixelPipeline

open Outcome

theorem Outcome.bind_pure_map {ε α β : Type} (x : Except ε α) (f : α → β) : (x >>= fun a => pure (f a)) = x.map f := by
  cases x <;> rfl

def Path.names (p : Path) : List String := p.segments.map String.ofList

structure Path.Usable (p : Path) : Prop where
  filled : p.text.isEmpty = false
  clean : p.text.contains '\x00' = false

namespace FileTree
variable {t u v : FileTree} {path : Path} {place : Place} {bytes : ByteArray}

def start (t : FileTree) (path : Path) : Place := if path.isAbsolute then [] else t.working

def file? (t : FileTree) (path : Path) : Option Place :=
  match t.destination path with
  | .ok (.entry place false) => some place
  | _ => none

def IsFileName (name : String) : Prop := name ≠ "" ∧ name ≠ "." ∧ name ≠ ".."

theorem usable_of_destination {d : Destination} (leads : t.destination path = .ok d) : path.Usable := by
  unfold destination at leads
  by_cases empty : path.text.isEmpty = true
  · rw [if_pos empty] at leads
    cases leads
  · rw [if_neg empty] at leads
    by_cases nul : path.text.contains '\x00' = true
    · rw [if_pos nul] at leads
      cases leads
    · exact ⟨Bool.eq_false_iff.mpr empty, Bool.eq_false_iff.mpr nul⟩

theorem destination_of_usable (usable : path.Usable) {named : List String}
    (counted : (path.names.reverse.dropWhile (· = "")).reverse = named) :
    t.destination path = match named.getLast? with
      | none => .ok (.directory (t.start path))
      | some last =>
        if last = "." ∨ last = ".." then (t.descend (t.start path) named).map .directory
        else (t.descend (t.start path) named.dropLast).map fun d =>
          .entry (d ++ [last]) (named.length < path.names.length) := by
  have empty : ¬ path.text.isEmpty = true := Bool.eq_false_iff.mp usable.filled
  have nul : ¬ path.text.contains '\x00' = true := Bool.eq_false_iff.mp usable.clean
  have names : path.segments.map String.ofList = path.names := rfl
  unfold destination
  rw [if_neg empty, if_neg nul]
  dsimp only
  rw [names, counted]
  simp only [start, bind_pure_map, Bool.or_eq_true, decide_eq_true_eq]
  rfl

theorem file?_eq_some_iff : t.file? path = some place ↔ t.destination path = .ok (.entry place false) := by
  unfold file?
  split <;> simp_all

theorem parts_of_entry {slash : Bool} (leads : t.destination path = .ok (.entry place slash)) :
    ∃ names last d, (path.names.reverse.dropWhile (· = "")).reverse = names ++ [last] ∧ IsFileName last ∧
      t.descend (t.start path) names = .ok d ∧ place = d ++ [last] ∧
        slash = decide ((names ++ [last]).length < path.names.length) := by
  have usable := usable_of_destination leads
  generalize counted : (path.names.reverse.dropWhile (· = "")).reverse = named at leads ⊢
  rw [destination_of_usable usable counted] at leads
  cases ended : named.getLast? with
  | none =>
    rw [ended] at leads
    cases leads
  | some last =>
    simp only [ended] at leads
    split at leads
    · obtain ⟨_, -, impossible⟩ := map_eq_ok.mp leads
      cases impossible
    · rename_i proper
      obtain ⟨d, reached, same⟩ := map_eq_ok.mp leads
      cases same
      obtain ⟨names, rfl⟩ := List.getLast?_eq_some_iff.mp ended
      have first : (path.names.reverse.dropWhile (· = "")).head? = some last := by
        rw [List.reverse_eq_iff.mp counted, List.head?_reverse, ended]
      have filled := List.head?_dropWhile_not (fun name : String => decide (name = "")) path.names.reverse
      rw [first] at filled
      rw [List.dropLast_concat] at reached
      exact ⟨names, last, d, rfl, ⟨of_decide_eq_false filled, not_or.mp proper⟩, reached, rfl, rfl⟩

theorem file?_eq_some : t.file? path = some place ↔ path.Usable ∧ ∃ names last d,
    path.names = names ++ [last] ∧ IsFileName last ∧ t.descend (t.start path) names = .ok d ∧ place = d ++ [last] := by
  rw [file?_eq_some_iff]
  constructor
  · intro leads
    obtain ⟨names, last, d, counted, proper, reached, rfl, slash⟩ := parts_of_entry leads
    have initial : names ++ [last] <+: path.names := by
      rw [← counted, ← List.reverse_suffix, List.reverse_reverse]
      exact List.dropWhile_suffix _
    have long := Nat.not_lt.mp (of_decide_eq_false slash.symm)
    exact ⟨usable_of_destination leads, names, last, d, (initial.eq_of_length_le long).symm, proper, reached, rfl⟩
  · rintro ⟨usable, names, last, d, split, proper, reached, rfl⟩
    have counted : (path.names.reverse.dropWhile (· = "")).reverse = names ++ [last] := by
      simp [split, proper.1]
    rw [destination_of_usable usable counted, List.getLast?_concat]
    simp [proper.2, reached, split, Except.map]

def bytes? (t : FileTree) (place : Place) : Option ByteArray :=
  match t.node? place with
  | some (.file bytes) => some bytes
  | _ => none

theorem file?_ne_nil (leads : t.file? path = some place) : place ≠ [] := by
  obtain ⟨-, _, last, d, -, -, -, rfl⟩ := file?_eq_some.mp leads
  simp

theorem lookup_replaced (nodes : List (Place × FileNode)) (place other : Place) (node : FileNode) :
    (nodes.map fun (p, old) => (p, if p = place then node else old)).lookup other =
      (nodes.lookup other).map fun old => if other = place then node else old := by
  induction nodes with
  | nil => rfl
  | cons entry nodes ih =>
    obtain ⟨p, old⟩ := entry
    rw [List.map_cons, List.lookup_cons, List.lookup_cons, ih]
    cases same : other == p with
    | false => rfl
    | true =>
      obtain rfl := eq_of_beq same
      rfl

theorem node?_set (proper : place ≠ []) (node : FileNode) (other : Place) :
    (t.set place node).node? other = if other = place then some node else t.node? other := by
  unfold set node?
  by_cases root : other = []
  · subst root
    rw [if_pos rfl, if_neg proper.symm, if_pos rfl]
  rw [if_neg root, if_neg root]
  split
  · rename_i known
    rw [lookup_replaced]
    split
    · rename_i same
      subst same
      obtain ⟨old, found⟩ := Option.isSome_iff_exists.mp known
      rw [found]
      rfl
    · simp
  · rename_i unknown
    rw [List.lookup_append, List.lookup_cons]
    by_cases same : other = place
    · subst same
      rw [Option.not_isSome_iff_eq_none.mp unknown, beq_self_eq_true, if_pos rfl]
      rfl
    · rw [beq_eq_false_iff_ne.mpr same, List.lookup_nil, Option.or_none, if_neg same]

theorem bytes?_eq_some : t.bytes? place = some bytes ↔ t.node? place = some (.file bytes) := by
  unfold bytes?
  split
  · rename_i found
    rw [found]
    simp
  · rename_i none
    simp only [reduceCtorEq, false_iff]
    exact none bytes

theorem read_eq_ok : t.read path = .ok bytes ↔ ∃ place, t.file? path = some place ∧ t.bytes? place = some bytes := by
  simp only [read, bind_eq_ok, file?_eq_some_iff, bytes?_eq_some]
  constructor
  · rintro ⟨_ | ⟨place, slash⟩, leads, found⟩
    · cases found
    · dsimp only at found
      split at found
      · cases found
      · cases found
      · rename_i held
        cases slash with
        | true => cases found
        | false =>
          cases found
          exact ⟨place, leads, held⟩
  · rintro ⟨place, leads, held⟩
    refine ⟨_, leads, ?_⟩
    simp only [held]
    rfl

theorem write_eq_ok : t.write path bytes = .ok u ↔
    ∃ place, t.file? path = some place ∧ t.node? place ≠ some .directory ∧ t.set place (.file bytes) = u := by
  simp only [write, bind_eq_ok, file?_eq_some_iff]
  constructor
  · rintro ⟨_ | ⟨place, slash⟩, leads, written⟩
    · cases written
    · cases slash with
      | true => cases written
      | false =>
        dsimp only at written
        rw [if_neg Bool.false_ne_true] at written
        split at written
        · cases written
        · rename_i free
          cases written
          exact ⟨place, leads, free, rfl⟩
  · rintro ⟨place, leads, free, rfl⟩
    refine ⟨_, leads, ?_⟩
    dsimp only
    rw [if_neg Bool.false_ne_true]
    split
    · exact absurd ‹_› free
    · rfl

structure SameDirectories (t u : FileTree) : Prop where
  working : u.working = t.working
  directory : ∀ place, u.node? place = some .directory ↔ t.node? place = some .directory

theorem SameDirectories.refl (t : FileTree) : t.SameDirectories t := ⟨rfl, fun _ => Iff.rfl⟩

theorem SameDirectories.trans (first : t.SameDirectories u) (second : u.SameDirectories v) : t.SameDirectories v :=
  ⟨second.working.trans first.working, fun place => (second.directory place).trans (first.directory place)⟩

theorem descend_cons {name : String} {names : List String} {d : Place} :
    t.descend place (name :: names) = .ok d ↔
      if name = "" ∨ name = "." then t.descend place names = .ok d
      else if name = ".." then t.descend place.dropLast names = .ok d
      else t.node? (place ++ [name]) = some .directory ∧ t.descend (place ++ [name]) names = .ok d := by
  rw [descend]
  simp only [Bool.or_eq_true, decide_eq_true_eq]
  split
  · rfl
  · split
    · rfl
    · split <;> simp_all

theorem SameDirectories.descend (same : t.SameDirectories u) {names : List String} {d : Place} :
    u.descend place names = .ok d ↔ t.descend place names = .ok d := by
  induction names generalizing place with
  | nil => rfl
  | cons name names ih => simp only [descend_cons, ih, same.directory]

theorem SameDirectories.file? (same : t.SameDirectories u) (path : Path) : u.file? path = t.file? path := by
  refine Option.ext fun place => ?_
  have start : u.start path = t.start path := by rw [FileTree.start, same.working, FileTree.start]
  simp only [file?_eq_some, start, same.descend]

theorem bytes?_set (proper : place ≠ []) (bytes : ByteArray) (other : Place) :
    (t.set place (.file bytes)).bytes? other = if other = place then some bytes else t.bytes? other := by
  unfold bytes?
  rw [node?_set proper]
  by_cases here : other = place
  · rw [if_pos here, if_pos here]
  · rw [if_neg here, if_neg here]

theorem SameDirectories.write (written : t.write path bytes = .ok u) : t.SameDirectories u := by
  obtain ⟨place, leads, free, rfl⟩ := write_eq_ok.mp written
  refine ⟨?_, fun other => ?_⟩
  · unfold set
    split <;> rfl
  · rw [node?_set (file?_ne_nil leads)]
    split
    · simp_all
    · rfl

theorem bytes?_of_write (written : t.write path bytes = .ok u) (other : Place) :
    u.bytes? other = if t.file? path = some other then some bytes else t.bytes? other := by
  obtain ⟨place, leads, -, rfl⟩ := write_eq_ok.mp written
  rw [bytes?_set (file?_ne_nil leads), leads]
  simp only [Option.some.injEq, eq_comm]

inductive Writes : List (Path × ByteArray) → FileTree → FileTree → Prop
  | nil (t : FileTree) : Writes [] t t
  | cons {path : Path} {bytes : ByteArray} {rest : List (Path × ByteArray)} {t u v : FileTree}
      (first : t.write path bytes = .ok u) (others : Writes rest u v) : Writes ((path, bytes) :: rest) t v

def lastTo? (t : FileTree) (ws : List (Path × ByteArray)) (place : Place) : Option ByteArray :=
  (ws.reverse.find? fun w => t.file? w.1 = some place).map (·.2)

namespace Writes

variable {ws : List (Path × ByteArray)} {w : Path × ByteArray}

theorem append {ws' : List (Path × ByteArray)} (first : Writes ws t u) (rest : Writes ws' u v) :
    Writes (ws ++ ws') t v := by
  induction first with
  | nil t => exact rest
  | cons written _ ih => exact .cons written (ih rest)

theorem sameDirectories (writes : Writes ws t u) : t.SameDirectories u := by
  induction writes with
  | nil t => exact .refl t
  | cons first _ ih => exact (SameDirectories.write first).trans ih

theorem bytes? (writes : Writes ws t u) (place : Place) :
    u.bytes? place = (t.lastTo? ws place).or (t.bytes? place) := by
  induction writes with
  | nil t => rfl
  | @cons path bytes rest t u v first _ ih =>
    have same := SameDirectories.write first
    have later : u.lastTo? rest place = t.lastTo? rest place := by simp only [lastTo?, same.file?]
    rw [ih, later, bytes?_of_write first, lastTo?, lastTo?, List.reverse_cons, List.find?_append]
    cases rest.reverse.find? fun w => t.file? w.1 = some place with
    | some w => rfl
    | none =>
      by_cases here : t.file? path = some place
      · simp [here]
      · simp [here]

theorem file? (writes : Writes ws t u) (member : w ∈ ws) : ∃ place, t.file? w.1 = some place := by
  induction writes with
  | nil t => cases member
  | cons first _ ih =>
    rcases List.mem_cons.mp member with rfl | later
    · obtain ⟨place, leads, -⟩ := write_eq_ok.mp first
      exact ⟨place, leads⟩
    · obtain ⟨place, leads⟩ := ih later
      exact ⟨place, (SameDirectories.write first).file? _ ▸ leads⟩

theorem read (writes : Writes ws t u) (member : w ∈ ws) : ∃ place last, t.file? w.1 = some place ∧
    ws.reverse.find? (fun w => t.file? w.1 = some place) = some last ∧ u.read w.1 = .ok last.2 := by
  obtain ⟨place, leads⟩ := writes.file? member
  have some : (ws.reverse.find? fun w => t.file? w.1 = some place).isSome := by
    rw [List.find?_isSome]
    exact ⟨w, List.mem_reverse.mpr member, decide_eq_true leads⟩
  obtain ⟨last, found⟩ := Option.isSome_iff_exists.mp some
  refine ⟨place, last, leads, found, read_eq_ok.mpr ⟨place, writes.sameDirectories.file? _ ▸ leads, ?_⟩⟩
  rw [writes.bytes?, lastTo?, found]
  rfl

end Writes

end FileTree

variable {S α β : Type}

theorem next_of_ran {action : StateM S α} {next : α → StateM S β} {s t : S} {a : α} (ran : action s = (a, t)) :
    (action >>= next) s = next a t := by
  have step : (action >>= next) s = next (action s).1 (action s).2 := rfl
  rw [step, ran]

def Still (action : StateM S α) : Prop := ∀ s, (action s).2 = s

theorem Still.bind {action : StateM S α} {next : α → StateM S β} (first : Still action)
    (later : ∀ a, Still (next a)) : Still (action >>= next) :=
  fun s => (later _ _).trans (first s)

theorem Still.mapM {act : α → StateM S β} (each : ∀ a, Still (act a)) (as : List α) : Still (as.mapM act) := by
  induction as with
  | nil => exact fun _ => rfl
  | cons a as ih =>
    rw [List.mapM_cons]
    exact (each a).bind fun _ => ih.bind fun _ _ => rfl

section

variable {files : Files (StateM S)}

theorem still_readText (steady : ∀ path, Still (files.read path)) (path : Path) : Still (files.readText path) := by
  refine (steady path).bind fun answer => ?_
  cases answer with
  | error e => exact fun _ => rfl
  | ok bytes =>
    dsimp only
    cases String.fromUTF8? bytes <;> exact fun _ => rfl

theorem still_load (steady : ∀ path, Still (files.read path)) (format : Pipeline.Format) (path : Path) :
    Still (PipelineFile.load format files path) := by
  refine (still_readText steady path).bind fun answer => ?_
  cases answer with
  | error e => exact fun _ => rfl
  | ok text =>
    dsimp only
    cases Pipeline.parse format text <;> exact fun _ => rfl

theorem still_floats (steady : ∀ path, Still (files.read path)) (path : Path) (count : Nat) :
    Still (RawFloats.load files path count) := by
  refine (steady path).bind fun answer => ?_
  cases answer with
  | error e => exact fun _ => rfl
  | ok bytes =>
    dsimp only
    cases RawFloats.read? bytes count <;> exact fun _ => rfl

theorem still_sources (steady : ∀ path, Still (files.read path)) (f : PipelineFile) : Still (f.readSources files) :=
  (Still.mapM (fun path => (still_readText steady path).bind fun _ _ => rfl) _).bind fun _ _ => rfl

end

namespace Console

variable {time : String} {c c' : Console} {path : Path} {bytes : ByteArray}

theorem still_read (time : String) (path : Path) : Still ((shell time).files.read path) := fun _ => rfl

theorem write_eq_ok : (shell time).files.write path bytes c = (.ok (), c') ↔
    ∃ u, c.tree.write path bytes = .ok u ∧ c' = { c with tree := u } := by
  have step : (shell time).files.write path bytes c =
      let (answer, tree) := FileTree.attempt (·.write path bytes) c.tree
      (answer, { c with tree }) := rfl
  rw [step, FileTree.attempt]
  cases c.tree.write path bytes with
  | error e =>
    constructor
    · intro failed
      cases failed
    · rintro ⟨_, impossible, -⟩
      cases impossible
  | ok u =>
    constructor
    · intro written
      cases written
      exact ⟨u, rfl, rfl⟩
    · rintro ⟨_, same, rfl⟩
      cases same
      rfl

end Console

end PixelPipeline
