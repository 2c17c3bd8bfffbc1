import Mathlib.Data.List.Pairwise
import PixelPipeline.Pipeline.Text
import PixelPipeline.Proofs.Directories
import PixelPipeline.Proofs.Publication

namespace PixelPipeline

open Outcome

namespace PipelineFile

variable {f : PipelineFile} {e : Environment} {directory : Path} {ks : List KernelDeclaration} {d place : Place}
  {t u : FileTree} {k : KernelDeclaration}

def sheetPath (f : PipelineFile) (e : Environment) (directory : Path) (k : KernelDeclaration) : Path :=
  (f.sheet e k).path e directory

def sheetBytes (f : PipelineFile) (e : Environment) (k : KernelDeclaration) : ByteArray :=
  ((f.sheet e k).code ++ "\n").toUTF8

def sheetName (e : Environment) (k : KernelDeclaration) : Path := ⟨s!"{k.name}.{e.sourceExtension}"⟩

theorem text_sheetName (e : Environment) (k : KernelDeclaration) :
    (sheetName e k).text = k.name ++ ("." ++ e.sourceExtension) :=
  String.append_assoc

def lastSheet? (f : PipelineFile) (e : Environment) (directory : Path) (ks : List KernelDeclaration) (t : FileTree)
    (place : Place) : Option KernelDeclaration :=
  ks.reverse.find? fun k => t.file? (f.sheetPath e directory k) = some place

structure Separate (f : PipelineFile) (e : Environment) (directory : Path) (ks : List KernelDeclaration) (d : Place)
    (t u : FileTree) : Prop where
  inside : ∀ k ∈ ks, ∃ name, u.file? (f.sheetPath e directory k) = some (d ++ [name])
  apart : ks.Pairwise fun k k' => u.file? (f.sheetPath e directory k) ≠ u.file? (f.sheetPath e directory k')
  held : ∀ k ∈ ks, u.read (f.sheetPath e directory k) = .ok (f.sheetBytes e k)
  elsewhere : ∀ place, ¬ d <+: place → u.bytes? place = t.bytes? place

structure Sheeted (f : PipelineFile) (e : Environment) (directory : Path) (ks : List KernelDeclaration) (d : Place)
    (t u : FileTree) : Prop where
  leads : ∀ k ∈ ks, ∃ names last parent, (sheetName e k).names = names ++ [last] ∧
    u.descend (if (sheetName e k).isAbsolute then [] else d) names = .ok parent ∧
    u.file? (f.sheetPath e directory k) = some (parent ++ [last])
  holds : ∀ k ∈ ks, ∃ place last, u.file? (f.sheetPath e directory k) = some place ∧
    f.lastSheet? e directory ks u place = some last ∧ u.bytes? place = some (f.sheetBytes e last)
  keeps : ∀ place, (∀ k ∈ ks, u.file? (f.sheetPath e directory k) ≠ some place) → u.bytes? place = t.bytes? place

theorem sheeted_of_writes {r : FileTree} (more : t.MoreDirectories r) (entered : r.Enters directory d)
    (writes : FileTree.Writes (ks.map fun k => (f.sheetPath e directory k, f.sheetBytes e k)) r u) :
    u.Enters directory d ∧ f.Sheeted e directory ks d t u := by
  have same := writes.sameDirectories
  have start : u.start directory = r.start directory := by rw [FileTree.start, FileTree.start, same.working]
  have here : u.Enters directory d := by
    rw [FileTree.Enters, start]
    exact same.descend.mpr entered
  have searched (place : Place) : r.lastTo? (ks.map fun k => (f.sheetPath e directory k, f.sheetBytes e k)) place =
      (f.lastSheet? e directory ks u place).map (f.sheetBytes e) := by
    simp only [FileTree.lastTo?, lastSheet?, ← List.map_reverse, List.find?_map, Option.map_map, same.file?]
    rfl
  have goes : ∀ k ∈ ks, ∃ place, u.file? (f.sheetPath e directory k) = some place := by
    intro k listed
    obtain ⟨place, leads⟩ := writes.file? (List.mem_map_of_mem listed)
    exact ⟨place, (same.file? _).trans leads⟩
  refine ⟨here, ?_, ?_, ?_⟩
  · intro k listed
    obtain ⟨place, leads⟩ := goes k listed
    obtain ⟨names, last, parent, parts, reached, rfl⟩ := FileTree.file?_join here leads
    exact ⟨names, last, parent, parts, reached, leads⟩
  · intro k listed
    obtain ⟨place, leads⟩ := goes k listed
    have some : (f.lastSheet? e directory ks u place).isSome := by
      rw [lastSheet?, List.find?_isSome]
      exact ⟨k, List.mem_reverse.mpr listed, decide_eq_true leads⟩
    obtain ⟨last, found⟩ := Option.isSome_iff_exists.mp some
    refine ⟨place, last, leads, found, ?_⟩
    rw [writes.bytes?, searched, found]
    rfl
  · intro place free
    have none : f.lastSheet? e directory ks u place = none := by
      rw [lastSheet?, List.find?_eq_none]
      intro k reversed found
      exact free k (List.mem_reverse.mp reversed) (of_decide_eq_true found)
    rw [writes.bytes?, searched, none, more.bytes?]
    rfl

theorem Selects.nodup {kernel : Option String} (asked : f.Selects kernel ks) (valid : f.pipeline.WellFormed) :
    (ks.map (·.name)).Nodup := by
  cases kernel with
  | none =>
    cases asked
    exact valid.kernels
  | some name =>
    obtain ⟨k, -, -, rfl⟩ := asked
    exact List.nodup_singleton _

theorem Sheeted.separate_iff (sheeted : f.Sheeted e directory ks d t u) : f.Separate e directory ks d t u ↔
    (∀ k ∈ ks, ∃ name, u.file? (f.sheetPath e directory k) = some (d ++ [name])) ∧
      ks.Pairwise fun k k' => u.file? (f.sheetPath e directory k) ≠ u.file? (f.sheetPath e directory k') := by
  constructor
  · intro separate
    exact ⟨separate.inside, separate.apart⟩
  · rintro ⟨inside, apart⟩
    refine ⟨inside, apart, ?_, ?_⟩
    · intro k listed
      obtain ⟨place, last, leads, found, bytes⟩ := sheeted.holds k listed
      rw [lastSheet?] at found
      have member := List.mem_reverse.mp (List.mem_of_find?_eq_some found)
      have there : u.file? (f.sheetPath e directory last) = some place := by simpa using List.find?_some found
      have : Std.Symm fun k k' : KernelDeclaration =>
          u.file? (f.sheetPath e directory k) ≠ u.file? (f.sheetPath e directory k') := ⟨fun _ _ => Ne.symm⟩
      have own : k = last := by
        by_contra other
        exact apart.forall listed member other (leads.trans there.symm)
      rw [own]
      exact FileTree.read_eq_ok.mpr ⟨place, there, bytes⟩
    · intro place outside
      refine sheeted.keeps place fun k listed leads => ?_
      obtain ⟨name, own⟩ := inside k listed
      cases leads.symm.trans own
      exact outside (List.prefix_append d _)

theorem Sheeted.plain (sheeted : f.Sheeted e directory ks d t u) (listed : k ∈ ks) (one : '/' ∉ k.name.toList) :
    u.file? (f.sheetPath e directory k) = some (d ++ [(sheetName e k).text]) := by
  have whole : '/' ∉ (sheetName e k).text.toList := by
    rw [text_sheetName]
    cases e <;> simp [Environment.sourceExtension, one]
  obtain ⟨names, last, parent, parts, reached, leads⟩ := sheeted.leads k listed
  rw [Path.names_of_notMem whole] at parts
  rw [Path.not_isAbsolute_of_notMem whole] at reached
  obtain ⟨rfl, rfl⟩ : names = [] ∧ last = (sheetName e k).text := by
    cases names with
    | nil => simpa [eq_comm] using parts
    | cons name names => simp at parts
  cases reached
  exact leads

theorem Sheeted.separate (sheeted : f.Sheeted e directory ks d t u) (named : (ks.map (·.name)).Nodup)
    (plain : ∀ k ∈ ks, '/' ∉ k.name.toList) : f.Separate e directory ks d t u := by
  refine sheeted.separate_iff.mpr ⟨?_, ?_⟩
  · intro k listed
    exact ⟨_, sheeted.plain listed (plain k listed)⟩
  · refine (List.pairwise_map.mp named).imp_of_mem fun {k k'} listed listed' apart same => apart ?_
    rw [sheeted.plain listed (plain k listed), sheeted.plain listed' (plain k' listed')] at same
    have texts : (sheetName e k).text = (sheetName e k').text := by simpa using same
    rw [text_sheetName, text_sheetName] at texts
    have chars := congrArg String.toList texts
    simp only [String.toList_append] at chars
    exact String.toList_inj.mp (List.append_cancel_right chars)

end PipelineFile

namespace Boilerplate

variable {time : String} {verbose : Bool} {g : Graph} {directory : Path} {several first : Bool} {ids : List KernelId}
  {sheets : List Sheet} {c c' : Console}

theorem written_of_writeSheet {e : Environment} {s : Sheet}
    (ran : writeSheet (Console.shell time) verbose e directory s c = (.ok (), c')) :
    FileTree.Writes [(s.path e directory, (s.code ++ "\n").toUTF8)] c.tree c'.tree := by
  obtain ⟨answer, r, wrote, later⟩ := ran_bind.mp ran
  cases answer with
  | error e => cases later
  | ok _ =>
    obtain ⟨u, written, rfl⟩ := Console.write_eq_ok.mp (ran_lift.mp wrote)
    have tree : c'.tree = u := by
      cases verbose with
      | false =>
        cases later
        rfl
      | true =>
        cases later
        rfl
    rw [tree]
    exact .cons written (.nil u)

theorem written_of_emitAll (made : List.Forall₂ (fun id s => sheet g id = .ok s) ids sheets)
    (ran : emitAll (Console.shell time) verbose g (some directory) several first ids c = (.ok (), c')) :
    FileTree.Writes (sheets.map fun s => (s.path g.environment directory, (s.code ++ "\n").toUTF8)) c.tree c'.tree := by
  induction made generalizing first c with
  | nil =>
    cases ran
    exact .nil _
  | @cons id s ids sheets here _ ih =>
    obtain ⟨_, r, same, emitted, later⟩ := emitAll_cons.mp ran
    rw [here] at same
    cases same
    exact (written_of_writeSheet emitted).append (ih later)

theorem entered_of_prepareDirectory (ran : prepareDirectory (Console.shell time) (some directory) c = (.ok (), c')) :
    Console.Entered directory c c' := by
  obtain ⟨answer, r, created, later⟩ := ran_bind.mp ran
  cases answer with
  | error e => cases later
  | ok _ =>
    cases later
    exact Console.entered_of_createDirectories (ran_lift.mp created)

theorem wellFormed_of_select {f : PipelineFile} {e : Environment} {kernel : Option String}
    {chosen : Graph × List KernelId}
    (selection : select f e kernel = .ok chosen) : f.pipeline.WellFormed := by
  unfold select at selection
  cases made : f.declare none (.empty e ⟨0⟩) with
  | mk outcome h =>
    rw [made] at selection
    cases outcome with
    | error failure => cases selection
    | ok d => exact (PipelineFile.makes_declare.mp made).1.valid

section

variable {σ : Type} {format : Pipeline.Format} {platform : Platform σ} {pipeline : Path} {kernel : Option String}
  {environment : Option Environment}

theorem sheeted_of_accepted :
    let outcome := (Command.boilerplate ⟨pipeline, kernel, environment, some directory⟩).execute format
      (Console.shell time) platform verbose c
    outcome.1.code = 0 → ∃ f e ks d, (PipelineFile.load format (Console.shell time).files pipeline c).1 = .ok f ∧
      f.pipeline.environmentOr environment = .ok e ∧ f.Selects kernel ks ∧ (ks.map (·.name)).Nodup ∧
      outcome.2.tree.Enters directory d ∧ f.Sheeted e directory ks d c.tree outcome.2.tree := by
  intro outcome accepted
  obtain ⟨f, c₁, loaded, later⟩ := ran_bind.mp (ran_of_accepted accepted)
  have loaded : PipelineFile.load format (Console.shell time).files pipeline c = (.ok f, c₁) := loaded
  have still := still_load (Console.still_read time) format pipeline c
  rw [loaded] at still ⊢
  obtain ⟨e, c₂, chosen, later⟩ := ran_bind.mp later
  obtain ⟨chosen, rfl⟩ : _ ∧ c₁ = c₂ := Prod.ext_iff.mp chosen
  obtain ⟨⟨g, ids⟩, c₃, selection, later⟩ := ran_bind.mp later
  obtain ⟨selection, rfl⟩ : _ ∧ c₁ = c₃ := Prod.ext_iff.mp selection
  obtain ⟨_, c₄, prepared, emitted⟩ := ran_bind.mp later
  obtain ⟨more, d, entered⟩ := entered_of_prepareDirectory prepared
  have valid := wellFormed_of_select selection
  obtain ⟨rfl, ks, asked, made⟩ := sheets_of_select selection
  have writes := written_of_emitAll made emitted
  rw [List.map_map] at writes
  dsimp only at still more
  rw [still] at more
  obtain ⟨here, sheeted⟩ := PipelineFile.sheeted_of_writes more entered writes
  exact ⟨f, g.environment, ks, d, rfl, mapError_eq_ok.mp chosen, asked, asked.nodup valid, here, sheeted⟩

end

/-- Scaffolds that are written to a directory go where the names of their kernels lead from there, so that a slash in a
name can lead out of the directory, or two names to one file, which then holds the later scaffold. All else is as it
was. If no name has a slash, every kernel has a file of its own in the directory. -/
theorem sheets_follow_names {σ : Type} (format : Pipeline.Format) (platform : Platform σ) (time : String)
    (verbose : Bool) (pipeline : Path)
    (kernel : Option String) (environment : Option Environment) (directory : Path) (c : Console) :
    let outcome := (Command.boilerplate ⟨pipeline, kernel, environment, some directory⟩).execute format
      (Console.shell time) platform verbose c
    let u := outcome.2.tree
    outcome.1.code = 0 → ∃ f e ks d, (PipelineFile.load format (Console.shell time).files pipeline c).1 = .ok f ∧
      f.pipeline.environmentOr environment = .ok e ∧ f.Selects kernel ks ∧ u.Enters directory d ∧
      let file k := u.file? (f.sheetPath e directory k)
      f.Sheeted e directory ks d c.tree u ∧
      (f.Separate e directory ks d c.tree u ↔ (∀ k ∈ ks, ∃ name, file k = some (d ++ [name])) ∧
        ks.Pairwise fun k k' => file k ≠ file k') ∧
      (∀ k ∈ ks, '/' ∉ k.name.toList → file k = some (d ++ [s!"{k.name}.{e.sourceExtension}"])) ∧
      ((∀ k ∈ ks, '/' ∉ k.name.toList) → f.Separate e directory ks d c.tree u) := by
  intro outcome u accepted
  obtain ⟨f, e, ks, d, loaded, chosen, asked, named, here, sheeted⟩ := sheeted_of_accepted accepted
  refine ⟨f, e, ks, d, loaded, chosen, asked, here, sheeted, sheeted.separate_iff, ?_, ?_⟩
  · intro k listed one
    exact sheeted.plain listed one
  · intro plain
    exact sheeted.separate named plain

def climbing : Console where
  tree.working := []
  tree.nodes := [(["p"], .file "width: 1\nheight: 1\nkernels: [\x7bname: k\x7d, \x7bname: ../k\x7d]\n".toUTF8)]

def climbingRun (kernel : Option String) : Ending Unit × Console :=
  (Command.boilerplate ⟨⟨"p"⟩, kernel, some .openCL, some ⟨"d"⟩⟩).execute Pipeline.yaml (Console.shell "0s")
    Platform.bare false
    climbing

theorem climbing_evaluates (kernel : String) (chosen : kernel = "k" ∨ kernel = "../k") :
    (climbingRun (some kernel)).1.code = 0 ∧ (climbingRun (some kernel)).2.tree.Enters ⟨"d"⟩ ["d"] := by
  have ran : ∀ name ∈ ["k", "../k"], (climbingRun (some name)).1.code = 0 ∧
      let u := (climbingRun (some name)).2.tree
      (u.descend (u.start ⟨"d"⟩) (Path.names ⟨"d"⟩)).toOption = some ["d"] := by
    -- Evaluation stops at the search for a character, which is recursion over an iterator.
    delta climbingRun Console.shell FileTree.files FileTree.read FileTree.write FileTree.createDirectory
      FileTree.isDirectory FileTree.destination
    simp only [String.contains_char_eq]
    decide +kernel
  obtain ⟨accepted, entered⟩ := ran kernel (by simpa using chosen)
  exact ⟨accepted, toOption_eq_some.mp entered⟩

theorem sheets_follow_names_plain : (climbingRun (some "k")).1.code = 0 ∧ ∃ (f : PipelineFile) (k : KernelDeclaration),
    f.Separate .openCL ⟨"d"⟩ [k] ["d"] climbing.tree (climbingRun (some "k")).2.tree ∧
      (climbingRun (some "k")).2.tree.file? (f.sheetPath .openCL ⟨"d"⟩ k) = some ["d", "k.cl"] := by
  obtain ⟨accepted, entered⟩ := climbing_evaluates "k" (.inl rfl)
  obtain ⟨f, e, ks, d, -, chosen, asked, here, -, -, places, separate⟩ :=
    sheets_follow_names Pipeline.yaml Platform.bare "0s" false ⟨"p"⟩ (some "k") (some .openCL) ⟨"d"⟩ climbing accepted
  cases chosen
  cases entered.symm.trans here
  obtain ⟨k, -, named, rfl⟩ := asked
  have plain : ∀ k' ∈ [k], '/' ∉ k'.name.toList := by
    rw [List.forall_mem_singleton, named]
    decide
  have own := places k (by simp) (plain k (by simp))
  rw [named] at own
  exact ⟨accepted, f, k, separate plain, own⟩

theorem sheet_escapes : (climbingRun (some "../k")).1.code = 0 ∧ ∃ (f : PipelineFile) (k : KernelDeclaration),
    (PipelineFile.load Pipeline.yaml (Console.shell "0s").files ⟨"p"⟩ climbing).1 = .ok f ∧ f.Selects (some "../k") [k] ∧
      (climbingRun (some "../k")).2.tree.Enters ⟨"d"⟩ ["d"] ∧
      (climbingRun (some "../k")).2.tree.file? (f.sheetPath .openCL ⟨"d"⟩ k) = some ["k.cl"] ∧
      ¬ f.Separate .openCL ⟨"d"⟩ [k] ["d"] climbing.tree (climbingRun (some "../k")).2.tree := by
  obtain ⟨accepted, entered⟩ := climbing_evaluates "../k" (.inr rfl)
  obtain ⟨f, e, ks, d, loaded, chosen, asked, -, here, sheeted⟩ := sheeted_of_accepted accepted
  cases chosen
  cases entered.symm.trans here
  obtain ⟨k, listed, named, rfl⟩ := asked
  have parts : PipelineFile.sheetName .openCL k = ⟨"../k.cl"⟩ := by
    rw [PipelineFile.sheetName, named]
    rfl
  have up : Path.names ⟨"../k.cl"⟩ = [".."] ++ ["k.cl"] ∧ Path.isAbsolute ⟨"../k.cl"⟩ = false := by decide
  obtain ⟨names, last, parent, split, reached, leads⟩ := sheeted.leads k (by simp)
  rw [parts] at split reached
  rw [up.2] at reached
  obtain ⟨rfl, ends⟩ := List.append_inj' (up.1.symm.trans split) rfl
  cases ends
  cases reached
  refine ⟨accepted, f, k, loaded, ⟨k, listed, named, rfl⟩, here, leads, fun separate => ?_⟩
  obtain ⟨name, inside⟩ := separate.inside k (by simp)
  simpa using leads.symm.trans inside

end Boilerplate

end PixelPipeline
