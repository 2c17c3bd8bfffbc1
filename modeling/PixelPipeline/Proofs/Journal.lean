import PixelPipeline.Command.Run
import PixelPipeline.Proofs.Record

/-!
Surroundings that keep a record of the files written, and files that cannot change. Main statement: where reading
changes nothing, what is loaded is what the files held at first.
-/
namespace PixelPipeline

variable {W σ α : Type}

structure FileWrite where
  path : Path
  bytes : ByteArray
  answer : Except FileError Unit

structure Journal (W : Type) where
  world : W
  writes : List FileWrite

def Journal.onWorld (action : StateM W α) : StateM (Journal W) α := fun j =>
  let (a, world) := action j.world
  (a, { j with world })

namespace Shell

def recorded (shell : Shell (StateM W)) : Shell (StateM (Journal W)) where
  files := { shell.files.lift Journal.onWorld with
    write := fun path bytes j =>
      let (answer, world) := shell.files.write path bytes j.world
      (answer, ⟨world, j.writes ++ [⟨path, bytes, answer⟩]⟩) }
  print text := Journal.onWorld (shell.print text)
  lap := Journal.onWorld shell.lap

/-- Reading a file changes nothing. -/
def Steady (shell : Shell (StateM W)) : Prop := ∀ path w, (shell.files.read path w).2 = w

def contents (shell : Shell (StateM W)) (w : W) (path : Path) : Except FileError ByteArray :=
  (shell.files.read path w).1

end Shell

def Platform.recorded (platform : Platform σ) : Platform (Recorded σ) where
  isCompiled := platform.isCompiled
  isAvailable := platform.isAvailable
  openDevice r :=
    let (answer, memory) := platform.openDevice r
    (answer.map Adapter.recorded, ⟨memory, []⟩)

def Files.frozen (contents : Path → Except FileError ByteArray) : Files Id where
  read := contents
  write _ _ := .error .notFound
  createDirectory _ := .error .notFound
  isDirectory _ := false

section

variable {β : Type} {shell : Shell (StateM W)} {w : W} {j : Journal W} {writes : List FileWrite}

def Sees (action : StateM (Journal W) α) (j : Journal W) (a : α) : Prop := action j = (a, j)

theorem bind_of_ran {action : StateM (Journal W) α} {next : α → StateM (Journal W) β} {a : α} {j' : Journal W}
    (ran : action j = (a, j')) : (action >>= next) j = next a j' := by
  have step : (action >>= next) j = next (action j).1 (action j).2 := rfl
  rw [step, ran]

theorem Sees.bind {action : StateM (Journal W) α} {next : α → StateM (Journal W) β} {a : Id α} {b : α → Id β}
    (first : Sees action j a) (later : ∀ a, Sees (next a) j (b a)) : Sees (action >>= next) j (a >>= b) :=
  (bind_of_ran first).trans (later a)

theorem sees_read (steady : shell.Steady) (path : Path) :
    Sees (shell.recorded.files.read path) ⟨w, writes⟩ ((Files.frozen (shell.contents w)).read path) :=
  congrArg (fun world => (shell.contents w path, Journal.mk world writes)) (steady path w)

theorem sees_readText (steady : shell.Steady) (path : Path) :
    Sees (shell.recorded.files.readText path) ⟨w, writes⟩
      ((Files.frozen (shell.contents w)).readText path) := by
  refine (sees_read steady path).bind fun answer => ?_
  cases answer with
  | error e => rfl
  | ok bytes =>
    dsimp only
    cases String.fromUTF8? bytes <;> rfl

theorem sees_load (steady : shell.Steady) (format : Pipeline.Format) (path : Path) :
    Sees (PipelineFile.load format shell.recorded.files path) ⟨w, writes⟩
      (PipelineFile.load format (Files.frozen (shell.contents w)) path) := by
  refine (sees_readText steady path).bind fun answer => ?_
  cases answer with
  | error e => rfl
  | ok text =>
    dsimp only
    cases Pipeline.parse format text <;> rfl

theorem sees_floats (steady : shell.Steady) (path : Path) (count : Nat) :
    Sees (RawFloats.load shell.recorded.files path count) ⟨w, writes⟩
      (RawFloats.load (Files.frozen (shell.contents w)) path count) := by
  refine (sees_read steady path).bind fun answer => ?_
  cases answer with
  | error e => rfl
  | ok bytes =>
    dsimp only
    cases RawFloats.read? bytes count <;> rfl

theorem load_eq_ok_iff_read? {files : Files Id} {path : Path} {count : Nat} {data : Array Single} :
    RawFloats.load files path count = .ok data ↔
      ∃ bytes, files.read path = .ok bytes ∧ RawFloats.read? bytes count = some data := by
  unfold RawFloats.load
  cases files.read path with
  | error e =>
    constructor
    · intro loaded
      cases loaded
    · rintro ⟨_, opened, -⟩
      cases opened
  | ok bytes =>
    simp only [bind]
    constructor
    · intro loaded
      cases found : RawFloats.read? bytes count with
      | none =>
        rw [found] at loaded
        cases loaded
      | some data =>
        rw [found] at loaded
        cases loaded
        exact ⟨bytes, rfl, found⟩
    · rintro ⟨_, opened, found⟩
      cases opened
      rw [found]
      rfl

theorem load_eq_ok {files : Files Id} {path : Path} {count : Nat} {data : Array Single} :
    RawFloats.load files path count = .ok data ↔ data.size = count ∧
      ∃ bytes, files.read path = .ok bytes ∧ bytes.size = 4 * count ∧ RawFloats.encode data = bytes := by
  rw [load_eq_ok_iff_read?]
  constructor
  · rintro ⟨bytes, opened, found⟩
    rcases RawFloats.read?_eq_some.mp found with ⟨size, same⟩
    exact ⟨size, bytes, opened, RawFloats.exists_read?_iff.mp ⟨data, found⟩, same⟩
  · rintro ⟨size, bytes, opened, -, same⟩
    exact ⟨bytes, opened, RawFloats.read?_eq_some.mpr ⟨size, same⟩⟩

theorem save_recorded (shell : Shell (StateM W)) (j : Journal W) (path : Path) (data : Array Single) : ∃ answer world,
    RawFloats.save shell.recorded.files path data j =
      (answer.mapError fun e => .during (.write path) (.file e),
        ⟨world, j.writes ++ [⟨path, RawFloats.encode data, answer⟩]⟩) := by
  cases attempt : shell.files.write path (RawFloats.encode data) j.world with
  | mk answer world =>
    have noted : shell.recorded.files.write path (RawFloats.encode data) j =
        (answer, ⟨world, j.writes ++ [⟨path, RawFloats.encode data, answer⟩]⟩) := by
      simp only [Shell.recorded, attempt]
    refine ⟨answer, world, (bind_of_ran noted).trans ?_⟩
    cases answer <;> rfl

theorem Sees.mapM {act : α → StateM (Journal W) β} {answer : α → Id β} (each : ∀ a, Sees (act a) j (answer a))
    (as : List α) : Sees (as.mapM act) j (as.mapM answer) := by
  induction as with
  | nil => rfl
  | cons a as ih =>
    rw [List.mapM_cons, List.mapM_cons]
    exact (each a).bind fun _ => ih.bind fun _ => rfl

theorem sees_sources (steady : shell.Steady) (f : PipelineFile) :
    Sees (f.readSources shell.recorded.files) ⟨w, writes⟩
      (f.readSources (Files.frozen (shell.contents w))) :=
  (Sees.mapM (fun path => (sees_readText steady path).bind fun _ => rfl) _).bind fun _ => rfl

end

end PixelPipeline
