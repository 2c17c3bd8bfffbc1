import PixelPipeline.Files.Path

namespace PixelPipeline

inductive FileError where
  | notFound
  | exists
  | notDirectory
  | isDirectory
  | notText
  | invalidName
  | other (text : String)
  deriving DecidableEq, Repr

def FileError.message : FileError → String
  | notFound => "No such file or directory (os error 2)"
  | .exists => "File exists (os error 17)"
  | notDirectory => "Not a directory (os error 20)"
  | isDirectory => "Is a directory (os error 21)"
  | notText => "stream did not contain valid UTF-8"
  | invalidName => "file name contained an unexpected NUL byte"
  | other text => text

structure Files (m : Type → Type) where
  read : Path → m (Except FileError ByteArray)
  write : Path → ByteArray → m (Except FileError Unit)
  createDirectory : Path → m (Except FileError Unit)
  isDirectory : Path → m Bool

namespace Files

def lift {m n : Type → Type} (run : {α : Type} → m α → n α) (files : Files m) : Files n where
  read path := run (files.read path)
  write path bytes := run (files.write path bytes)
  createDirectory path := run (files.createDirectory path)
  isDirectory path := run (files.isDirectory path)

variable {m : Type → Type} [Monad m]

def readText (files : Files m) (path : Path) : m (Except FileError String) := do
  match ← files.read path with
  | .error e => return .error e
  | .ok bytes =>
    match String.fromUTF8? bytes with
    | some text => return .ok text
    | none => return .error .notText

def writeText (files : Files m) (path : Path) (text : String) : m (Except FileError Unit) :=
  files.write path text.toUTF8

def ensureDirectory (files : Files m) (path : Path) : m (Except FileError Unit) := do
  match ← files.createDirectory path with
  | .ok () => return .ok ()
  | .error e => if ← files.isDirectory path then return .ok () else return .error e

/-- The path, its parent and so on, at most `count` of them. The empty path is left out. -/
def ancestors : (count : Nat) → Path → List Path
  | 0, _ => []
  | count + 1, path =>
    if path.text.isEmpty then []
    else path :: (match path.parent? with
      | some parent => ancestors count parent
      | none => [])

/-- Creates missing directories from the innermost that can be created, given a path and its ancestors. -/
def createMissing (files : Files m) : List Path → m (Except FileError Unit)
  | [] => return .ok ()
  | path :: outer => do
    match ← files.createDirectory path with
    | .ok () => return .ok ()
    | .error .notFound =>
      match ← files.createMissing outer with
      | .ok () => files.ensureDirectory path
      | .error e => return .error e
    | .error e => if ← files.isDirectory path then return .ok () else return .error e

def createDirectories (files : Files m) (path : Path) : m (Except FileError Unit) :=
  files.createMissing (ancestors (path.text.length + 1) path)

end Files

end PixelPipeline
