import PixelPipeline.Files.Basic

namespace PixelPipeline

abbrev Place : Type := List String

inductive FileNode where
  | directory
  | file (bytes : ByteArray)

structure FileTree where
  working : Place
  nodes : List (Place × FileNode)

namespace FileTree

def node? (t : FileTree) (place : Place) : Option FileNode :=
  if place = [] then some .directory else t.nodes.lookup place

def set (t : FileTree) (place : Place) (node : FileNode) : FileTree :=
  if (t.nodes.lookup place).isSome then
    { t with nodes := t.nodes.map fun (p, old) => (p, if p = place then node else old) }
  else { t with nodes := t.nodes ++ [(place, node)] }

def descend (t : FileTree) : Place → List String → Except FileError Place
  | place, [] => .ok place
  | place, segment :: rest =>
    if segment = "" || segment = "." then t.descend place rest
    else if segment = ".." then t.descend place.dropLast rest
    else
      match t.node? (place ++ [segment]) with
      | some .directory => t.descend (place ++ [segment]) rest
      | some (.file _) => .error .notDirectory
      | none => .error .notFound

inductive Destination where
  | directory (place : Place)
  | entry (place : Place) (slash : Bool)

def destination (t : FileTree) (path : Path) : Except FileError Destination := do
  if path.text.isEmpty then throw .notFound
  if path.text.contains '\x00' then throw .invalidName
  let start := if path.isAbsolute then [] else t.working
  let segments := path.segments.map String.ofList
  let named := (segments.reverse.dropWhile (· = "")).reverse
  match named.getLast? with
  | none => return .directory start
  | some last =>
    if last = "." || last = ".." then return .directory (← t.descend start named)
    else
      let directory ← t.descend start named.dropLast
      return .entry (directory ++ [last]) (named.length < segments.length)

def read (t : FileTree) (path : Path) : Except FileError ByteArray := do
  match ← t.destination path with
  | .directory _ => throw .isDirectory
  | .entry place slash =>
    match t.node? place with
    | none => throw .notFound
    | some .directory => throw .isDirectory
    | some (.file bytes) => if slash then throw .notDirectory else return bytes

def write (t : FileTree) (path : Path) (bytes : ByteArray) : Except FileError FileTree := do
  match ← t.destination path with
  | .directory _ => throw .isDirectory
  | .entry place slash =>
    if slash then throw .isDirectory
    match t.node? place with
    | some .directory => throw .isDirectory
    | _ => return t.set place (.file bytes)

def createDirectory (t : FileTree) (path : Path) : Except FileError FileTree := do
  match ← t.destination path with
  | .directory _ => throw .exists
  | .entry place _ =>
    match t.node? place with
    | some _ => throw .exists
    | none => return t.set place .directory

def isDirectory (t : FileTree) (path : Path) : Bool :=
  match t.destination path with
  | .ok (.directory _) => true
  | .ok (.entry place _) =>
    match t.node? place with
    | some .directory => true
    | _ => false
  | .error _ => false

/-- An edit that leaves the tree as it is when it fails. -/
def attempt (edit : FileTree → Except FileError FileTree) : StateM FileTree (Except FileError Unit) := fun t =>
  match edit t with
  | .ok t => (.ok (), t)
  | .error e => (.error e, t)

def files : Files (StateM FileTree) where
  read path := return (← get).read path
  write path bytes := attempt (·.write path bytes)
  createDirectory path := attempt (·.createDirectory path)
  isDirectory path := return (← get).isDirectory path

end FileTree

end PixelPipeline
