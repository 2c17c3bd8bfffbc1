namespace PixelPipeline

structure Path where
  text : String
  deriving DecidableEq, Repr

namespace Path

def split : List Char → List (List Char)
  | [] => [[]]
  | '/' :: rest => [] :: split rest
  | c :: rest =>
    match split rest with
    | [] => [[c]]
    | segment :: others => (c :: segment) :: others

def unsplit : List (List Char) → List Char
  | [] => []
  | [segment] => segment
  | segment :: rest => segment ++ '/' :: unsplit rest

theorem split_ne_nil (text : List Char) : split text ≠ [] := by
  cases text with
  | nil => simp [split]
  | cons c rest => unfold split; split <;> (try split) <;> simp_all

def segments (p : Path) : List (List Char) := split p.text.toList

def ofSegments (segments : List (List Char)) : Path := ⟨String.ofList (unsplit segments)⟩

def isAbsolute (p : Path) : Bool := p.text.toList.head? == some '/'

/-- A path read from a directory: one that is absolute stands for itself. -/
def join (base p : Path) : Path :=
  if p.isAbsolute || base.text.isEmpty then p
  else if base.text.toList.getLast? == some '/' then ⟨base.text ++ p.text⟩
  else ⟨base.text ++ "/" ++ p.text⟩

def isIdle (segment : List Char) : Bool := segment.isEmpty || segment == ['.']

def trimEnd (segments : List (List Char)) : List (List Char) :=
  (segments.reverse.dropWhile isIdle).reverse

/-- The path without its last segment. A slash or a dot at the front is kept; the root and the empty path
have no parent. -/
def parent? (p : Path) : Option Path :=
  let (lead, segments) := match p.segments with
    | [] :: rest => if rest.isEmpty then (none, []) else (some [], rest)
    | ['.'] :: rest => (some ['.'], rest)
    | segments => (none, segments)
  match trimEnd segments, lead with
  | [], some ['.'] => some ⟨""⟩
  | [], _ => none
  | named, none => some (ofSegments (trimEnd named.dropLast))
  | named, some lead =>
    match trimEnd named.dropLast with
    | [] => some (if lead.isEmpty then ⟨"/"⟩ else ofSegments [lead])
    | directories => some (ofSegments (lead :: directories))

end Path

end PixelPipeline
