import PixelPipeline.Yaml.BlockScalar
import PixelPipeline.Yaml.PlainScalar
import PixelPipeline.Yaml.Tag

/-!
The tokens of a text. A mapping key is known as one only by the colon after it: its token, and the start
of the mapping, are put before the key when the colon is met.
-/
namespace PixelPipeline.Yaml

/-- What may turn out to be a key: the place among the tokens where it starts and its first glyph. -/
structure PossibleKey where
  place : Nat
  start : Glyph
  required : Bool
  deriving DecidableEq, Repr

structure TokenStream where
  tokens : Array Token := #[]
  /-- The column of the innermost block collection, negative outside of all. -/
  indent : Int := -1
  outerIndents : List Int := []
  keyAllowed : Bool := true
  key : Option PossibleKey := none
  outerKeys : List (Option PossibleKey) := []

namespace TokenStream

def inFlow (s : TokenStream) : Bool := !s.outerKeys.isEmpty

def push (s : TokenStream) (t : Token) : TokenStream := { s with tokens := s.tokens.push t }

def insert (s : TokenStream) (place : Nat) (t : Token) : TokenStream :=
  { s with tokens := s.tokens.insertIdxIfInBounds place t }

/-- A key ends on the line where it starts, and within 1024 characters. -/
def expire (here : Glyph) : Option PossibleKey → Except Fault (Option PossibleKey)
  | none => .ok none
  | some key =>
    if key.start.line < here.line || key.start.index + 1024 < here.index then
      if key.required then .error .missingColon else .ok none
    else .ok (some key)

def expireKeys (s : TokenStream) (g : Glyph) : Except Fault TokenStream := do
  let outerKeys ← s.outerKeys.mapM (expire g)
  let key ← expire g s.key
  return { s with key, outerKeys }

def dropKey (s : TokenStream) : Except Fault TokenStream :=
  match s.key with
  | some key => if key.required then .error .missingColon else .ok { s with key := none }
  | none => .ok s

def startKey (s : TokenStream) (g : Glyph) : Except Fault TokenStream :=
  if s.keyAllowed then do
    let required := !s.inFlow && s.indent == g.column
    return { (← s.dropKey) with key := some ⟨s.tokens.size, g, required⟩ }
  else .ok s

def openBlock (s : TokenStream) (column place : Nat) (t : Token) : TokenStream :=
  if s.inFlow || (column : Int) ≤ s.indent then s
  else { s with indent := column, outerIndents := s.indent :: s.outerIndents }.insert place t

def closeBlocks (s : TokenStream) (column : Int) : TokenStream :=
  if s.inFlow then s else go s.outerIndents s
where
  go : List Int → TokenStream → TokenStream
    | [], s => s
    | outer :: others, s =>
      if column < s.indent then
        go others ({ s with indent := outer, outerIndents := others }.push .blockEnd)
      else s

/-- Skips spaces, comments and line breaks. A line break outside of flow collections allows for a key, and
where one is allowed a tab does not pass for a space. -/
def skipSpace (inFlow comment keyAllowed : Bool) : Glyphs → Bool × Glyphs
  | [] => (keyAllowed, [])
  | g :: rest =>
    if isBreak g.char then skipSpace inFlow false (keyAllowed || !inFlow) rest
    else if comment && !isEnd g.char then skipSpace inFlow true keyAllowed rest
    else if g.char == ' ' || (g.char == '\t' && (inFlow || !keyAllowed)) ||
        (g.index == 0 && g.char == byteOrderMark) then
      skipSpace inFlow false keyAllowed rest
    else if g.char == '#' then skipSpace inFlow true keyAllowed rest
    else (keyAllowed, g :: rest)

def dash (s : TokenStream) (g : Glyph) : Except Fault TokenStream := do
  if !s.inFlow && !s.keyAllowed then throw .misplacedEntry
  let s ← (s.openBlock g.column s.tokens.size .blockSequence).dropKey
  return { s with keyAllowed := true }.push .dash

def explicitKey (s : TokenStream) (g : Glyph) : Except Fault TokenStream := do
  if !s.inFlow && !s.keyAllowed then throw .misplacedKey
  let s ← (s.openBlock g.column s.tokens.size .blockMapping).dropKey
  return { s with keyAllowed := !s.inFlow }.push .key

def value (s : TokenStream) (g : Glyph) : Except Fault TokenStream :=
  match s.key with
  | some key =>
    let s := { s with key := none, keyAllowed := false }.insert key.place .key
    .ok ((s.openBlock key.start.column key.place .blockMapping).push .value)
  | none =>
    if !s.inFlow && !s.keyAllowed then .error .misplacedValue
    else
      let s := s.openBlock g.column s.tokens.size .blockMapping
      .ok ({ s with keyAllowed := !s.inFlow }.push .value)

def openFlow (s : TokenStream) (g : Glyph) (t : Token) : Except Fault TokenStream := do
  let s ← s.startKey g
  return { s with key := none, outerKeys := s.key :: s.outerKeys, keyAllowed := true }.push t

def closeFlow (s : TokenStream) (t : Token) : Except Fault TokenStream := do
  let s ← s.dropKey
  let s := match s.outerKeys with
    | [] => s
    | key :: outerKeys => { s with key, outerKeys }
  return { s with keyAllowed := false }.push t

def comma (s : TokenStream) : Except Fault TokenStream := do
  return { (← s.dropKey) with keyAllowed := true }.push .comma

def leaveBlocks (s : TokenStream) : Except Fault TokenStream := do
  return { (← (s.closeBlocks (-1)).dropKey) with keyAllowed := false }

def readName (gs : Glyphs) : Except Fault (String × Glyphs) :=
  let (name, rest) := gs.run isWordChar
  if !name.isEmpty && (isSpaceOrEnd rest.next || "?:,]\x7d%@`".toList.contains rest.next) then
    .ok (String.ofList name.chars, rest)
  else .error .anchorName

def startNode (s : TokenStream) (g : Glyph) : Except Fault TokenStream := do
  return { (← s.startKey g) with keyAllowed := false }

def quotedScalar (s : TokenStream) (g : Glyph) (rest : Glyphs) : Except Fault (TokenStream × Glyphs) := do
  let s ← s.startNode g
  let (text, rest) ← QuotedScalar.body g.char rest
  return (s.push (.scalar .quoted (String.ofList text)), rest)

def blockScalar (s : TokenStream) (literal : Bool) (rest : Glyphs) : Except Fault (TokenStream × Glyphs) := do
  let s ← s.dropKey
  let (text, rest) ← BlockScalar.read literal s.indent rest
  let style := if literal then .literal else .folded
  return ({ s with keyAllowed := true }.push (.scalar style (String.ofList text)), rest)

def plainScalar (s : TokenStream) (g : Glyph) (rest : Glyphs) : Except Fault (TokenStream × Glyphs) := do
  let s ← s.startNode g
  let found ← PlainScalar.body s.inFlow (s.indent + 1) [] (g :: rest)
  return ({ s with keyAllowed := found.broken }.push (.scalar .plain (String.ofList found.text)), found.rest)

/-- Characters that no plain scalar starts with, save three of them before the right character. -/
def isIndicator (c : Char) : Bool := isFlowIndicator c || "-?:#&*!|>'\"%@`".toList.contains c

/-- A tab that was not skipped starts nothing. -/
def startsPlain (s : TokenStream) (g : Glyph) (rest : Glyphs) : Bool :=
  !(isIndicator g.char || g.char == '\t') || g.char == '-' ||
    (!s.inFlow && (g.char == '?' || g.char == ':') && !isSpaceOrEnd rest.next)

def token (s : TokenStream) (g : Glyph) (rest : Glyphs) : Except Fault (TokenStream × Glyphs) := do
  let separate := s.inFlow || isSpaceOrEnd rest.next
  if g.column == 0 && g.char == '%' then
    let s ← s.leaveBlocks
    let (t, rest) ← Directive.read rest
    return (s.push t, rest)
  if Glyphs.startsDocument '-' (g :: rest) then return ((← s.leaveBlocks).push .documentStart, rest.drop 2)
  if Glyphs.startsDocument '.' (g :: rest) then return ((← s.leaveBlocks).push .documentEnd, rest.drop 2)
  if g.char == '-' && isSpaceOrEnd rest.next then return (← s.dash g, rest)
  if g.char == '?' && separate then return (← s.explicitKey g, rest)
  if g.char == ':' && separate then return (← s.value g, rest)
  match g.char with
  | '[' => return (← s.openFlow g .flowSequence, rest)
  | ']' => return (← s.closeFlow .flowSequenceEnd, rest)
  | '\x7b' => return (← s.openFlow g .flowMapping, rest)
  | '\x7d' => return (← s.closeFlow .flowMappingEnd, rest)
  | ',' => return (← s.comma, rest)
  | '*' =>
    let s ← s.startNode g
    let (name, rest) ← readName rest
    return (s.push (.aliased name), rest)
  | '&' =>
    let s ← s.startNode g
    let (name, rest) ← readName rest
    return (s.push (.anchor name), rest)
  | '!' =>
    let s ← s.startNode g
    let (t, rest) ← Tag.read s.inFlow (g :: rest)
    return (s.push t, rest)
  | '\'' | '"' => s.quotedScalar g rest
  | c =>
    if (c == '|' || c == '>') && !s.inFlow then s.blockScalar (c == '|') rest
    else if s.startsPlain g rest then s.plainScalar g rest
    else throw .strayCharacter

/-- Reads tokens up to the end of the text, each of which takes at least one of `fuel` glyphs. -/
def finish : (fuel : Nat) → TokenStream → Glyphs → Except Fault (List Token)
  | 0, _, _ => .error .strayCharacter
  | fuel + 1, s, gs => do
    let (keyAllowed, gs) := skipSpace s.inFlow false s.keyAllowed gs
    match gs with
    | [] => throw .strayCharacter
    | g :: rest =>
      let s := (← { s with keyAllowed }.expireKeys g).closeBlocks g.column
      if isEnd g.char then return (← s.leaveBlocks).tokens.toList
      let (s, rest) ← s.token g rest
      finish fuel s rest

end TokenStream

namespace Token

def ofText (text : String) : Except Fault (List Token) := do
  let gs ← Glyphs.ofText text
  TokenStream.finish gs.length {} gs

end Token

end PixelPipeline.Yaml
