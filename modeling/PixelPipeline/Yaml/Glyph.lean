import PixelPipeline.Yaml.Fault

namespace PixelPipeline.Yaml

/-- The end of the text, which no text contains. -/
def endMark : Char := '\x00'

def isEnd (c : Char) : Bool := c == endMark

def lineSeparator : Char := '\u2028'

def paragraphSeparator : Char := '\u2029'

def byteOrderMark : Char := '\uFEFF'

def isBreak (c : Char) : Bool := c == '\n' || c == lineSeparator || c == paragraphSeparator

def isBlank (c : Char) : Bool := c == ' ' || c == '\t'

def isSpace (c : Char) : Bool := isBlank c || isBreak c

def isBreakOrEnd (c : Char) : Bool := isBreak c || isEnd c

def isSpaceOrEnd (c : Char) : Bool := isSpace c || isEnd c

def isWordChar (c : Char) : Bool := c.isAlphanum || c == '_' || c == '-'

def isFlowIndicator (c : Char) : Bool := c == ',' || c == '[' || c == ']' || c == '{' || c == '}'

def isAllowed (c : Char) : Bool :=
  let n := c.toNat
  n == 0x09 || n == 0x0A || n == 0x0D || (0x20 ≤ n && n ≤ 0x7E) || n == 0x85 ||
    (0xA0 ≤ n && n ≤ 0xD7FF) || (0xE000 ≤ n && n ≤ 0xFFFD) || 0x10000 ≤ n

structure Glyph where
  char : Char
  index : Nat
  line : Nat
  column : Nat
  deriving DecidableEq, Repr

abbrev Glyphs : Type := List Glyph

namespace Glyphs

/-- A carriage return with or without a newline and a next line are read as a newline. -/
def place (index line column : Nat) : List Char → Glyphs
  | [] => [⟨endMark, index, line, column⟩]
  | '\r' :: '\n' :: rest => ⟨'\n', index, line, column⟩ :: place (index + 2) (line + 1) 0 rest
  | c :: rest =>
    if c == '\r' || c == '\u0085' then ⟨'\n', index, line, column⟩ :: place (index + 1) (line + 1) 0 rest
    else if isBreak c then ⟨c, index, line, column⟩ :: place (index + 1) (line + 1) 0 rest
    else ⟨c, index, line, column⟩ :: place (index + 1) line (column + 1) rest

def ofText (text : String) : Except Fault Glyphs :=
  if text.toList.all isAllowed then .ok (place 0 0 0 text.toList) else .error .forbiddenCharacter

def ahead (gs : Glyphs) (n : Nat) : Char := ((gs[n]?).map Glyph.char).getD endMark

def next (gs : Glyphs) : Char := gs.ahead 0

def chars (gs : Glyphs) : List Char := gs.map Glyph.char

def run (p : Char → Bool) (gs : Glyphs) : Glyphs × Glyphs := List.span (p ·.char) gs

def skip (p : Char → Bool) (gs : Glyphs) : Glyphs := List.dropWhile (p ·.char) gs

theorem length_skip_le (p : Char → Bool) (gs : Glyphs) : (gs.skip p).length ≤ gs.length :=
  (List.dropWhile_suffix _).length_le

def startsDocument (mark : Char) : Glyphs → Bool
  | a :: b :: c :: rest =>
    a.column == 0 && a.char == mark && b.char == mark && c.char == mark && isSpaceOrEnd (next rest)
  | _ => false

def atDocumentMark (gs : Glyphs) : Bool := gs.startsDocument '-' || gs.startsDocument '.'

def skipLineRest (gs : Glyphs) (fault : Fault) : Except Fault Glyphs :=
  let gs := gs.skip isBlank
  let gs := if gs.next == '#' then gs.skip (!isBreakOrEnd ·) else gs
  if !isBreakOrEnd gs.next then .error fault
  else if isBreak gs.next then .ok (List.drop 1 gs)
  else .ok gs

end Glyphs

/-- The text of a run of spaces and line breaks within a flow or plain scalar. Breaks are folded: one is a
space, and of several the first is dropped. An escaped break before the run is dropped as well. -/
def folded (escaped : Bool) (spaces : List Char) : List Char :=
  match escaped, spaces.filter isBreak with
  | true, breaks => breaks
  | false, [] => spaces
  | false, first :: others =>
    if first == '\n' then if others.isEmpty then [' '] else others
    else first :: others

end PixelPipeline.Yaml
