import PixelPipeline.Yaml.QuotedScalar
import PixelPipeline.Yaml.Token

namespace PixelPipeline.Yaml

namespace Tag

/-- Characters of a tag; the last three only where no collection could claim them. -/
def isTagChar (verbatim : Bool) (c : Char) : Bool :=
  isWordChar c || ";/?:@&=+$.%!~*'()".toList.contains c ||
    (verbatim && (c == ',' || c == '[' || c == ']'))

def following? (octet : Nat) : Option Nat :=
  if octet < 0x80 then some 0
  else if 0xC0 ≤ octet && octet < 0xE0 then some 1
  else if 0xE0 ≤ octet && octet < 0xF0 then some 2
  else if 0xF0 ≤ octet && octet < 0xF8 then some 3
  else none

def octet? (gs : Glyphs) : Option Nat :=
  if gs.next == '%' && 3 ≤ gs.length then QuotedScalar.hexValue? (Glyphs.chars ((gs.drop 1).take 2))
  else none

/-- The characters of a tag, with escaped octets in place of the characters that they encode; `pending`
octets of one character are still to come. -/
def characters (verbatim : Bool) (pending : Nat) (gs : Glyphs) : Except Fault (List Char × Glyphs) :=
  match gs with
  | [] => .ok ([], [])
  | g :: rest =>
    if 0 < pending || g.char == '%' then
      match octet? (g :: rest), pending with
      | none, _ => .error .tag
      | some octet, 0 =>
        match following? octet with
        | none => .error .tag
        | some pending => do
          let (text, after) ← characters verbatim pending (rest.drop 2)
          return (Char.ofNat octet :: text, after)
      | some octet, pending + 1 =>
        if 0x80 ≤ octet && octet < 0xC0 then do
          let (text, after) ← characters verbatim pending (rest.drop 2)
          return (Char.ofNat octet :: text, after)
        else .error .tag
    else if isTagChar verbatim g.char then do
      let (text, after) ← characters verbatim 0 rest
      return (g.char :: text, after)
    else .ok ([], g :: rest)
termination_by gs.length
decreasing_by all_goals simp_wf; try omega

/-- A tag that is not empty, after a handle that turned out to be its beginning. It ends at an escaped
NUL. -/
def readSuffix (verbatim : Bool) (start : List Char) (gs : Glyphs) : Except Fault (String × Glyphs) := do
  let (text, rest) ← characters verbatim 0 gs
  if start.isEmpty && text.isEmpty then throw .tag
  return (String.ofList (start.drop 1 ++ text.takeWhile (!isEnd ·)), rest)

def readHandle (gs : Glyphs) : List Char × Glyphs :=
  let (word, after) := Glyphs.run isWordChar (gs.drop 1)
  if after.next == '!' then ('!' :: (word.chars ++ ['!']), after.drop 1) else ('!' :: word.chars, after)

def isClosed (handle : List Char) : Bool := 2 ≤ handle.length && handle.getLast? == some '!'

def readParts (gs : Glyphs) : Except Fault (String × String × Glyphs) := do
  if gs.ahead 1 == '<' then
    let (suffix, rest) ← readSuffix true [] (gs.drop 2)
    if rest.next != '>' then throw .tag
    return ("", suffix, rest.drop 1)
  let (handle, after) := readHandle gs
  if isClosed handle then
    let (suffix, rest) ← readSuffix false [] after
    return (String.ofList handle, suffix, rest)
  let (suffix, rest) ← readSuffix false handle after
  return if suffix.isEmpty then ("", "!", rest) else ("!", suffix, rest)

def read (inFlow : Bool) (gs : Glyphs) : Except Fault (Token × Glyphs) := do
  let (handle, suffix, rest) ← readParts gs
  if isSpaceOrEnd rest.next || (inFlow && rest.next == ',') then return (.tag handle suffix, rest)
  throw .tag

end Tag

namespace Directive

def readNumber (gs : Glyphs) : Except Fault (Nat × Glyphs) :=
  let (digits, rest) := gs.run Char.isDigit
  if digits.isEmpty || 9 < digits.length then .error .directive
  else .ok (digits.foldl (fun n g => 10 * n + (g.char.toNat - '0'.toNat)) 0, rest)

def readVersion (gs : Glyphs) : Except Fault (Token × Glyphs) := do
  let (major, gs) ← readNumber (gs.skip isBlank)
  if gs.next != '.' then throw .directive
  let (minor, gs) ← readNumber (gs.drop 1)
  return (.versionDirective major minor, gs)

def readTag (gs : Glyphs) : Except Fault (Token × Glyphs) := do
  let gs := gs.skip isBlank
  if gs.next != '!' then throw .directive
  let (handle, gs) := Tag.readHandle gs
  if !(Tag.isClosed handle || handle == ['!']) || !isBlank gs.next then throw .directive
  let (replacement, gs) ← Tag.readSuffix true [] (gs.skip isBlank)
  if !isSpaceOrEnd gs.next then throw .directive
  return (.tagDirective (String.ofList handle) replacement, gs)

def read (gs : Glyphs) : Except Fault (Token × Glyphs) := do
  let (name, gs) := gs.run isWordChar
  if !isSpaceOrEnd gs.next then throw .directive
  let (token, gs) ← match String.ofList name.chars with
    | "YAML" => readVersion gs
    | "TAG" => readTag gs
    | _ => throw .directive
  return (token, ← gs.skipLineRest .directive)

end Directive

end PixelPipeline.Yaml
