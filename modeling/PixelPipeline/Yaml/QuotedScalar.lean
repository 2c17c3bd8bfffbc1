import PixelPipeline.Yaml.Glyph

namespace PixelPipeline.Yaml.QuotedScalar

def simpleEscape? (c : Char) : Option Char :=
  match c with
  | '0' => some '\x00'
  | 'a' => some '\x07'
  | 'b' => some '\x08'
  | 't' | '\t' => some '\t'
  | 'n' => some '\n'
  | 'v' => some '\x0B'
  | 'f' => some '\x0C'
  | 'r' => some '\r'
  | 'e' => some '\x1B'
  | ' ' => some ' '
  | '"' => some '"'
  | '/' => some '/'
  | '\\' => some '\\'
  | 'N' => some '\u0085'
  | '_' => some '\u00A0'
  | 'L' => some lineSeparator
  | 'P' => some paragraphSeparator
  | _ => none

def escapeWidth? (c : Char) : Option Nat :=
  match c with
  | 'x' => some 2
  | 'u' => some 4
  | 'U' => some 8
  | _ => none

def hexDigit? (c : Char) : Option Nat :=
  if c.isDigit then some (c.toNat - '0'.toNat)
  else if 'a' ≤ c && c ≤ 'f' then some (c.toNat - 'a'.toNat + 10)
  else if 'A' ≤ c && c ≤ 'F' then some (c.toNat - 'A'.toNat + 10)
  else none

def hexValue? (digits : List Char) : Option Nat :=
  digits.foldlM (fun n c => (hexDigit? c).map (16 * n + ·)) 0

def numericEscape? (width : Nat) (digits : List Char) : Option Char :=
  if digits.length = width then
    (hexValue? digits).bind fun n => if n.isValidChar then some (Char.ofNat n) else none
  else none

/-- The characters that one escape stands for, and what follows it. A break after the backslash joins two
lines. -/
def escape : (gs : Glyphs) → Except Fault (List Char × { rest : Glyphs // rest.length ≤ gs.length })
  | [] => .error .unclosedQuote
  | g :: rest =>
    if isBreak g.char then
      .ok (folded true (Glyphs.run isSpace rest).1.chars, ⟨Glyphs.skip isSpace rest,
        Nat.le_succ_of_le (Glyphs.length_skip_le isSpace rest)⟩)
    else
      match simpleEscape? g.char, escapeWidth? g.char with
      | some c, _ => .ok ([c], ⟨rest, Nat.le_succ _⟩)
      | none, some width =>
        match numericEscape? width (Glyphs.chars (rest.take width)) with
        | some c => .ok ([c], ⟨rest.drop width, by rw [List.length_drop, List.length_cons]; omega⟩)
        | none => .error .escape
      | none, none => .error .escape

def body (quote : Char) (gs : Glyphs) : Except Fault (List Char × Glyphs) :=
  match gs with
  | [] => .error .unclosedQuote
  | g :: rest =>
    if isSpace g.char then do
      have := Glyphs.length_skip_le isSpace rest
      let (text, after) ← body quote (Glyphs.skip isSpace rest)
      return (folded false (g.char :: (Glyphs.run isSpace rest).1.chars) ++ text, after)
    else if isEnd g.char || Glyphs.atDocumentMark (g :: rest) then .error .unclosedQuote
    else if g.char == quote then
      match quote, rest with
      | '\'', g' :: rest' =>
        if g'.char == '\'' then do
          let (text, after) ← body quote rest'
          return ('\'' :: text, after)
        else .ok ([], rest)
      | _, _ => .ok ([], rest)
    else if quote == '"' && g.char == '\\' then
      match escape rest with
      | .error e => .error e
      | .ok (cs, ⟨rest', _⟩) => do
        let (text, after) ← body quote rest'
        return (cs ++ text, after)
    else do
      let (text, after) ← body quote rest
      return (g.char :: text, after)
termination_by gs.length
decreasing_by all_goals simp_all; try omega

end PixelPipeline.Yaml.QuotedScalar
