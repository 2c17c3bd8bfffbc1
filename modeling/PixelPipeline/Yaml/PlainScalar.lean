import PixelPipeline.Yaml.Glyph

namespace PixelPipeline.Yaml.PlainScalar

structure Found where
  text : List Char
  broken : Bool
  rest : Glyphs
  deriving DecidableEq

def hasTabIndent (indent : Int) (spaces : Glyphs) : Bool :=
  (spaces.dropWhile (!isBreak ·.char)).any fun g => g.char == '\t' && (g.column : Int) < indent

def atEnd (inFlow : Bool) (gs : Glyphs) : Bool :=
  isEnd gs.next || (gs.next == ':' && isSpaceOrEnd (gs.ahead 1)) || (inFlow && isFlowIndicator gs.next)

/-- The text after `spaces` that the last character left behind. Outside flow collections the lines are
indented by at least `indent`. -/
def body (inFlow : Bool) (indent : Int) (spaces : List Char) (gs : Glyphs) : Except Fault Found :=
  let found : Found := ⟨[], spaces.any isBreak, gs⟩
  match gs with
  | [] => .ok found
  | g :: rest =>
    if isSpace g.char then
      have := Glyphs.length_skip_le isSpace rest
      let run := g :: (Glyphs.run isSpace rest).1
      let after := Glyphs.skip isSpace rest
      let column := (after.head?.map (·.column)).getD 0
      if hasTabIndent indent run then .error .tab
      else if !inFlow && (column : Int) < indent then .ok ⟨[], run.any (isBreak ·.char), after⟩
      else body inFlow indent (Glyphs.chars run) after
    else if !spaces.isEmpty && (g.char == '#' || Glyphs.atDocumentMark (g :: rest)) then .ok found
    else if inFlow && g.char == ':' && (isFlowIndicator (Glyphs.next rest) || Glyphs.next rest == '?') then
      .error .flowColon
    else if atEnd inFlow (g :: rest) then .ok found
    else do
      let tail ← body inFlow indent [] rest
      return { tail with text := folded false spaces ++ g.char :: tail.text }
termination_by gs.length
decreasing_by all_goals simp_all; try omega

end PixelPipeline.Yaml.PlainScalar
