import PixelPipeline.Yaml.Glyph

namespace PixelPipeline.Yaml.BlockScalar

inductive Chomping where
  | strip
  | clip
  | keep
  deriving DecidableEq, Repr

structure Header where
  chomping : Chomping
  increment : Option Nat
  deriving DecidableEq, Repr

def chomping? (c : Char) : Option Chomping :=
  if c == '+' then some .keep else if c == '-' then some .strip else none

def readIncrement (gs : Glyphs) : Except Fault (Option Nat × Glyphs) :=
  if !gs.next.isDigit then .ok (none, gs)
  else if gs.next == '0' then .error .blockHeader
  else .ok (some (gs.next.toNat - '0'.toNat), gs.drop 1)

def readHeader (gs : Glyphs) : Except Fault (Header × Glyphs) := do
  let (header, gs) ← match chomping? gs.next with
    | some chomping => do
      let (increment, gs) ← readIncrement (gs.drop 1)
      pure (⟨chomping, increment⟩, gs)
    | none => do
      let (increment, gs) ← readIncrement gs
      match increment, chomping? gs.next with
      | some _, some chomping => pure (⟨chomping, increment⟩, gs.drop 1)
      | _, _ => pure (⟨.clip, increment⟩, gs)
  return (header, ← gs.skipLineRest .blockHeader)

structure Margin where
  breaks : List Char
  widest : Nat
  rest : Glyphs

/-- Indentation and empty lines before the next line of text. An `indent` of zero is one that is yet to be
found. -/
def margin (indent widest : Nat) : Glyphs → Except Fault Margin
  | [] => .ok ⟨[], widest, []⟩
  | g :: rest =>
    let widest := max widest g.column
    let inMargin := indent == 0 || g.column < indent
    if inMargin && g.char == ' ' then margin indent widest rest
    else if inMargin && g.char == '\t' then .error .tab
    else if isBreak g.char then do
      let m ← margin indent widest rest
      return { m with breaks := g.char :: m.breaks }
    else .ok ⟨[], widest, g :: rest⟩

theorem length_margin_le {indent widest : Nat} {gs : Glyphs} {m : Margin}
    (h : margin indent widest gs = .ok m) : m.rest.length ≤ gs.length := by
  induction gs generalizing widest m with
  | nil => cases h; exact Nat.le_refl 0
  | cons g rest ih =>
    simp only [margin] at h
    split at h
    · exact Nat.le_succ_of_le (ih h)
    · split at h
      · cases h
      · split at h
        · cases hm : margin indent (max widest g.column) rest with
          | error e => simp only [hm, bind, Except.bind] at h; cases h
          | ok m' =>
            simp only [hm, bind, Except.bind, pure, Except.pure] at h
            cases h
            have tail := ih hm
            exact Nat.le_succ_of_le tail
        · cases h; exact Nat.le_refl _

structure Gap where
  break? : Option Char
  empty : List Char

/-- In a folded scalar, a single break between two lines of text becomes a space, and of several the first
is dropped; lines that start with a blank are left alone. -/
def Gap.text (gap : Gap) (literal blank : Bool) : List Char :=
  if !literal && gap.break? == some '\n' && !blank then
    if gap.empty.isEmpty then [' '] else gap.empty
  else gap.break?.toList ++ gap.empty

structure Body where
  text : List Char
  last : Gap
  rest : Glyphs

/-- The lines of text; `blank` if the line before them starts with a blank. -/
def lines (literal : Bool) (indent : Nat) (gap : Gap) (blank : Bool) (gs : Glyphs) : Except Fault Body :=
  match gs with
  | [] => .ok ⟨[], gap, []⟩
  | g :: rest =>
    if g.column == indent && !isBreakOrEnd g.char then
      let line := g.char :: (Glyphs.run (!isBreakOrEnd ·) rest).1.chars
      let after := Glyphs.skip (!isBreakOrEnd ·) rest
      have : after.length ≤ rest.length := Glyphs.length_skip_le (!isBreakOrEnd ·) rest
      let break? := if isBreak after.next then some after.next else none
      match h : margin indent 0 (after.drop break?.toList.length) with
      | .error e => .error e
      | .ok m =>
        have := length_margin_le h
        do
          let body ← lines literal indent ⟨break?, m.breaks⟩ (isBlank g.char) m.rest
          return { body with text := gap.text literal (blank || isBlank g.char) ++ line ++ body.text }
    else .ok ⟨[], gap, g :: rest⟩
termination_by gs.length
decreasing_by
  simp_all only [List.length_drop, List.length_cons]
  omega

def read (literal : Bool) (enclosing : Int) (gs : Glyphs) : Except Fault (List Char × Glyphs) := do
  let (header, gs) ← readHeader gs
  let given := match header.increment with
    | some n => (max enclosing 0).toNat + n
    | none => 0
  let m ← margin given 0 gs
  let indent := if given = 0 then (max (max (m.widest : Int) (enclosing + 1)) 1).toNat else given
  let body ← lines literal indent ⟨none, m.breaks⟩ false m.rest
  let tail := match header.chomping with
    | .strip => []
    | .clip => body.last.break?.toList
    | .keep => body.last.break?.toList ++ body.last.empty
  return (body.text ++ tail, body.rest)

end PixelPipeline.Yaml.BlockScalar
