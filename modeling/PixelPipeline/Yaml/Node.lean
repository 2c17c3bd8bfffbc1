import PixelPipeline.Yaml.TokenStream

namespace PixelPipeline.Yaml

structure Label where
  anchor : Option Nat
  tag : Option String
  deriving DecidableEq, Repr

inductive Node where
  | aliased (anchor : Nat)
  | scalar (label : Label) (style : ScalarStyle) (text : String)
  | sequence (label : Label) (items : List Node)
  | mapping (label : Label) (entries : List (Node × Node))
  deriving Repr

namespace Node

mutual

def size : Node → Nat
  | aliased _ | scalar .. => 1
  | sequence _ items => 2 + itemsSize items
  | mapping _ entries => 2 + entriesSize entries

def itemsSize : List Node → Nat
  | [] => 0
  | item :: rest => item.size + itemsSize rest

def entriesSize : List (Node × Node) → Nat
  | [] => 0
  | (key, value) :: rest => key.size + value.size + entriesSize rest

end

def anchor? : Node → Option Nat
  | aliased _ => none
  | scalar label .. | sequence label _ | mapping label _ => label.anchor

mutual

def anchored (before : List (Nat × Node)) (n : Node) : List (Nat × Node) :=
  let before := match n.anchor? with
    | some a => (a, n) :: before
    | none => before
  match n with
  | aliased _ | scalar .. => before
  | sequence _ items => itemsAnchored before items
  | mapping _ entries => entriesAnchored before entries

def itemsAnchored (before : List (Nat × Node)) : List Node → List (Nat × Node)
  | [] => before
  | item :: rest => itemsAnchored (anchored before item) rest

def entriesAnchored (before : List (Nat × Node)) : List (Node × Node) → List (Nat × Node)
  | [] => before
  | (key, value) :: rest => entriesAnchored (anchored (anchored before key) value) rest

end

end Node

structure Cursor where
  tokens : List Token
  anchors : List (String × Nat) := []
  handles : List (String × String) := []

abbrev Parse (α : Type) : Type := StateT Cursor (Except Fault) α

namespace Parse

def next : Parse (Option Token) := do return (← get).tokens.head?

def skip : Parse Unit := modify fun c => { c with tokens := c.tokens.tail }

def accept (t : Token) : Parse Bool := do
  if (← next) = some t then
    skip
    return true
  return false

def expect (t : Token) : Parse Unit := do
  if !(← accept t) then throw .unexpectedToken

def isNext (ts : List Token) : Parse Bool := do
  match ← next with
  | some t => return ts.contains t
  | none => return false

/-- Gives an anchor the number of names known so far. A name that is defined again gets a new number but is
counted once. -/
def define (name : String) : Parse Nat := do
  let c ← get
  let number := c.anchors.length
  set { c with anchors := (name, number) :: c.anchors.filter (·.1 != name) }
  return number

def anchorNamed (name : String) : Parse Nat := do
  match (← get).anchors.lookup name with
  | some number => return number
  | none => throw .unknownAnchor

def readLabel : Parse (Option String × Option (String × String)) := do
  match ← next with
  | some (.anchor name) =>
    skip
    match ← next with
    | some (.tag handle suffix) =>
      skip
      return (some name, some (handle, suffix))
    | _ => return (some name, none)
  | some (.tag handle suffix) =>
    skip
    match ← next with
    | some (.anchor name) =>
      skip
      return (some name, some (handle, suffix))
    | _ => return (none, some (handle, suffix))
  | _ => return (none, none)

def resolveTag (handle suffix : String) : Parse String := do
  if handle.isEmpty then return suffix
  match (← get).handles.lookup handle with
  | some replacement => return replacement ++ suffix
  | none => throw .undefinedHandle

def emptyNode : Node := .scalar ⟨none, none⟩ .plain ""

def orEmpty (stops : List Token) (read : Parse Node) : Parse Node := do
  if ← isNext stops then return emptyNode else read

def bare (anchor tag : Option String) : Parse Node := do
  if anchor.isNone && tag.isNone then throw .unexpectedToken
  return .scalar ⟨← anchor.mapM define, tag⟩ .plain ""

mutual

/-- One node. A block collection can start only where `block` is set, and where `indentless` is set the dashes
of a sequence need no indentation of their own. -/
def node : (fuel : Nat) → (block indentless : Bool) → Parse Node
  | 0, _, _ => throw .unexpectedToken
  | fuel + 1, block, indentless => do
    if let some (.aliased name) ← next then
      skip
      return .aliased (← anchorNamed name)
    let (anchor, tag) ← readLabel
    let tag ← tag.mapM fun (handle, suffix) => resolveTag handle suffix
    match ← next with
    | some .dash =>
      if !indentless then return ← bare anchor tag
      let label := ⟨← anchor.mapM define, tag⟩
      return .sequence label (← indentlessItems fuel)
    | some (.scalar style text) =>
      skip
      let label := ⟨← anchor.mapM define, if tag = some "!" then none else tag⟩
      return .scalar label style text
    | some .flowSequence =>
      skip
      let label := ⟨← anchor.mapM define, tag⟩
      return .sequence label (← flowItems fuel true)
    | some .flowMapping =>
      skip
      let label := ⟨← anchor.mapM define, tag⟩
      return .mapping label (← flowEntries fuel true)
    | some .blockSequence =>
      if !block then return ← bare anchor tag
      skip
      let label := ⟨← anchor.mapM define, tag⟩
      return .sequence label (← blockItems fuel)
    | some .blockMapping =>
      if !block then return ← bare anchor tag
      skip
      let label := ⟨← anchor.mapM define, tag⟩
      return .mapping label (← blockEntries fuel)
    | _ => bare anchor tag

def blockItems : (fuel : Nat) → Parse (List Node)
  | 0 => throw .unexpectedToken
  | fuel + 1 => do
    if ← accept .dash then
      let item ← orEmpty [.dash, .blockEnd] (node fuel true false)
      return item :: (← blockItems fuel)
    expect .blockEnd
    return []

def indentlessItems : (fuel : Nat) → Parse (List Node)
  | 0 => throw .unexpectedToken
  | fuel + 1 => do
    if ← accept .dash then
      let item ← orEmpty [.dash, .key, .value, .blockEnd] (node fuel true false)
      return item :: (← indentlessItems fuel)
    return []

def blockEntries : (fuel : Nat) → Parse (List (Node × Node))
  | 0 => throw .unexpectedToken
  | fuel + 1 => do
    if ← accept .key then
      let key ← orEmpty [.key, .value, .blockEnd] (node fuel true true)
      let value ←
        if ← accept .value then orEmpty [.key, .value, .blockEnd] (node fuel true true) else pure emptyNode
      return (key, value) :: (← blockEntries fuel)
    expect .blockEnd
    return []

/-- The items from the first on, or from the comma before another. An item that starts with a key is a mapping
of one entry. -/
def flowItems : (fuel : Nat) → (first : Bool) → Parse (List Node)
  | 0, _ => throw .unexpectedToken
  | fuel + 1, first => do
    if ← accept .flowSequenceEnd then return []
    if !first then
      expect .comma
      if ← accept .flowSequenceEnd then return []
    if ← accept .key then
      let key ← orEmpty [.value, .comma, .flowSequenceEnd] (node fuel false false)
      let value ←
        if ← accept .value then orEmpty [.comma, .flowSequenceEnd] (node fuel false false) else pure emptyNode
      return .mapping ⟨none, none⟩ [(key, value)] :: (← flowItems fuel false)
    let item ← node fuel false false
    return item :: (← flowItems fuel false)

def flowEntries : (fuel : Nat) → (first : Bool) → Parse (List (Node × Node))
  | 0, _ => throw .unexpectedToken
  | fuel + 1, first => do
    if ← accept .flowMappingEnd then return []
    if !first then
      expect .comma
      if ← accept .flowMappingEnd then return []
    if ← accept .key then
      let key ← orEmpty [.value, .comma, .flowMappingEnd] (node fuel false false)
      let value ←
        if ← accept .value then orEmpty [.comma, .flowMappingEnd] (node fuel false false) else pure emptyNode
      return (key, value) :: (← flowEntries fuel false)
    let key ← node fuel false false
    return (key, emptyNode) :: (← flowEntries fuel false)

end

def standardHandles : List (String × String) := [("!", "!"), ("!!", "tag:yaml.org,2002:")]

def directives : (fuel : Nat) → (version : Bool) → Parse Unit
  | 0, _ => return
  | fuel + 1, version => do
    match ← next with
    | some (.versionDirective major minor) =>
      if version || major != 1 || !(minor == 1 || minor == 2) then throw .directive
      skip
      directives fuel true
    | some (.tagDirective handle replacement) =>
      let c ← get
      if (c.handles.lookup handle).isSome then throw .directive
      set { c with tokens := c.tokens.tail, handles := (handle, replacement) :: c.handles }
      directives fuel version
    | _ => return

def useStandardHandles : Parse Unit := modify fun c => { c with handles := c.handles ++ standardHandles }

def document : Parse Node := do
  let tokens := (← get).tokens
  let fuel := 2 * tokens.length + 2
  let root ← match tokens.head? with
    | none => throw .noDocument
    | some (.versionDirective ..) | some (.tagDirective ..) | some .documentStart =>
      directives tokens.length false
      useStandardHandles
      expect .documentStart
      if (← next).isNone then pure emptyNode
      else orEmpty [.documentStart, .documentEnd] (node fuel true false)
    | some _ =>
      useStandardHandles
      node fuel true false
  let rest := (← get).tokens.dropWhile (· = .documentEnd)
  if !rest.isEmpty then throw .severalDocuments
  return root

end Parse

def Node.ofText (text : String) : Except Fault Node := do
  let tokens ← Token.ofText text
  let (root, _) ← Parse.document.run { tokens }
  return root

end PixelPipeline.Yaml
