import PixelPipeline.Proofs.Words
import PixelPipeline.Scaffold.Assembly

namespace PixelPipeline

open Text

inductive Element where
  | int
  | float (width : Nat)
  deriving DecidableEq, Repr

def Element.ofWord? (word : String) : Option Element :=
  if word = "int" then some .int
  else if word = "float" then some (.float 1)
  else if word.toList.take 5 = "float".toList && (word.toList.drop 5).all Char.isDigit then
    some (.float (Nat.ofDigitChars 10 (word.toList.drop 5) 0))
  else none

structure Formal where
  const : Bool
  element : Element
  pointer : Bool
  name : String
  deriving DecidableEq, Repr

namespace Formal

def ofWords? (words : List String) : Option Formal :=
  match words.reverse with
  | name :: second :: rest =>
    if second = "*" then
      match rest with
      | type :: qualifiers => (Element.ofWord? type).map (⟨qualifiers.contains "const", ·, true, name⟩)
      | [] => none
    else (Element.ofWord? second).map (⟨rest.contains "const", ·, false, name⟩)
  | _ => none

def buffer (const : Bool) (a : Argument) : Formal := ⟨const, .float a.channels.toNat, true, a.name⟩

def int (name : String) : Formal := ⟨true, .int, false, name⟩

def float (name : String) : Formal := ⟨true, .float 1, false, name⟩

end Formal

/-- The entry point that a unit declares. -/
structure Prototype where
  kernel : String
  formals : List Formal
  deriving DecidableEq, Repr

def Prototype.read (unit : String) : Option Prototype := do
  let text := unit.toList
  let kernel ← (words (text.takeWhile (· ≠ '('))).getLast?
  let list := ((text.dropWhile (· ≠ '(')).drop 1).takeWhile (· ≠ ')')
  let formals ← ((list.splitOn ',').map words).mapM Formal.ofWords?
  return ⟨kernel, formals⟩

def Fragment.uniform? (line : List Char) : Option (String × String) :=
  match words (line.takeWhile (· ≠ ';')) with
  | [qualifier, type, name] => if qualifier = "uniform" then some (type, name) else none
  | _ => none

def Fragment.uniforms (unit : List Char) : List (String × String) :=
  ((unit.splitOn '\n').takeWhile (· ≠ "void main()".toList)).filterMap uniform?

namespace Signature

structure Named (s : Signature) : Prop where
  kernel : isIdentifier s.kernel
  inputs : ∀ a ∈ s.inputs, isIdentifier a.name
  outputs : ∀ a ∈ s.outputs, isIdentifier a.name
  ints : ∀ name ∈ s.ints, isIdentifier name
  floats : ∀ name ∈ s.floats, isIdentifier name

def prototype (s : Signature) : Prototype where
  kernel := s.kernel
  formals := s.inputs.map (.buffer true) ++ s.outputs.map (.buffer false) ++ s.ints.map .int ++
    s.floats.map .float ++ [.int "width", .int "height"]

def uniforms (s : Signature) : List (String × String) :=
  s.inputs.map (fun a => ("sampler2D", a.name)) ++ s.ints.map ("int", ·) ++ s.floats.map ("float", ·) ++
    [("float", "dx")]

end Signature

theorem toList_floatType (channels : UInt32) : (Dialect.floatType channels).toList =
    "float".toList ++ if channels = 1 then [] else Nat.toDigits 10 channels.toNat := by
  unfold Dialect.floatType
  split
  · rw [List.append_nil]
  · rw [String.toList_append]
    exact congrArg _ Nat.toList_repr

theorem isDigit_of_mem_toDigits {n : Nat} : ∀ c ∈ Nat.toDigits 10 n, c.isDigit = true :=
  fun _ => Nat.isDigit_of_mem_toDigits (by decide) (by decide)

theorem isNameChar_floatType (channels : UInt32) : ∀ c ∈ (Dialect.floatType channels).toList, isNameChar c = true := by
  have word : "float".toList.all isNameChar = true := by decide
  intro c member
  rw [toList_floatType] at member
  rcases List.mem_append.mp member with letter | digits
  · exact List.all_eq_true.mp word c letter
  · split at digits
    · cases digits
    · simp [isNameChar, Char.isAlphanum, isDigit_of_mem_toDigits c digits]

theorem ofWord?_floatType (channels : UInt32) :
    Element.ofWord? (Dialect.floatType channels) = some (.float channels.toNat) := by
  by_cases single : channels = 1
  · subst single
    rfl
  · have text := toList_floatType channels
    rw [if_neg single] at text
    have notInt : Dialect.floatType channels ≠ "int" := by
      intro same
      simp [same] at text
    have notFloat : Dialect.floatType channels ≠ "float" := by
      intro same
      simp [same] at text
    have letters : (Dialect.floatType channels).toList.take 5 = "float".toList := by
      rw [text]
      rfl
    have digits : (Dialect.floatType channels).toList.drop 5 = Nat.toDigits 10 channels.toNat := by
      rw [text]
      rfl
    have all : (Nat.toDigits 10 channels.toNat).all Char.isDigit = true :=
      List.all_eq_true.mpr isDigit_of_mem_toDigits
    simp only [Element.ofWord?, notInt, ↓reduceIte, notFloat, letters, digits, all, decide_true, Bool.and_self,
      Nat.ofDigitChars_ten_toDigits]

section

variable {α β γ : Type} {f : β → Option γ}

theorem mapM_map_eq_some {h : α → β} {g : α → γ} {xs : List α} (each : ∀ x ∈ xs, f (h x) = some (g x)) :
    (xs.map h).mapM f = some (xs.map g) := by
  induction xs with
  | nil => rfl
  | cons x rest ih =>
    rw [List.map_cons, List.mapM_cons, each x List.mem_cons_self,
      ih fun y member => each y (List.mem_cons_of_mem _ member)]
    rfl

theorem mapM_append_eq_some {xs ys : List β} {us vs : List γ} (first : xs.mapM f = some us)
    (last : ys.mapM f = some vs) : (xs ++ ys).mapM f = some (us ++ vs) := by
  rw [List.mapM_append, first, last]
  rfl

end

namespace Dialect

variable {d : Dialect} {s : Signature}

theorem words_phrase {phrase : String} {qualifiers : List String} (known : words phrase.toList = qualifiers)
    (text : List Char) : words ((phrase ++ " ").toList ++ text) = qualifiers ++ words text := by
  rw [String.toList_append, List.append_assoc, ← known]
  exact words_append_blank _ rfl

theorem words_inputQualifier (known : d = openCL ∨ d = cuda) : ∃ qualifiers,
    qualifiers.contains "const" = true ∧
      ∀ text, words (d.inputQualifier.toList ++ text) = qualifiers ++ words text := by
  rcases known with rfl | rfl
  · have spelled : openCL.inputQualifier = "__global const" ++ " " := by decide
    exact ⟨["__global", "const"], by decide, spelled ▸ words_phrase (by decide)⟩
  · have spelled : cuda.inputQualifier = "const" ++ " " := by decide
    exact ⟨["const"], by decide, spelled ▸ words_phrase (by decide)⟩

theorem words_outputQualifier (known : d = openCL ∨ d = cuda) : ∃ qualifiers,
    qualifiers.contains "const" = false ∧
      ∀ text, words (d.outputQualifier.toList ++ text) = qualifiers ++ words text := by
  rcases known with rfl | rfl
  · have spelled : openCL.outputQualifier = "__global" ++ " " := by decide
    exact ⟨["__global"], by decide, spelled ▸ words_phrase (by decide)⟩
  · exact ⟨[], by decide, fun text => rfl⟩

theorem ofWords?_pointer (qualifiers : List String) (a : Argument) :
    Formal.ofWords? (qualifiers ++ [floatType a.channels, "*", a.name]) =
      some (.buffer (qualifiers.contains "const") a) := by
  simp [Formal.ofWords?, ofWord?_floatType, Formal.buffer]

theorem read_pointer {qualifier : String} {qualifiers : List String} {a : Argument} (named : isIdentifier a.name)
    (before : ∀ text, words (qualifier.toList ++ text) = qualifiers ++ words text) :
    Formal.ofWords? (words (qualifier ++ floatType a.channels ++ " * " ++ a.name).toList) =
      some (.buffer (qualifiers.contains "const") a) := by
  have type : words (floatType a.channels).toList = [floatType a.channels] := by
    refine words_of_word (by simp [toList_floatType]) fun c member => ?_
    exact isBlank_of_isNameChar (isNameChar_floatType a.channels c member)
  have all : words (qualifier ++ floatType a.channels ++ " * " ++ a.name).toList =
      qualifiers ++ [floatType a.channels, "*", a.name] := by
    calc words (qualifier ++ floatType a.channels ++ " * " ++ a.name).toList
        = words (qualifier.toList ++ ((floatType a.channels).toList ++ ' ' :: ("*".toList ++ ' ' :: a.name.toList))) := by
          simp
      _ = qualifiers ++ (words (floatType a.channels).toList ++ (words "*".toList ++ words a.name.toList)) := by
          rw [before, words_append_blank _ rfl, words_append_blank _ rfl]
      _ = qualifiers ++ [floatType a.channels, "*", a.name] := by
          have star : words "*".toList = ["*"] := by decide
          rw [type, words_of_isIdentifier named, star]
          rfl
  rw [all, ofWords?_pointer]

theorem read_int {name : String} (named : isIdentifier name) :
    Formal.ofWords? (words ("const int " ++ name).toList) = some (.int name) := by
  have spelled : "const int " = "const int" ++ " " := by decide
  have opening : words "const int".toList = ["const", "int"] := by decide
  rw [spelled, String.toList_append, words_phrase opening, words_of_isIdentifier named]
  simp [Formal.ofWords?, Element.ofWord?, Formal.int]

theorem read_float {name : String} (named : isIdentifier name) :
    Formal.ofWords? (words ("const float " ++ name).toList) = some (.float name) := by
  have spelled : "const float " = "const float" ++ " " := by decide
  have opening : words "const float".toList = ["const", "float"] := by decide
  rw [spelled, String.toList_append, words_phrase opening, words_of_isIdentifier named]
  simp [Formal.ofWords?, Element.ofWord?, Formal.float]

theorem read_arguments (known : d = openCL ∨ d = cuda) (named : s.Named) :
    ((d.arguments s).map fun argument => words argument.toList).mapM Formal.ofWords? = some s.prototype.formals := by
  obtain ⟨inner, const, reads⟩ := words_inputQualifier known
  obtain ⟨outer, free, writes⟩ := words_outputQualifier known
  let read := fun argument : String => Formal.ofWords? (words argument.toList)
  have dimensions : ["const int width", "const int height"].mapM read = some [.int "width", .int "height"] := by
    decide
  have inputs := mapM_map_eq_some (f := read) fun a member => read_pointer (named.inputs a member) reads
  have outputs := mapM_map_eq_some (f := read) fun a member => read_pointer (named.outputs a member) writes
  have ints := mapM_map_eq_some (f := read) fun name member => read_int (named.ints name member)
  have floats := mapM_map_eq_some (f := read) fun name member => read_float (named.floats name member)
  rw [const] at inputs
  rw [free] at outputs
  rw [List.mapM_map]
  exact mapM_append_eq_some (mapM_append_eq_some (mapM_append_eq_some (mapM_append_eq_some inputs outputs) ints)
    floats) dimensions

def isArgumentChar (c : Char) : Bool := isNameChar c || c == ' ' || c == '*'

theorem isArgumentChar_name {name : String} (named : isIdentifier name) :
    name.toList.all isArgumentChar = true :=
  List.all_eq_true.mpr fun c member => by simp [isArgumentChar, isNameChar_of_mem named member]

theorem isArgumentChar_pointer {qualifier : String} {a : Argument} (named : isIdentifier a.name)
    (plain : qualifier.toList.all isArgumentChar = true) :
    (qualifier ++ floatType a.channels ++ " * " ++ a.name).toList.all isArgumentChar = true := by
  have type : (floatType a.channels).toList.all isArgumentChar = true :=
    List.all_eq_true.mpr fun c member => by simp [isArgumentChar, isNameChar_floatType a.channels c member]
  have star : " * ".toList.all isArgumentChar = true := by decide
  simp only [String.toList_append, List.all_append, plain, type, star, isArgumentChar_name named, Bool.and_self]

theorem isArgumentChar_scalar {type name : String} (named : isIdentifier name)
    (plain : type.toList.all isArgumentChar = true) : (type ++ name).toList.all isArgumentChar = true := by
  simp only [String.toList_append, List.all_append, plain, isArgumentChar_name named, Bool.and_self]

theorem isArgumentChar_argument (known : d = openCL ∨ d = cuda) (named : s.Named) :
    ∀ argument ∈ d.arguments s, argument.toList.all isArgumentChar = true := by
  have qualifiers : (d.inputQualifier.toList.all isArgumentChar = true) ∧
      d.outputQualifier.toList.all isArgumentChar = true := by
    rcases known with rfl | rfl <;> decide
  have dimensions : ∀ argument ∈ ["const int width", "const int height"],
      argument.toList.all isArgumentChar = true := by decide
  simp only [arguments, List.forall_mem_append, List.forall_mem_map]
  refine ⟨⟨⟨⟨fun a member => ?_, fun a member => ?_⟩, fun name member => ?_⟩, fun name member => ?_⟩, dimensions⟩
  · exact isArgumentChar_pointer (named.inputs a member) qualifiers.1
  · exact isArgumentChar_pointer (named.outputs a member) qualifiers.2
  · exact isArgumentChar_scalar (named.ints name member) (by decide)
  · exact isArgumentChar_scalar (named.floats name member) (by decide)

theorem isArgumentChar_of_mem (known : d = openCL ∨ d = cuda) (named : s.Named) {argument : String}
    (listed : argument ∈ d.arguments s) {c : Char} (member : c ∈ argument.toList) : isArgumentChar c = true :=
  List.all_eq_true.mp (isArgumentChar_argument known named argument listed) c member

theorem toList_separator (kernel : String) : (separator kernel).toList =
    ',' :: '\n' :: List.replicate (kernel.utf8ByteSize + 1) ' ' := by
  simp [separator]

theorem notMem_argumentList (known : d = openCL ∨ d = cuda) (named : s.Named) :
    ')' ∉ ((separator s.kernel).intercalate (d.arguments s)).toList := by
  intro member
  rw [String.toList_intercalate] at member
  rcases mem_intercalate member with between | ⟨_, listed, inside⟩
  · simp [toList_separator] at between
  · obtain ⟨argument, known', rfl⟩ := List.mem_map.mp listed
    cases isArgumentChar_of_mem known named known' inside

theorem read_argumentList (known : d = openCL ∨ d = cuda) (named : s.Named) :
    ((((separator s.kernel).intercalate (d.arguments s)).toList.splitOn ',').map words).mapM Formal.ofWords? =
      some s.prototype.formals := by
  have clean : ∀ part ∈ (d.arguments s).map String.toList, ',' ∉ part := by
    intro part listed member
    obtain ⟨argument, known', rfl⟩ := List.mem_map.mp listed
    cases isArgumentChar_of_mem known named known' member
  have blank : ∀ c ∈ '\n' :: List.replicate (s.kernel.utf8ByteSize + 1) ' ', isBlank c = true := by
    intro c member
    rcases List.mem_cons.mp member with rfl | member
    · rfl
    · obtain rfl := List.eq_of_mem_replicate member
      rfl
  have some : (d.arguments s).map String.toList ≠ [] := by simp [arguments]
  rw [String.toList_intercalate, toList_separator, words_of_intercalate blank clean (by simp) some, List.map_map]
  exact read_arguments known named

theorem read_prologue (known : d = openCL ∨ d = cuda) (named : s.Named) {unit : String} (before after : List Char)
    (text : unit.toList = before ++ ((d.prologue s).toList ++ after)) (clean : '(' ∉ before) :
    Prototype.read unit = some s.prototype := by
  let header := before ++ d.entry.toList ++ '\n' :: s.kernel.toList
  let list := ((separator s.kernel).intercalate (d.arguments s)).toList
  obtain ⟨rest, split⟩ : ∃ rest, unit.toList = header ++ '(' :: (list ++ ')' :: rest) := by
    refine ⟨("\n\x7b\n" ++ d.preamble).toList ++ after, ?_⟩
    rw [text]
    simp [prologue, header, list]
  -- The first parenthesis is the one after the name: neither the entry nor an identifier has any.
  have entry : '(' ∉ d.entry.toList := by rcases known with rfl | rfl <;> decide
  have early : '(' ∉ header := by
    have name := notMem_of_isIdentifier (c := '(') named.kernel rfl
    simp [header, clean, entry, name]
  have kernel : (words header).getLast? = some s.kernel := by
    rw [words_append_blank _ rfl, words_of_isIdentifier named.kernel, List.getLast?_concat]
  have formals : ((list.splitOn ',').map words).mapM Formal.ofWords? = some s.prototype.formals :=
    read_argumentList known named
  have closed : (list ++ ')' :: rest).takeWhile (· ≠ ')') = list := takeWhile_mark (notMem_argumentList known named)
  simp only [Prototype.read, split, takeWhile_mark early, dropWhile_mark early, List.drop_one, List.tail_cons, closed,
    kernel, formals]
  rfl

end Dialect

theorem Scaffold.toList_wrap (scaffold : Scaffold) (body : String) : (scaffold.wrap body).toList =
    scaffold.prologue.toList ++ ((closeLine body).toList ++ scaffold.epilogue.toList) := by
  simp only [wrap, String.toList_append, List.append_assoc]

theorem Dialect.read_wrap {d : Dialect} {s : Signature} (known : d = .openCL ∨ d = .cuda) (named : s.Named)
    (body : String) : Prototype.read ((d.scaffold s).wrap body) = some s.prototype :=
  read_prologue known named [] _ (Scaffold.toList_wrap (d.scaffold s) body) List.not_mem_nil

theorem Dialect.read_withLinkage {s : Signature} (named : s.Named) (body : String) :
    Prototype.read (Environment.withLinkage ((cuda.scaffold s).wrap body)) = some s.prototype := by
  unfold Environment.withLinkage
  split
  · exact read_wrap (.inr rfl) named body
  · have clean : '(' ∉ (Environment.linkageMark ++ " \x7b\n").toList := by decide
    refine read_prologue (.inr rfl) named (Environment.linkageMark ++ " \x7b\n").toList
      ((Scaffold.closeLine body).toList ++ ((cuda.scaffold s).epilogue.toList ++ "\n\x7d\n".toList)) ?_ clean
    rw [String.toList_append, String.toList_append, Scaffold.toList_wrap]
    simp only [List.append_assoc, scaffold]

theorem Scaffold.read_wrap {e : Environment} {s : Signature} (compute : e = .openCL ∨ e = .cuda) (named : s.Named)
    (body : String) : Prototype.read (e.link ((ofSignature s e).wrap body)) = some s.prototype := by
  rcases compute with rfl | rfl
  · exact Dialect.read_wrap (.inl rfl) named body
  · exact Dialect.read_withLinkage named body

namespace Fragment

def headings (unit : List Char) : List (List String) :=
  ((unit.splitOn '\n').takeWhile (· ≠ "void main()".toList)).map fun line => words (line.takeWhile (· ≠ ';'))

def ofHeading? : List String → Option (String × String)
  | [qualifier, type, name] => if qualifier = "uniform" then some (type, name) else none
  | _ => none

theorem uniforms_eq (unit : List Char) : uniforms unit = (headings unit).filterMap ofHeading? := by
  rw [headings, List.filterMap_map]
  rfl

variable {rest : List Char}

theorem headings_line (line : List Char) (whole : '\n' ∉ line) (other : line ≠ "void main()".toList) :
    headings (line ++ '\n' :: rest) = words (line.takeWhile (· ≠ ';')) :: headings rest := by
  unfold headings
  rw [splitOn_append_mark whole, List.takeWhile_cons_of_pos (p := fun l => decide (l ≠ "void main()".toList))
    (decide_eq_true other)]
  rfl

theorem headings_main : headings ("void main()".toList ++ '\n' :: rest) = [] := by
  unfold headings
  rw [splitOn_append_mark (by decide), List.takeWhile_cons_of_neg (by simp)]
  rfl

theorem headings_text {text : String} (line : String) (heading : List String) (broken : text = line ++ "\n")
    (whole : '\n' ∉ line.toList) (other : line.toList ≠ "void main()".toList)
    (read : words (line.toList.takeWhile (· ≠ ';')) = heading) :
    headings (text.toList ++ rest) = heading :: headings rest := by
  have split : text.toList ++ rest = line.toList ++ '\n' :: rest := by
    rw [broken, String.toList_append, List.append_assoc]
    rfl
  rw [split, headings_line _ whole other, read]

theorem headings_uniform {type name : String} (known : isIdentifier type) (named : isIdentifier name) :
    headings ((uniform type name).toList ++ rest) = ["uniform", type, name] :: headings rest := by
  let declared := "uniform".toList ++ ' ' :: (type.toList ++ ' ' :: name.toList)
  have line : (uniform type name).toList ++ rest = (declared ++ [';']) ++ '\n' :: rest := by
    simp [uniform, declared]
  have unbroken (c : Char) (mark : isNameChar c = false) (space : c ≠ ' ') : c ∉ declared := by
    have first := notMem_of_isIdentifier known mark
    have second := notMem_of_isIdentifier named mark
    have identifier : isIdentifier "uniform" := by decide
    have word : c ∉ "uniform".toList := notMem_of_isIdentifier identifier mark
    simp only [declared, List.mem_append, List.mem_cons, not_or]
    exact ⟨word, space, first, space, second⟩
  have words : words declared = ["uniform", type, name] := by
    rw [words_append_blank _ rfl, words_append_blank _ rfl, words_of_isIdentifier known, words_of_isIdentifier named]
    rfl
  rw [line, headings_line _ (by simp [unbroken '\n' rfl (by decide)]) (by simp [declared]),
    takeWhile_mark (unbroken ';' rfl (by decide)), words]

theorem headings_join (type : String) {names : List String} (known : isIdentifier type)
    (named : ∀ name ∈ names, isIdentifier name) :
    headings ((String.join (names.map (uniform type))).toList ++ rest) =
      names.map (["uniform", type, ·]) ++ headings rest := by
  induction names with
  | nil => simp
  | cons name names ih =>
    obtain ⟨first, later⟩ := List.forall_mem_cons.mp named
    have split : (String.join ((name :: names).map (uniform type))).toList ++ rest =
        (uniform type name).toList ++ ((String.join (names.map (uniform type))).toList ++ rest) := by simp
    rw [split, headings_uniform known first, ih later]
    rfl

theorem headings_prologue {s : Signature} (named : s.Named) :
    headings ((prologue s).toList ++ rest) = ["#version", "120"] ::
      ((s.inputs.map (·.name)).map (["uniform", "sampler2D", ·]) ++ s.ints.map (["uniform", "int", ·]) ++
        s.floats.map (["uniform", "float", ·]) ++ [["varying", "vec2", "x"], ["uniform", "float", "dx"], []]) := by
  have inputs : String.join (s.inputs.map fun a => uniform "sampler2D" a.name) =
      String.join ((s.inputs.map (·.name)).map (uniform "sampler2D")) := by rw [List.map_map]; rfl
  have samplers : ∀ name ∈ s.inputs.map (·.name), isIdentifier name := List.forall_mem_map.mpr named.inputs
  have version (rest : List Char) : headings ("#version 120\n".toList ++ rest) = ["#version", "120"] :: headings rest :=
    headings_text "#version 120" _ (by decide) (by decide) (by decide) (by decide)
  have coordinates (rest : List Char) : headings ("varying vec2 x; // texture coordinates\n".toList ++ rest) =
      ["varying", "vec2", "x"] :: headings rest :=
    headings_text "varying vec2 x; // texture coordinates" _ (by decide) (by decide) (by decide) (by decide)
  have delta (rest : List Char) : headings ("uniform float dx; // delta\n".toList ++ rest) =
      ["uniform", "float", "dx"] :: headings rest :=
    headings_text "uniform float dx; // delta" _ (by decide) (by decide) (by decide) (by decide)
  have blank (rest : List Char) : headings ("\n".toList ++ rest) = [] :: headings rest :=
    headings_text "" _ (by decide) (by decide) (by decide) (by decide)
  have entry (rest : List Char) : headings ("void main()\n\x7b\n".toList ++ rest) = [] := by
    have split : "void main()\n\x7b\n" = "void main()" ++ "\n\x7b\n" := by decide
    rw [split, String.toList_append, List.append_assoc]
    exact headings_main
  unfold prologue
  rw [inputs]
  simp only [String.toList_append, List.append_assoc]
  rw [version, headings_join "sampler2D" (by decide) samplers, headings_join "int" (by decide) named.ints,
    headings_join "float" (by decide) named.floats, coordinates, delta, blank, entry]

end Fragment

theorem Scaffold.uniforms_wrap {s : Signature} (named : s.Named) (body : String) :
    Fragment.uniforms ((Environment.glsl.link ((ofSignature s .glsl).wrap body)).toList) = s.uniforms := by
  have each (type : String) (names : List String) :
      (names.map (["uniform", type, ·])).filterMap Fragment.ofHeading? = names.map (type, ·) := by
    rw [List.filterMap_map]
    exact congrFun List.filterMap_eq_map' names
  have last : [["varying", "vec2", "x"], ["uniform", "float", "dx"], []].filterMap Fragment.ofHeading? =
      [("float", "dx")] := by decide
  change Fragment.uniforms ((Fragment.scaffold s).wrap body).toList = s.uniforms
  rw [toList_wrap, Fragment.scaffold, Fragment.uniforms_eq, Fragment.headings_prologue named,
    List.filterMap_cons_none rfl, List.filterMap_append, List.filterMap_append, List.filterMap_append, each, each, each,
    last, List.map_map]
  rfl

end PixelPipeline
