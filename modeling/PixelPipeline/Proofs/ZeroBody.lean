import PixelPipeline.Device.Texture
import PixelPipeline.Proofs.Convention

namespace PixelPipeline

open Outcome Text

structure ElementWrite where
  array : String
  index : String
  components : List Nat
  deriving DecidableEq, Repr

namespace Environment

def vectorConstructor : Environment → Nat → String
  | openCL, n => "(float" ++ toString n ++ ")"
  | cuda, n => "make_float" ++ toString n
  | glsl, n => "vec" ++ toString n

def number? (text : List Char) : Option Nat :=
  match words text with
  | [word] => if word.toList.all Char.isDigit then some (Nat.ofDigitChars 10 word.toList 0) else none
  | _ => none

def constant? (e : Environment) (text : List Char) : Option (List Nat) :=
  if '(' ∈ text then do
    let list := ((text.reverse.takeWhile (· ≠ '(')).reverse).takeWhile (· ≠ ')')
    let components ← (list.splitOn ',').mapM number?
    if text = (e.vectorConstructor components.length).toList ++ '(' :: list ++ [')'] then some components else none
  else (number? text).map ([·])

end Environment

namespace ElementWrite

def read? (e : Environment) (line : List Char) : Option ElementWrite :=
  match words (line.takeWhile (· ≠ '=')) with
  | [place] => do
    let array := place.toList.takeWhile (· ≠ '[')
    let index := ((place.toList.dropWhile (· ≠ '[')).drop 1).takeWhile (· ≠ ']')
    let value := ((line.dropWhile (· ≠ '=')).drop 1).takeWhile (· ≠ ';')
    let components ← e.constant? (value.dropWhile isBlank)
    if place.toList = array ++ '[' :: index ++ [']'] then
      return ⟨String.ofList array, String.ofList index, components⟩
    else none
  | _ => none

/-- Blank lines and comments are no code. -/
def isCode (line : List Char) : Bool :=
  match words line with
  | [] => false
  | first :: _ => !("//".toList.isPrefixOf first.toList)

def codeLines (text : List Char) : List (List Char) := (text.splitOn '\n').filter isCode

def readAll? (e : Environment) (text : String) : Option (List ElementWrite) :=
  (codeLines text.toList).mapM (read? e)

theorem codeLines_append (xs ys : List Char) : codeLines (xs ++ '\n' :: ys) = codeLines xs ++ codeLines ys := by
  rw [codeLines, splitOn_append, List.filter_append]
  rfl

theorem codeLines_line {line : List Char} (whole : '\n' ∉ line) :
    codeLines line = if isCode line then [line] else [] := by
  rw [codeLines, splitOn_of_notMem whole, List.filter_cons]
  rfl

theorem codeLines_intercalate (parts : List (List Char)) :
    codeLines (['\n'].intercalate parts) = parts.flatMap codeLines := by
  cases parts with
  | nil => decide
  | cons first rest =>
    rw [intercalate_cons]
    induction rest generalizing first with
    | nil => simp
    | cons next rest ih =>
      rw [List.flatMap_cons, List.singleton_append, List.cons_append, codeLines_append, ih]
      simp only [List.flatMap_cons]

def place (array index : String) : List Char := "    ".toList ++ (array ++ "[" ++ index ++ "]").toList ++ [' ']

def line (array index : String) (value : List Char) : List Char := place array index ++ '=' :: (' ' :: value ++ [';'])

/-- A text stands for a constant wherever it is assigned. -/
structure Denotes (e : Environment) (value : List Char) (components : List Nat) : Prop where
  known : e.constant? value = some components
  tight : value.dropWhile isBlank = value
  closed : ';' ∉ value
  whole : '\n' ∉ value

theorem isNameChar_idx : ∀ c ∈ "idx".toList, isNameChar c = true := List.all_eq_true.mp (by decide)

section

variable {array index : String} {value : List Char} {components : List Nat} {e : Environment}
  (named : isIdentifier array) (solid : ∀ c ∈ index.toList, isNameChar c = true)

include named solid

theorem notMem_place {mark : Char} (plain : isNameChar mark = false) (other : mark ∉ "    [] ".toList) :
    mark ∉ place array index := by
  have later : mark ∉ index.toList := fun member => by cases (solid mark member).symm.trans plain
  simp at other
  simp [place, notMem_of_isIdentifier named plain, later, other]

theorem words_place_append (rest : List Char) :
    words (place array index ++ rest) = (array ++ "[" ++ index ++ "]") :: words rest := by
  have whole : words (array ++ "[" ++ index ++ "]").toList = [array ++ "[" ++ index ++ "]"] := by
    refine words_of_word (by simp) fun c member => ?_
    simp only [String.toList_append, List.mem_append] at member
    rcases member with ((letter | mark) | letter) | mark
    · exact isBlank_of_isNameChar (isNameChar_of_mem named letter)
    · obtain rfl := List.mem_singleton.mp mark
      rfl
    · exact isBlank_of_isNameChar (solid c letter)
    · obtain rfl := List.mem_singleton.mp mark
      rfl
  have blank : ∀ c ∈ "    ".toList, isBlank c = true := List.all_eq_true.mp (by decide)
  rw [place, List.append_assoc, List.append_assoc, words_blank_append blank, List.singleton_append,
    words_append_blank _ rfl, whole]
  rfl

theorem words_place : words (place array index) = [array ++ "[" ++ index ++ "]"] := by
  rw [← List.append_nil (place array index), words_place_append named solid]
  rfl

theorem read?_line (denotes : Denotes e value components) :
    read? e (line array index value) = some ⟨array, index, components⟩ := by
  -- The first sign of equality is that of the assignment, since names and indices have none.
  have early : '=' ∉ place array index := notMem_place named solid rfl (by decide)
  have spelled : (array ++ "[" ++ index ++ "]").toList = array.toList ++ '[' :: (index.toList ++ ']' :: []) := by
    simp
  have opened : '[' ∉ array.toList := notMem_of_isIdentifier named rfl
  have closed : ']' ∉ index.toList := fun member => by cases solid _ member
  have inner : (' ' :: value ++ [';']).takeWhile (· ≠ ';') = ' ' :: value :=
    takeWhile_mark (by simp [denotes.closed])
  simp only [read?, line, takeWhile_mark early, dropWhile_mark early, words_place named solid, List.drop_one,
    List.tail_cons, spelled, takeWhile_mark opened, dropWhile_mark opened, takeWhile_mark closed, inner,
    List.dropWhile_cons_of_pos (p := isBlank) (a := ' ') rfl, denotes.tight, denotes.known]
  simp

theorem isCode_line : isCode (line array index value) = true := by
  rw [isCode, line, words_place_append named solid]
  cases letters : array.toList with
  | nil => simp [isIdentifier, letters] at named
  | cons first rest =>
    have other : first ≠ '/' := by
      rintro rfl
      cases isNameChar_of_mem named (letters ▸ List.mem_cons_self)
    simp [letters, List.isPrefixOf, other.symm]

theorem whole_line (whole : '\n' ∉ value) : '\n' ∉ line array index value := by
  have early : '\n' ∉ place array index := notMem_place named solid rfl (by decide)
  simp [line, early, whole]

end

end ElementWrite

namespace Environment

def target : Environment → Nat → String → String × String
  | glsl, position, _ => ("gl_FragData", toString position)
  | openCL, _, name | cuda, _, name => (name, "idx")

def zero : Environment → UInt32 → List Char
  | openCL, channels => (Dialect.openCL.zero channels).toList
  | cuda, channels => (Dialect.cuda.zero channels).toList
  | glsl, _ => "vec4(0,0,0,1)".toList

def zeroComponents : Environment → Nat → List Nat
  | openCL, channels | cuda, channels => List.replicate channels 0
  | glsl, _ => [0, 0, 0, 1]

theorem zero_denotes (e : Environment) {channels : UInt32} (few : 1 ≤ channels.toNat ∧ channels.toNat ≤ 4) :
    ElementWrite.Denotes e (e.zero channels) (e.zeroComponents channels.toNat) := by
  have one : channels = 1 ∨ channels = 2 ∨ channels = 3 ∨ channels = 4 := by
    simp only [← UInt32.toNat_inj, UInt32.reduceToNat]
    omega
  -- Closed facts from here on, one for each language and number of channels.
  rcases one with rfl | rfl | rfl | rfl
  all_goals cases e
  all_goals exact ⟨by decide, by decide, by decide, by decide⟩

theorem target_solid (e : Environment) (position : Nat) {name : String} (named : isIdentifier name) :
    isIdentifier (e.target position name).1 ∧ ∀ c ∈ (e.target position name).2.toList, isNameChar c = true := by
  have attachments : isIdentifier "gl_FragData" := by decide
  cases e with
  | openCL | cuda => exact ⟨named, ElementWrite.isNameChar_idx⟩
  | glsl =>
    refine ⟨attachments, fun c member => ?_⟩
    have digits : (toString position).toList = Nat.toDigits 10 position := Nat.toList_repr
    simp only [target, digits] at member
    simp [isNameChar, Char.isAlphanum, isDigit_of_mem_toDigits c member]

def zeroLine (e : Environment) (position : Nat) (a : Argument) : List Char :=
  ElementWrite.line (e.target position a.name).1 (e.target position a.name).2 (e.zero a.channels)

theorem zeroLine_openCL (position : Nat) (a : Argument) :
    openCL.zeroLine position a = ElementWrite.line a.name "idx" (Dialect.openCL.zero a.channels).toList :=
  rfl

theorem zeroLine_cuda (position : Nat) (a : Argument) :
    cuda.zeroLine position a = ElementWrite.line a.name "idx" (Dialect.cuda.zero a.channels).toList :=
  rfl

section

variable (e : Environment) (position : Nat) {a : Argument} (named : isIdentifier a.name)

include named

theorem isCode_zeroLine : ElementWrite.isCode (e.zeroLine position a) = true :=
  ElementWrite.isCode_line (e.target_solid position named).1 (e.target_solid position named).2

theorem zeroLine_whole (few : 1 ≤ a.channels.toNat ∧ a.channels.toNat ≤ 4) : '\n' ∉ e.zeroLine position a :=
  ElementWrite.whole_line (e.target_solid position named).1 (e.target_solid position named).2 (e.zero_denotes few).whole

theorem read?_zeroLine (few : 1 ≤ a.channels.toNat ∧ a.channels.toNat ≤ 4) :
    ElementWrite.read? e (e.zeroLine position a) =
      some ⟨(e.target position a.name).1, (e.target position a.name).2, e.zeroComponents a.channels.toNat⟩ :=
  ElementWrite.read?_line (e.target_solid position named).1 (e.target_solid position named).2 (e.zero_denotes few)

end

end Environment

namespace Scaffold

open ElementWrite

variable {s : Signature} {e : Environment}

theorem splitOn_zeroBody {d : Dialect} (whole : ∀ a ∈ s.outputs, '\n' ∉ line a.name "idx" (d.zero a.channels).toList)
    (rest : List Char) : ((d.zeroBody s).toList ++ rest).splitOn '\n' =
      (s.outputs.map fun a => line a.name "idx" (d.zero a.channels).toList) ++ rest.splitOn '\n' := by
  rw [Dialect.zeroBody]
  generalize s.outputs = outputs at whole
  induction outputs with
  | nil => rfl
  | cons a others ih =>
    obtain ⟨first, later⟩ := List.forall_mem_cons.mp whole
    -- All but the first line are those of the other outputs, so the text is split once and left to the hypothesis.
    let written (outputs : List Argument) : List Char := (String.join (outputs.map fun a =>
      "    " ++ a.name ++ "[idx] = " ++ d.zero a.channels ++ ";\n")).toList
    have split : written (a :: others) ++ rest =
        line a.name "idx" (d.zero a.channels).toList ++ '\n' :: (written others ++ rest) := by
      simp [written, line, place]
    exact (congrArg (List.splitOn '\n') split).trans
      ((splitOn_append_mark first).trans (congrArg (_ :: ·) (ih later)))

theorem codeLines_dialect {d : Dialect}
    (same : ∀ position a, e.zeroLine position a = line a.name "idx" (d.zero a.channels).toList)
    (named : ∀ a ∈ s.outputs, isIdentifier a.name)
    (few : ∀ a ∈ s.outputs, 1 ≤ a.channels.toNat ∧ a.channels.toNat ≤ 4) :
    codeLines (d.zeroBody s).toList = s.outputs.mapIdx e.zeroLine := by
  have whole : ∀ a ∈ s.outputs, '\n' ∉ line a.name "idx" (d.zero a.channels).toList := fun a member =>
    same 0 a ▸ e.zeroLine_whole 0 (named a member) (few a member)
  have code : ∀ a ∈ s.outputs, isCode (line a.name "idx" (d.zero a.channels).toList) = true := fun a member =>
    same 0 a ▸ e.isCode_zeroLine 0 (named a member)
  have split := splitOn_zeroBody whole []
  rw [List.append_nil] at split
  have placed : e.zeroLine = fun _ a => line a.name "idx" (d.zero a.channels).toList :=
    funext fun position => funext (same position)
  have blank : [[]].filter isCode = [] := by decide
  rw [codeLines, split, List.filter_append, List.filter_eq_self.mpr (List.forall_mem_map.mpr code), placed,
    List.splitOn_nil, blank, List.append_nil]
  refine List.ext_getElem? fun i => ?_
  rw [List.getElem?_mapIdx, List.getElem?_map]

theorem codeLines_output (position : Nat) {a : Argument} (named : isIdentifier a.name)
    (few : 1 ≤ a.channels.toNat ∧ a.channels.toNat ≤ 4) :
    codeLines (Fragment.zeroOutput position a).toList = [Environment.glsl.zeroLine position a] := by
  let comment := "    //".toList ++ ' ' :: ("gl_FragData[".toList ++ (toString position).toList ++
    "] is buffer ".toList ++ a.name.toList)
  have written : Environment.glsl.zeroLine position a =
    line "gl_FragData" (toString position) "vec4(0,0,0,1)".toList := rfl
  have split : (Fragment.zeroOutput position a).toList =
      comment ++ '\n' :: (Environment.glsl.zeroLine position a ++ '\n' :: []) := by
    delta Fragment.zeroOutput
    simp [comment, line, place, written]
  have digits : (toString position).toList = Nat.toDigits 10 position := Nat.toList_repr
  have whole : '\n' ∉ comment := by
    have number : '\n' ∉ Nat.toDigits 10 position := fun member => by cases isDigit_of_mem_toDigits _ member
    simp [comment, number, notMem_of_isIdentifier named (c := '\n') rfl]
  -- The comment above the assignment is no code, whatever the output is named.
  have mark : words "    //".toList = ["//"] := by decide
  have other : isCode comment = false := by
    rw [isCode, words_append_blank _ rfl, mark]
    rfl
  have blank : codeLines [] = [] := by decide
  rw [split, codeLines_append, codeLines_line whole, other, codeLines_append,
    codeLines_line (Environment.glsl.zeroLine_whole position named few),
    if_pos (Environment.glsl.isCode_zeroLine position named), blank]
  rfl

theorem codeLines_zeroBody (named : ∀ a ∈ s.outputs, isIdentifier a.name)
    (few : ∀ a ∈ s.outputs, 1 ≤ a.channels.toNat ∧ a.channels.toNat ≤ 4) :
    codeLines (ofSignature s e).zeroBody.toList = s.outputs.mapIdx e.zeroLine := by
  cases e with
  | openCL => exact codeLines_dialect Environment.zeroLine_openCL named few
  | cuda => exact codeLines_dialect Environment.zeroLine_cuda named few
  | glsl =>
    have mark : "\n".toList = ['\n'] := by decide
    change codeLines (Fragment.zeroBody s).toList = _
    rw [Fragment.zeroBody, String.toList_intercalate, mark, codeLines_intercalate, List.mapIdx_eq_zipIdx_map,
      List.mapIdx_eq_zipIdx_map, List.map_map, List.flatMap_map, List.map_eq_flatMap]
    refine List.flatMap_congr fun entry member => ?_
    have listed := List.fst_mem_of_mem_zipIdx member
    exact codeLines_output entry.2 (named _ listed) (few _ listed)

theorem readAll?_zeroBody (named : ∀ a ∈ s.outputs, isIdentifier a.name)
    (few : ∀ a ∈ s.outputs, 1 ≤ a.channels.toNat ∧ a.channels.toNat ≤ 4) :
    readAll? e (ofSignature s e).zeroBody = some (s.outputs.mapIdx fun i a =>
      ⟨(e.target i a.name).1, (e.target i a.name).2, e.zeroComponents a.channels.toNat⟩) := by
  rw [readAll?, codeLines_zeroBody named few, List.mapIdx_eq_zipIdx_map, List.mapIdx_eq_zipIdx_map]
  refine mapM_map_eq_some fun entry member => ?_
  have listed := List.fst_mem_of_mem_zipIdx member
  exact e.read?_zeroLine entry.2 (named _ listed) (few _ listed)

end Scaffold

/-- What is assigned to an output of some channels, and what of it a download gives back. -/
structure ElementWrite.Zeroes (e : Environment) (position : Nat) (name : String) (channels : Nat) (w : ElementWrite) :
    Prop where
  place : (w.array, w.index) = e.target position name
  length : w.components.length = if e = .glsl then 4 else channels
  zeros : w.components.take channels = List.replicate channels 0 ↔ ¬ (e = .glsl ∧ channels = 4)
  kept : e = .glsl → ∀ pixels, Texture.compact channels (List.replicate pixels w.components).flatten =
    (List.replicate pixels (w.components.take channels)).flatten

theorem Environment.zeroes (e : Environment) (position : Nat) (name : String) {channels : Nat}
    (few : 1 ≤ channels ∧ channels ≤ 4) : ElementWrite.Zeroes e position name channels
      ⟨(e.target position name).1, (e.target position name).2, e.zeroComponents channels⟩ := by
  cases e with
  | openCL | cuda => exact ⟨rfl, by simp [zeroComponents], by simp [zeroComponents], by simp⟩
  | glsl =>
    refine ⟨rfl, rfl, ?_, fun _ pixels => Texture.compact_replicate channels pixels 0 0 0 1⟩
    have one : channels = 1 ∨ channels = 2 ∨ channels = 3 ∨ channels = 4 := by omega
    change [0, 0, 0, 1].take channels = _ ↔ _
    rcases one with rfl | rfl | rfl | rfl <;> decide

namespace Kernel

theorem signature_outputs {k : Kernel} {r : Registry} {s : Signature} (signed : Signature.ofKernel k r = .ok s) :
    List.Forall₂ (fun b a => ∃ buffer, r.get b.buffer = .ok buffer ∧ a = ⟨b.name, buffer.channels⟩)
      k.outputs s.outputs := by
  obtain ⟨inputs, outputs, -, resolved, rfl⟩ := Signature.ofKernel_eq_ok.mp signed
  rw [Signature.resolve_eq_mapM, mapM_eq_ok] at resolved
  refine resolved.imp fun b a made => ?_
  obtain ⟨buffer, held, rfl⟩ := map_eq_ok.mp made
  exact ⟨buffer, held, rfl⟩

/-- The code of the boilerplate assigns to every output once, in the order of the bindings, and to nothing else. What
it assigns begins with a zero for every channel, except in a fragment shader where the fourth is a one. -/
theorem zeroBody_zeroes {k : Kernel} {r : Registry} {e : Environment} {s : Scaffold} (named : k.Named)
    (few : ∀ b ∈ k.outputs, ∀ buffer, r.get b.buffer = .ok buffer →
      1 ≤ buffer.channels.toNat ∧ buffer.channels.toNat ≤ 4)
    (made : Scaffold.ofKernel k r e = .ok s) :
    ∃ writes, ElementWrite.readAll? e s.zeroBody = some writes ∧ writes.length = k.outputs.length ∧
      ∀ (i : Nat) b, k.outputs[i]? = some b → ∃ buffer w, r.get b.buffer = .ok buffer ∧ writes[i]? = some w ∧
        w.Zeroes e i b.name buffer.channels.toNat := by
  obtain ⟨signature, signed, same⟩ := bind_eq_ok.mp made
  cases same
  have related := signature_outputs signed
  have channels : ∀ a ∈ signature.outputs, 1 ≤ a.channels.toNat ∧ a.channels.toNat ≤ 4 := by
    intro a member
    obtain ⟨i, found⟩ := List.mem_iff_getElem?.mp member
    obtain ⟨b, bound, buffer, held, rfl⟩ := Processor.forall₂_getElem? related.flip found
    exact few b (List.mem_of_getElem? bound) buffer held
  refine ⟨_, Scaffold.readAll?_zeroBody (named.signature signed).outputs channels, ?_, fun i b bound => ?_⟩
  · rw [List.length_mapIdx, related.length_eq]
  · obtain ⟨a, found, buffer, held, rfl⟩ := Processor.forall₂_getElem? related bound
    exact ⟨buffer, _, held, by rw [List.getElem?_mapIdx, found]; rfl,
      e.zeroes i b.name (few b (List.mem_of_getElem? bound) buffer held)⟩

end Kernel

def Registry.colors : Registry := ⟨⟨0⟩, 2, 1, [.zeroed "rgb" 2 1 3, .zeroed "rgba" 2 1 4]⟩

def Kernel.paint : Kernel :=
  { Kernel.empty "paint" ⟨0⟩ with outputs := [⟨"A", ⟨⟨0⟩, 0⟩⟩, ⟨"B", ⟨⟨0⟩, 1⟩⟩] }

namespace Kernel

def paintSignature : Signature := ⟨"paint", [], [⟨"A", 3⟩, ⟨"B", 4⟩], [], []⟩

theorem paint_named : paint.Named := ⟨by decide, by decide, by decide⟩

theorem paint_made (e : Environment) :
    Scaffold.ofKernel paint .colors e = .ok (Scaffold.ofSignature paintSignature e) := rfl

theorem paint_few : ∀ b ∈ paint.outputs, ∀ buffer, Registry.colors.get b.buffer = .ok buffer →
    1 ≤ buffer.channels.toNat ∧ buffer.channels.toNat ≤ 4 := by
  have each : ∀ buffer ∈ Registry.colors.buffers, 1 ≤ buffer.channels.toNat ∧ buffer.channels.toNat ≤ 4 := by decide
  intro b _ buffer held
  exact each buffer (List.mem_of_getElem? (Registry.get_eq_ok.mp held).2)

theorem zeroBody_zeroes_paint :
    let s := Scaffold.ofSignature paintSignature .glsl
    (paint.Named ∧ Scaffold.ofKernel paint .colors .glsl = .ok s) ∧
      ∃ writes w, ElementWrite.readAll? .glsl s.zeroBody = some writes ∧ writes.length = 2 ∧ writes[0]? = some w ∧
        w.Zeroes .glsl 0 "A" 3 ∧ w.components.take 3 = [0, 0, 0] := by
  intro s
  obtain ⟨writes, read, length, each⟩ := zeroBody_zeroes paint_named paint_few (paint_made .glsl)
  obtain ⟨buffer, w, held, found, zeroes⟩ := each 0 ⟨"A", ⟨⟨0⟩, 0⟩⟩ rfl
  cases held
  exact ⟨⟨paint_named, paint_made .glsl⟩, writes, w, read, length, found, zeroes, zeroes.zeros.mpr (by decide)⟩

theorem fourth_channel_one :
    let s := Scaffold.ofSignature paintSignature .glsl
    (paint.Named ∧ Scaffold.ofKernel paint .colors .glsl = .ok s) ∧
      ∃ writes w, ElementWrite.readAll? .glsl s.zeroBody = some writes ∧ writes[1]? = some w ∧
        (w.array, w.index) = Environment.glsl.target 1 "B" ∧ w.components.take 4 = [0, 0, 0, 1] ∧
        Texture.compact 4 (List.replicate 2 w.components).flatten = [0, 0, 0, 1, 0, 0, 0, 1] := by
  intro s
  have read := Scaffold.readAll?_zeroBody (s := paintSignature) (e := .glsl) (by decide) (by decide)
  exact ⟨⟨paint_named, paint_made .glsl⟩, _, _, read, rfl, rfl, rfl, rfl⟩

end Kernel

end PixelPipeline
