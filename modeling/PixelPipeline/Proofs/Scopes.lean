import PixelPipeline.Proofs.Namespace
import PixelPipeline.Proofs.Preamble
import PixelPipeline.Proofs.ZeroBody

namespace PixelPipeline

open Outcome Text

def declared? (words : List String) : Option String :=
  match words.reverse with
  | name :: _ :: _ => if isIdentifier name then some name else none
  | _ => none

def Statement.declares? (line : List Char) : Option String :=
  declared? (words ((line.takeWhile (· ≠ '=')).takeWhile (· ≠ ';')))

def Statement.locals (unit : List Char) : List String :=
  ((inside unit).filter ElementWrite.isCode).filterMap declares?

def Statement.scope? (unit : String) : Option (List String) := do
  let prototype ← Prototype.read unit
  return prototype.formals.map (·.name) ++ locals unit.toList

def Fragment.globals (unit : List Char) : List String := (headings unit).filterMap declared?

namespace Environment

def declarations? : Environment → String → Option (List String)
  | openCL, unit | cuda, unit => Statement.scope? unit
  | glsl, unit => some (Fragment.globals unit.toList)

/-- The names that the generator adds. -/
def reserved : Environment → List String
  | openCL | cuda => ["width", "height", "x", "y", "idx"]
  | glsl => ["x", "dx"]

end Environment

def Signature.declared (s : Signature) : Environment → List String
  | .openCL | .cuda => s.inputs.map (·.name) ++ s.outputs.map (·.name) ++ s.ints ++ s.floats
  | .glsl => s.inputs.map (·.name) ++ s.ints ++ s.floats

def Kernel.declared (k : Kernel) : Environment → List String
  | .openCL | .cuda => k.inputs.map (·.name) ++ k.outputs.map (·.name) ++ k.parameters.signatureOrder.map (·.name)
  | .glsl => k.inputs.map (·.name) ++ k.parameters.signatureOrder.map (·.name)

section

variable {d : Dialect} {s : Signature} {e : Environment}

theorem Dialect.zero_whole (known : d = .openCL ∨ d = .cuda) (channels : UInt32) : '\n' ∉ (d.zero channels).toList := by
  have opening : '\n' ∉ d.zeroOpening.toList ∧ '\n' ∉ d.zeroMiddle.toList := by rcases known with rfl | rfl <;> decide
  have digits : (toString channels).toList = Nat.toDigits 10 channels.toNat := Nat.toList_repr
  have number : '\n' ∉ Nat.toDigits 10 channels.toNat := fun member => by cases isDigit_of_mem_toDigits _ member
  have components : '\n' ∉ (", ".intercalate (List.replicate channels.toNat "0")).toList := by
    rw [String.toList_intercalate]
    intro member
    rcases mem_intercalate member with between | ⟨part, listed, inside⟩
    · simp at between
    · obtain ⟨zero, same, rfl⟩ := List.mem_map.mp listed
      obtain rfl := List.eq_of_mem_replicate same
      simp at inside
  unfold Dialect.zero
  split
  · decide
  · simp only [String.toList_append, List.mem_append, digits, opening, number, components, or_self, false_or]
    decide

namespace Statement

theorem declares?_line {array : String} (named : isIdentifier array) (value : List Char) :
    declares? (ElementWrite.line array "idx" value) = none := by
  have solid := ElementWrite.isNameChar_idx
  have early : '=' ∉ ElementWrite.place array "idx" := ElementWrite.notMem_place named solid rfl (by decide)
  have unclosed : (ElementWrite.place array "idx").takeWhile (· ≠ ';') = ElementWrite.place array "idx" := by
    refine List.takeWhile_eq_self_iff.mpr fun c member => decide_eq_true ?_
    rintro rfl
    exact ElementWrite.notMem_place named solid rfl (by decide) member
  rw [declares?, ElementWrite.line, takeWhile_mark early, unclosed, ElementWrite.words_place named solid]
  rfl

theorem locals_preamble (known : d = .openCL ∨ d = .cuda) : ∃ body, d.preamble.toList = body ++ ['\n'] ∧
    ['\x7b'] ∉ body.splitOn '\n' ∧
    ((body.splitOn '\n').filter ElementWrite.isCode).filterMap declares? = ["x", "y", "idx"] := by
  refine ⟨d.preamble.toList.dropLast, ?_⟩
  rcases known with rfl | rfl
  · delta Dialect.preamble Dialect.openCL
    simp only [String.toList_append, String.reduceToList]
    decide +kernel
  · delta Dialect.preamble Dialect.cuda
    simp only [String.toList_append, String.reduceToList]
    decide +kernel

theorem locals_boilerplate (known : d = .openCL ∨ d = .cuda) (named : s.Named) :
    locals (d.scaffold s).boilerplate.toList = ["x", "y", "idx"] := by
  obtain ⟨body, ended, clean, declares⟩ := locals_preamble known
  obtain ⟨header, opened⟩ := d.prologue_opens s
  let zeros := s.outputs.map fun a => ElementWrite.line a.name "idx" (d.zero a.channels).toList
  have text : (d.scaffold s).boilerplate.toList =
      header ++ '\n' :: '\x7b' :: '\n' :: (body ++ '\n' :: ((d.zeroBody s).toList ++ ['\x7d'])) := by
    simp [Scaffold.boilerplate, Dialect.scaffold, opened, ended]
  have assigned : ∀ a ∈ s.outputs, '\n' ∉ ElementWrite.line a.name "idx" (d.zero a.channels).toList := fun a member =>
    ElementWrite.whole_line (named.outputs a member) ElementWrite.isNameChar_idx (Dialect.zero_whole known a.channels)
  have brace : ['\x7d'].splitOn '\n' = [['\x7d']] := splitOn_of_notMem (by decide)
  have lines : (body ++ '\n' :: ((d.zeroBody s).toList ++ ['\x7d'])).splitOn '\n' =
      body.splitOn '\n' ++ (zeros ++ [['\x7d']]) := by
    rw [splitOn_append, Scaffold.splitOn_zeroBody assigned, brace]
  -- Zero lines are indented, so the line that opens the kernel stays the last of its kind.
  have unopened : ['\x7b'] ∉ body.splitOn '\n' ++ (zeros ++ [['\x7d']]) := by
    simp [clean, zeros, ElementWrite.line, ElementWrite.place]
  have silent : (zeros.filter ElementWrite.isCode).filterMap declares? = [] := by
    refine List.filterMap_eq_nil_iff.mpr fun line member => ?_
    obtain ⟨a, listed, rfl⟩ := List.mem_map.mp (List.mem_filter.mp member).1
    exact declares?_line (named.outputs a listed) _
  have closing : ([['\x7d']].filter ElementWrite.isCode).filterMap declares? = [] := by decide
  rw [locals, text, inside_after_opening header (lines ▸ unopened), lines, List.filter_append, List.filter_append,
    List.filterMap_append, List.filterMap_append, declares, silent, closing]
  rfl

theorem scope_boilerplate (known : d = .openCL ∨ d = .cuda) (named : s.Named) :
    scope? (d.scaffold s).boilerplate = some (s.declared .openCL ++ Environment.openCL.reserved) := by
  have text : (d.scaffold s).boilerplate.toList =
      [] ++ ((d.prologue s).toList ++ ((d.zeroBody s).toList ++ ['\x7d'])) := by
    simp [Scaffold.boilerplate, Dialect.scaffold]
  rw [scope?, Dialect.read_prologue known named [] _ text List.not_mem_nil, locals_boilerplate known named]
  simp [Signature.prototype, Signature.declared, Environment.reserved, Formal.buffer, Formal.int, Formal.float,
    Function.comp_def]

end Statement

theorem Fragment.globals_boilerplate (named : s.Named) :
    globals (Fragment.scaffold s).boilerplate.toList = s.declared .glsl ++ Environment.glsl.reserved := by
  have each (type : String) {names : List String} (identifiers : ∀ name ∈ names, isIdentifier name) :
      (names.map (["uniform", type, ·])).filterMap declared? = names := by
    rw [List.filterMap_map]
    calc names.filterMap (declared? ∘ (["uniform", type, ·]))
        = names.filterMap some := List.filterMap_congr fun name member => if_pos (identifiers name member)
      _ = names := List.filterMap_some
  have version : declared? ["#version", "120"] = none := by decide
  have last : [["varying", "vec2", "x"], ["uniform", "float", "dx"], []].filterMap declared? = ["x", "dx"] := by decide
  have text : (Fragment.scaffold s).boilerplate.toList =
      (prologue s).toList ++ ((zeroBody s).toList ++ ['\x7d']) := by
    simp [Scaffold.boilerplate, Fragment.scaffold]
  rw [globals, text, headings_prologue named, List.filterMap_cons_none version, List.filterMap_append,
    List.filterMap_append, List.filterMap_append, each _ (List.forall_mem_map.mpr named.inputs), each _ named.ints,
    each _ named.floats, last]
  rfl

theorem Scaffold.declarations_boilerplate (named : s.Named) :
    e.declarations? (ofSignature s e).boilerplate = some (s.declared e ++ e.reserved) := by
  cases e with
  | openCL => exact Statement.scope_boilerplate (.inl rfl) named
  | cuda => exact Statement.scope_boilerplate (.inr rfl) named
  | glsl => exact congrArg some (Fragment.globals_boilerplate named)

end

namespace Kernel

variable {k : Kernel} {e : Environment}

theorem declared_signature {r : Registry} {s : Signature} (signed : Signature.ofKernel k r = .ok s) :
    s.declared e = k.declared e := by
  obtain ⟨inputs, outputs, first, second, rfl⟩ := Signature.ofKernel_eq_ok.mp signed
  have order : k.parameters.signatureOrder.map (·.name) =
      k.parameters.ints.map (·.1) ++ k.parameters.floats.map (·.1) := by
    rw [ParameterSet.ints_names, ParameterSet.floats_names, ParameterSet.signatureOrder, List.map_append]
  cases e with
  | openCL | cuda =>
    rw [declared, order, ← Signature.names_of_resolve first, ← Signature.names_of_resolve second]
    exact List.append_assoc ..
  | glsl =>
    rw [declared, order, ← Signature.names_of_resolve first]
    exact List.append_assoc ..

theorem declared_nodup (distinct : k.names.Nodup) : (k.declared e).Nodup := by
  have parameters := k.parameters.signatureOrder_perm.map (·.name)
  have all : (k.declared .openCL).Perm k.names := by
    rw [names, bindings, List.map_append]
    exact parameters.append_left _
  have arguments : (k.declared .openCL).Nodup := all.nodup_iff.mpr distinct
  -- A shader declares a part of what the other kernels declare.
  cases e with
  | openCL | cuda => exact arguments
  | glsl => exact arguments.sublist ((List.sublist_append_left _ _).append (List.Sublist.refl _))

end Kernel

namespace Composition

/-- The boilerplate declares what was agreed to, each name once, and then the names of the generator. So a name is
declared twice just if it is one of both. -/
theorem declared_once_iff {name : String} {owner : Owner} {edits : List KernelEdit} {r : Registry} {e : Environment}
    {s : Scaffold} (named : (after name owner edits).kernel.Named)
    (made : Scaffold.ofKernel (after name owner edits).kernel r e = .ok s) :
    let k := (after name owner edits).kernel
    ∃ names, e.declarations? s.boilerplate = some names ∧ names = k.declared e ++ e.reserved ∧
      (k.declared e).Nodup ∧ (names.Nodup ↔ ∀ n ∈ k.declared e, n ∉ e.reserved) := by
  intro k
  obtain ⟨signature, signed, same⟩ := bind_eq_ok.mp made
  cases same
  have own : (k.declared e).Nodup := Kernel.declared_nodup (sound_after name owner edits).distinct
  have added : e.reserved.Nodup := by cases e <;> decide
  refine ⟨_, Scaffold.declarations_boilerplate (named.signature signed), ?_, own, ?_⟩
  · rw [Kernel.declared_signature signed]
  · rw [Kernel.declared_signature signed, List.nodup_append']
    exact ⟨fun once => fun n member => once.2.2 member, fun apart => ⟨own, added, fun n => apart n⟩⟩

/-- Edits of a kernel whose third argument is used already. -/
def blends : List KernelEdit :=
  [.bindInput "A" ⟨⟨0⟩, 0⟩, .setParameter ⟨"gain", .float .zero⟩, .bindOutput "gain" ⟨⟨0⟩, 1⟩, .bindOutput "B" ⟨⟨0⟩, 1⟩,
    .setParameter ⟨"n", .int 1⟩]

theorem declared_once_iff_blending :
    let k := (after "blend" ⟨0⟩ blends).kernel
    let s := Scaffold.ofSignature ⟨"blend", [⟨"A", 3⟩], [⟨"B", 4⟩], ["n"], ["gain"]⟩ .cuda
    (k.Named ∧ Scaffold.ofKernel k .colors .cuda = .ok s) ∧ ∃ names,
      Environment.cuda.declarations? s.boilerplate = some names ∧
      names = ["A", "B", "n", "gain", "width", "height", "x", "y", "idx"] ∧ names.Nodup := by
  intro k s
  have named : k.Named := ⟨by decide, by decide, by decide⟩
  have made : Scaffold.ofKernel k .colors .cuda = .ok s := rfl
  obtain ⟨names, read, same, -, once⟩ := declared_once_iff named made
  exact ⟨⟨named, made⟩, names, read, same, once.mpr (by decide)⟩

def crowds : List KernelEdit :=
  [.bindOutput "B" ⟨⟨0⟩, 0⟩, .setParameter ⟨"width", .int 1⟩, .setParameter ⟨"x", .float .zero⟩]

theorem declared_twice_crowded :
    let c := after "crowd" ⟨0⟩ crowds
    (c.accepted = crowds ∧ c.kernel.Named) ∧ ∀ e, ∃ s names, Scaffold.ofKernel c.kernel .colors e = .ok s ∧
      e.declarations? s.boilerplate = some names ∧ names.count "x" = 2 ∧
      names.count "width" = if e = .glsl then 1 else 2 := by
  intro c
  have named : c.kernel.Named := ⟨by decide, by decide, by decide⟩
  let signature : Signature := ⟨"crowd", [], [⟨"B", 3⟩], ["width"], ["x"]⟩
  have signed : Signature.ofKernel c.kernel .colors = .ok signature := rfl
  refine ⟨⟨rfl, named⟩, fun e => ⟨.ofSignature signature e, _, rfl,
    Scaffold.declarations_boilerplate (named.signature signed), ?_, ?_⟩⟩
  all_goals cases e <;> decide

end Composition

end PixelPipeline
