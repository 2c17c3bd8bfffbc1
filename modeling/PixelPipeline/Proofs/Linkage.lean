import PixelPipeline.Proofs.Assembly
import PixelPipeline.Proofs.Scopes

namespace PixelPipeline

open Outcome Text

namespace Text

section

variable {α : Type} {word before after : List α} {mark first : α}

theorem prefix_of_prefix_mark (clean : mark ∉ word) (found : word <+: before ++ mark :: after) : word <+: before := by
  rcases List.prefix_or_prefix_of_prefix found (List.prefix_append before (mark :: after)) with short | ⟨rest, rfl⟩
  · exact short
  · rw [List.prefix_append_right_inj] at found
    cases rest with
    | nil => simp
    | cons c rest =>
      obtain rfl : c = mark := (List.cons_prefix_cons.mp found).1
      simp at clean

theorem infix_append_mark_iff (clean : mark ∉ word) :
    word <:+: before ++ mark :: after ↔ word <:+: before ∨ word <:+: after := by
  constructor
  · intro found
    induction before with
    | nil =>
      rcases List.infix_cons_iff.mp found with start | later
      · have early : word <+: [] := prefix_of_prefix_mark clean start
        exact .inl early.isInfix
      · exact .inr later
    | cons c before ih =>
      rcases List.infix_cons_iff.mp found with start | later
      · have early : word <+: c :: before := prefix_of_prefix_mark clean start
        exact .inl early.isInfix
      · exact (ih later).imp_left fun inside => inside.trans (List.suffix_cons c before).isInfix
  · intro found
    rcases found with early | late
    · exact early.trans (List.prefix_append _ _).isInfix
    · exact late.trans ((List.suffix_cons mark after).trans (List.suffix_append _ _)).isInfix

theorem infix_append_iff_of_notMem (absent : first ∉ before) :
    first :: word <:+: before ++ after ↔ first :: word <:+: after := by
  induction before with
  | nil => rfl
  | cons c before ih =>
    have other : first ≠ c := fun same => absent (same ▸ List.mem_cons_self)
    have later : first ∉ before := fun member => absent (List.mem_cons_of_mem _ member)
    rw [List.cons_append, List.infix_cons_iff, List.cons_prefix_cons, ih later]
    simp [other]

end

theorem infix_intercalate_iff {word gap : List Char} {mark first : Char} {parts : List (List Char)}
    (clean : mark ∉ first :: word) (absent : first ∉ gap) :
    first :: word <:+: (mark :: gap).intercalate parts ↔ ∃ part ∈ parts, first :: word <:+: part := by
  cases parts with
  | nil => simp
  | cons part rest =>
    rw [intercalate_cons]
    induction rest generalizing part with
    | nil => simp
    | cons next rest ih =>
      have split : part ++ (next :: rest).flatMap (mark :: gap ++ ·) =
          part ++ mark :: (gap ++ (next ++ rest.flatMap (mark :: gap ++ ·))) := by simp
      rw [split, infix_append_mark_iff clean, infix_append_iff_of_notMem absent, ih]
      simp

end Text

namespace Environment

theorem letters_linkageMark : linkageMark.toList = 'e' :: "xtern \"C\"".toList := by decide

theorem not_infix_of_notMem {text : List Char} (unquoted : '"' ∉ text) : ¬ linkageMark.toList <:+: text := by
  have quote : '"' ∈ linkageMark.toList := by decide
  exact fun inside => unquoted (inside.subset quote)

theorem contains_phrase_append {phrase : String} (absent : 'e' ∉ phrase.toList) (name : String) :
    contains (phrase ++ name) linkageMark ↔ contains name linkageMark := by
  rw [contains_iff, contains_iff, letters_linkageMark, String.toList_append]
  exact infix_append_iff_of_notMem absent

end Environment

open Environment

namespace Dialect

variable (s : Signature)

theorem notMem_floatType (channels : UInt32) : 'e' ∉ (floatType channels).toList := by
  rw [toList_floatType]
  intro member
  rcases List.mem_append.mp member with letter | digits
  · simp at letter
  · split at digits
    · cases digits
    · cases isDigit_of_mem_toDigits _ digits

theorem contains_pointer {qualifier : String} (absent : 'e' ∉ qualifier.toList) (a : Argument) :
    contains (qualifier ++ floatType a.channels ++ " * " ++ a.name) linkageMark ↔ contains a.name linkageMark := by
  have type := notMem_floatType a.channels
  exact contains_phrase_append (by simp [absent, type]) a.name

theorem contains_arguments : (∃ text ∈ cuda.arguments s, contains text linkageMark) ↔
    ∃ name ∈ s.declared .cuda, contains name linkageMark := by
  have int (name : String) : contains ("const int " ++ name) linkageMark ↔ contains name linkageMark :=
    contains_phrase_append (by decide) name
  have float (name : String) : contains ("const float " ++ name) linkageMark ↔ contains name linkageMark :=
    contains_phrase_append (by decide) name
  have input (a : Argument) : contains (cuda.inputQualifier ++ floatType a.channels ++ " * " ++ a.name) linkageMark ↔
      contains a.name linkageMark := contains_pointer (by decide) a
  have output (a : Argument) : contains (cuda.outputQualifier ++ floatType a.channels ++ " * " ++ a.name) linkageMark ↔
      contains a.name linkageMark := contains_pointer (by decide) a
  have width : contains "const int width" linkageMark = false := by decide
  have height : contains "const int height" linkageMark = false := by decide
  simp [arguments, Signature.declared, or_and_right, exists_or, width, height]
  simp only [input, output, int, float]

theorem infix_prologue_append (rest : List Char) : linkageMark.toList <:+: (cuda.prologue s).toList ++ rest ↔
    contains s.kernel linkageMark ∨ (∃ name ∈ s.declared .cuda, contains name linkageMark) ∨
      linkageMark.toList <:+: rest := by
  have apart (c : Char) (other : c ∉ linkageMark.toList) {before after : List Char} :
      linkageMark.toList <:+: before ++ c :: after ↔ linkageMark.toList <:+: before ∨ linkageMark.toList <:+: after :=
    infix_append_mark_iff other
  obtain ⟨body, ended, unquoted⟩ : ∃ body, cuda.preamble.toList = body ++ ['\n'] ∧ '"' ∉ body := by
    refine ⟨cuda.preamble.toList.dropLast, ?_⟩
    delta preamble cuda
    simp only [String.toList_append, String.reduceToList]
    decide +kernel
  have list : linkageMark.toList <:+: ((separator s.kernel).intercalate (cuda.arguments s)).toList ↔
      ∃ name ∈ s.declared .cuda, contains name linkageMark := by
    rw [← contains_arguments, String.toList_intercalate, toList_separator, letters_linkageMark]
    rw [infix_intercalate_iff (by decide) (by simp)]
    simp [contains_iff, letters_linkageMark]
  have text : (cuda.prologue s).toList ++ rest = "__global__ void".toList ++ '\n' :: (s.kernel.toList ++
      '(' :: (((separator s.kernel).intercalate (cuda.arguments s)).toList ++
        ')' :: ("\n\x7b".toList ++ '\n' :: (body ++ '\n' :: rest)))) := by
    have word : cuda.entry = "__global__ void" := rfl
    simp [prologue, ended, word]
  have kernel : linkageMark.toList <:+: s.kernel.toList ↔ contains s.kernel linkageMark := contains_iff.symm
  have entry : ¬ linkageMark.toList <:+: "__global__ void".toList := not_infix_of_notMem (by decide)
  have brace : ¬ linkageMark.toList <:+: "\n\x7b".toList := not_infix_of_notMem (by decide)
  rw [text, apart '\n' (by decide), apart '(' (by decide), apart ')' (by decide), apart '\n' (by decide),
    apart '\n' (by decide), list, kernel]
  simp only [entry, brace, not_infix_of_notMem unquoted, false_or]

end Dialect

theorem Scaffold.infix_closeLine_append (fragment : String) :
    linkageMark.toList <:+: (closeLine fragment).toList ++ "\x7d".toList ↔ contains fragment linkageMark := by
  have alone : ¬ linkageMark.toList <:+: "\x7d".toList := not_infix_of_notMem (by decide)
  have empty : ¬ linkageMark.toList <:+: [] := not_infix_of_notMem List.not_mem_nil
  unfold closeLine
  split
  · rw [show "\x7d".toList = '\x7d' :: [] from rfl, infix_append_mark_iff (by decide), contains_iff]
    simp only [empty, or_false]
  · rw [String.toList_append, List.append_assoc, show "\n".toList ++ "\x7d".toList = '\n' :: "\x7d".toList from rfl,
      infix_append_mark_iff (by decide), contains_iff]
    simp only [alone, or_false]

/-- What the author of a kernel writes. -/
def Kernel.texts (k : Kernel) : List String := k.name :: k.source :: k.declared .cuda

def Kernel.Mentions (k : Kernel) (word : String) : Prop := ∃ text ∈ k.texts, contains text word

/-- The words that stand before the first entry point of a unit. -/
def Environment.specifiers (unit : String) : List String := (words unit.toList).takeWhile (· ≠ cuda.entryMark)

namespace Kernel

variable {k : Kernel} {r : Registry} {s : Scaffold}

theorem contains_wrap_iff (made : Scaffold.ofKernel k r .cuda = .ok s) :
    contains (s.wrap k.source) linkageMark ↔ k.Mentions linkageMark := by
  obtain ⟨signature, signed, same⟩ := bind_eq_ok.mp made
  cases same
  have name : signature.kernel = k.name := by
    obtain ⟨_, _, -, -, rfl⟩ := Signature.ofKernel_eq_ok.mp signed
    rfl
  have text : (Scaffold.ofSignature signature .cuda).prologue = Dialect.cuda.prologue signature := rfl
  have closing : (Scaffold.ofSignature signature .cuda).epilogue = "\x7d" := rfl
  rw [contains_iff, Scaffold.toList_wrap, text, closing, Dialect.infix_prologue_append,
    Scaffold.infix_closeLine_append, name, declared_signature signed, Mentions, texts]
  simp only [List.exists_mem_cons_iff]
  exact or_congr_right or_comm

theorem mentions_iff_of_named (named : k.Named) : k.Mentions linkageMark ↔ contains k.source linkageMark := by
  have unmarked {name : String} (identifier : isIdentifier name) : ¬ contains name linkageMark := by
    rw [contains_iff]
    exact not_infix_of_notMem (notMem_of_isIdentifier identifier rfl)
  constructor
  · rintro ⟨text, written, found⟩
    rcases List.mem_cons.mp written with rfl | written
    · cases unmarked named.name found
    · rcases List.mem_cons.mp written with rfl | argument
      · exact found
      · rw [declared, List.mem_append, ← List.map_append] at argument
        rcases argument with bound | set
        · obtain ⟨b, listed, rfl⟩ := List.mem_map.mp bound
          cases unmarked (named.bindings b listed) found
        · obtain ⟨q, listed, rfl⟩ := List.mem_map.mp set
          cases unmarked (named.parameters q (ParameterSet.mem_signatureOrder listed)) found
  · intro found
    exact ⟨k.source, by simp [texts], found⟩

theorem wrap_opens (made : Scaffold.ofKernel k r .cuda = .ok s) (fragment : String) :
    ∃ rest, (s.wrap fragment).toList = "__global__".toList ++ ' ' :: rest := by
  obtain ⟨signature, -, same⟩ := bind_eq_ok.mp made
  cases same
  have entry : Dialect.cuda.entry = "__global__" ++ " " ++ "void" := by decide
  have text : (Scaffold.ofSignature signature .cuda).prologue = Dialect.cuda.prologue signature := rfl
  have space : " ".toList = [' '] := by decide
  rw [Scaffold.toList_wrap, text, Dialect.prologue, entry]
  simp only [String.toList_append, List.append_assoc, space, List.singleton_append]
  exact ⟨_, rfl⟩

theorem specifiers_wrap (made : Scaffold.ofKernel k r .cuda = .ok s) (fragment : String) :
    specifiers (s.wrap fragment) = [] := by
  obtain ⟨rest, text⟩ := wrap_opens made fragment
  have entry : words "__global__".toList = ["__global__"] := by decide +kernel
  rw [specifiers, text, words_append_blank _ rfl, entry, List.singleton_append, List.takeWhile_cons_of_neg (by decide)]

theorem specifiers_linked (made : Scaffold.ofKernel k r .cuda = .ok s) (fragment : String) :
    specifiers ("extern \"C\" \x7b\n" ++ s.wrap fragment ++ "\n\x7d\n") = ["extern", "\"C\"", "\x7b"] := by
  obtain ⟨rest, text⟩ := wrap_opens made fragment
  have opened : ("extern \"C\" \x7b\n" ++ s.wrap fragment ++ "\n\x7d\n").toList =
      "extern \"C\" \x7b".toList ++ '\n' :: ("__global__".toList ++ ' ' :: (rest ++ "\n\x7d\n".toList)) := by
    simp [text]
  rw [specifiers, opened, words_append_blank _ rfl, words_append_blank _ rfl]
  rfl

theorem wrap_ne_linked (made : Scaffold.ofKernel k r .cuda = .ok s) (fragment : String) :
    s.wrap fragment ≠ "extern \"C\" \x7b\n" ++ s.wrap fragment ++ "\n\x7d\n" := by
  intro same
  have alone := specifiers_wrap made fragment
  rw [same, specifiers_linked made fragment] at alone
  cases alone

theorem assemble_cuda (made : Scaffold.ofKernel k r .cuda = .ok s) (fragment : ¬ cuda.isCompleteUnit k.source) :
    k.assemble r .cuda = .ok (withLinkage (s.wrap k.source)) := by
  rw [assemble, if_neg fragment, made]
  rfl

/-- A unit that is assembled from a fragment has C linkage, and so keeps the name of its entry point, just if nothing
that the author wrote speaks of it. If the names are identifiers, that is the fragment. -/
theorem assemble_fragment_linkage (made : Scaffold.ofKernel k r .cuda = .ok s)
    (fragment : ¬ contains k.source "__global__") :
    let linked := "extern \"C\" \x7b\n" ++ s.wrap k.source ++ "\n\x7d\n"
    ∃ unit, k.assemble r .cuda = .ok unit ∧
      (unit = linked ↔ ¬ k.Mentions "extern \"C\"") ∧
      (k.Mentions "extern \"C\"" → unit = s.wrap k.source) ∧
      (specifiers unit = ["extern", "\"C\"", "\x7b"] ↔ ¬ k.Mentions "extern \"C\"") ∧
      (k.Named → (k.Mentions "extern \"C\"" ↔ contains k.source "extern \"C\"")) := by
  intro linked
  have assembled := assemble_cuda made fragment
  have different : s.wrap k.source ≠ linked := wrap_ne_linked made k.source
  have alone := specifiers_wrap made k.source
  have inside : specifiers linked = ["extern", "\"C\"", "\x7b"] := specifiers_linked made k.source
  refine ⟨_, assembled, ?_⟩
  have searched : contains (s.wrap k.source) linkageMark ↔ k.Mentions "extern \"C\"" := contains_wrap_iff made
  rw [withLinkage]
  split
  · have written := searched.mp ‹_›
    exact ⟨by simp [different, written], fun _ => rfl, by simp [alone, written], mentions_iff_of_named⟩
  · have unwritten := mt searched.mpr ‹_›
    have same : linkageMark ++ " \x7b\n" ++ s.wrap k.source ++ "\n\x7d\n" = linked := rfl
    rw [same]
    exact ⟨by simp [unwritten], fun written => absurd written unwritten, by simp [inside, unwritten],
      mentions_iff_of_named⟩

def dot (fragment : String) : Kernel := ⟨"k", ⟨0⟩, fragment, [], [⟨"B", ⟨⟨0⟩, 0⟩⟩], ∅⟩

theorem assemble_fragment_linkage_dot :
    let k := dot "B[idx] = 1; // extern C"
    let s := Scaffold.ofSignature ⟨"k", [], [⟨"B", 3⟩], [], []⟩ .cuda
    let linked := "extern \"C\" \x7b\n" ++ s.wrap k.source ++ "\n\x7d\n"
    (Scaffold.ofKernel k .colors .cuda = .ok s ∧ ¬ contains k.source "__global__") ∧
      k.assemble .colors .cuda = .ok linked ∧ specifiers linked = ["extern", "\"C\"", "\x7b"] := by
  intro k s linked
  have made : Scaffold.ofKernel k .colors .cuda = .ok s := rfl
  have fragment : ¬ contains k.source "__global__" := by decide
  have named : k.Named := ⟨by decide, by decide, by decide⟩
  obtain ⟨unit, assembled, same, -, inside, written⟩ := assemble_fragment_linkage made fragment
  have unwritten : ¬ k.Mentions "extern \"C\"" := mt (written named).mp (by decide)
  obtain rfl := same.mpr unwritten
  exact ⟨⟨made, fragment⟩, assembled, inside.mpr unwritten⟩

theorem unlinked_dot :
    let k := dot "// extern \"C\"\nB[idx] = 1;"
    (k.Named ∧ ¬ contains k.source "__global__") ∧ ∃ s unit, Scaffold.ofKernel k .colors .cuda = .ok s ∧
      k.assemble .colors .cuda = .ok unit ∧ unit ≠ "extern \"C\" \x7b\n" ++ s.wrap k.source ++ "\n\x7d\n" ∧
      specifiers unit = [] := by
  intro k
  let s := Scaffold.ofSignature ⟨"k", [], [⟨"B", 3⟩], [], []⟩ .cuda
  have named : k.Named := ⟨by decide, by decide, by decide⟩
  have made : Scaffold.ofKernel k .colors .cuda = .ok s := rfl
  have mentioned : contains (s.wrap k.source) linkageMark = true :=
    (contains_wrap_iff made).mpr ((mentions_iff_of_named named).mpr (by decide))
  have assembled := assemble_cuda made (by decide)
  rw [withLinkage, if_pos mentioned] at assembled
  exact ⟨⟨named, by decide⟩, s, s.wrap k.source, made, assembled, wrap_ne_linked made k.source,
    specifiers_wrap made k.source⟩

end Kernel

end PixelPipeline
