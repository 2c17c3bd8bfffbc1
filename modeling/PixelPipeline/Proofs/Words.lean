import Mathlib.Data.List.Basic
import PixelPipeline.Text.Blank

namespace PixelPipeline.Text

def words (text : List Char) : List String :=
  ((text.splitOnP isBlank).filter (· ≠ [])).map String.ofList

def isNameChar (c : Char) : Bool := c.isAlphanum || c == '_'

def isIdentifier (name : String) : Bool :=
  match name.toList with
  | [] => false
  | c :: rest => !c.isDigit && (c :: rest).all isNameChar

theorem isBlank_of_isNameChar {c : Char} (named : isNameChar c = true) : isBlank c = false := by
  have range : 0x30 ≤ c.toNat ∧ c.toNat ≤ 0x7A := by
    delta isNameChar Char.isAlphanum Char.isAlpha Char.isUpper Char.isLower Char.isDigit at named
    simp only [Bool.or_eq_true, Bool.and_eq_true, decide_eq_true_eq, beq_iff_eq, ge_iff_le,
      UInt32.le_iff_toNat_le] at named
    rcases named with ((upper | lower) | digit) | rfl
    · exact ⟨Nat.le_trans (by decide) upper.1, Nat.le_trans upper.2 (by decide)⟩
    · exact ⟨Nat.le_trans (by decide) lower.1, lower.2⟩
    · exact ⟨digit.1, Nat.le_trans digit.2 (by decide)⟩
    · decide
  simp only [isBlank, Bool.or_eq_false_iff, Bool.and_eq_false_iff, decide_eq_false_iff_not, beq_eq_false_iff_ne]
  omega

section

variable {name : String}

theorem isNameChar_of_mem (identifier : isIdentifier name) {c : Char} (member : c ∈ name.toList) :
    isNameChar c = true := by
  unfold isIdentifier at identifier
  split at identifier
  · cases identifier
  · rename_i first rest split
    rw [Bool.and_eq_true, List.all_eq_true] at identifier
    exact identifier.2 c (split ▸ member)

theorem notMem_of_isIdentifier (identifier : isIdentifier name) {c : Char} (mark : isNameChar c = false) :
    c ∉ name.toList := by
  intro member
  rw [isNameChar_of_mem identifier member] at mark
  cases mark

end

section

variable {xs ys : List Char} {c : Char}

theorem words_append_blank (xs : List Char) (blank : isBlank c = true) : words (xs ++ c :: ys) = words xs ++ words ys := by
  simp only [words, List.splitOnP_append_cons xs ys blank, List.filter_append, List.map_append]

theorem words_blank_append (blank : ∀ c ∈ xs, isBlank c = true) : words (xs ++ ys) = words ys := by
  induction xs with
  | nil => rfl
  | cons c rest ih =>
    calc words ([] ++ c :: (rest ++ ys))
        = words (rest ++ ys) := words_append_blank [] (blank c List.mem_cons_self)
      _ = words ys := ih fun d member => blank d (List.mem_cons_of_mem _ member)

theorem words_of_word {word : String} (some : word.toList ≠ []) (solid : ∀ c ∈ word.toList, isBlank c = false) :
    words word.toList = [word] := by
  simp [words, List.splitOnP_eq_singleton solid, some]

theorem words_of_isIdentifier {name : String} (identifier : isIdentifier name) : words name.toList = [name] := by
  refine words_of_word ?_ fun c member => isBlank_of_isNameChar (isNameChar_of_mem identifier member)
  intro none
  simp [isIdentifier, none] at identifier

end

section

variable {α : Type} [DecidableEq α] {mark : α} {before after : List α}

theorem takeWhile_mark (clean : mark ∉ before) : (before ++ mark :: after).takeWhile (· ≠ mark) = before := by
  have all : ∀ c ∈ before, decide (c ≠ mark) = true := by
    intro c member
    simpa using fun same : c = mark => clean (same ▸ member)
  rw [List.takeWhile_append_of_pos all, List.takeWhile_cons_of_neg (by simp), List.append_nil]

theorem dropWhile_mark (clean : mark ∉ before) :
    (before ++ mark :: after).dropWhile (· ≠ mark) = mark :: after := by
  have all : ∀ c ∈ before, decide (c ≠ mark) = true := by
    intro c member
    simpa using fun same : c = mark => clean (same ▸ member)
  rw [List.dropWhile_append_of_pos all, List.dropWhile_cons_of_neg (by simp)]

end

theorem intercalate_cons (mark first : List Char) (rest : List (List Char)) :
    mark.intercalate (first :: rest) = first ++ rest.flatMap (mark ++ ·) := by
  induction rest generalizing first with
  | nil => simp
  | cons next rest ih => rw [List.intercalate_cons_cons, ih, List.flatMap_cons, List.append_assoc, List.append_assoc]

theorem mem_intercalate {c : Char} {mark : List Char} {parts : List (List Char)} (member : c ∈ mark.intercalate parts) :
    c ∈ mark ∨ ∃ part ∈ parts, c ∈ part := by
  cases parts with
  | nil => cases member
  | cons first rest =>
    rw [intercalate_cons, List.mem_append, List.mem_flatMap] at member
    rcases member with here | ⟨part, listed, later⟩
    · exact .inr ⟨first, List.mem_cons_self, here⟩
    · exact (List.mem_append.mp later).imp_right fun inside => ⟨part, List.mem_cons_of_mem _ listed, inside⟩

theorem splitOn_of_notMem {mark : Char} {text : List Char} (clean : mark ∉ text) : text.splitOn mark = [text] :=
  List.splitOnP_eq_singleton fun c member => by
    rw [beq_eq_false_iff_ne]
    rintro rfl
    exact clean member

theorem splitOn_append (mark : Char) (xs ys : List Char) :
    (xs ++ mark :: ys).splitOn mark = xs.splitOn mark ++ ys.splitOn mark :=
  List.splitOnP_append_cons xs ys (beq_self_eq_true mark)

theorem splitOn_append_mark {mark : Char} {text rest : List Char} (clean : mark ∉ text) :
    (text ++ mark :: rest).splitOn mark = text :: rest.splitOn mark := by
  rw [splitOn_append, splitOn_of_notMem clean]
  rfl

theorem words_of_intercalate {mark : Char} {gap : List Char} {parts : List (List Char)}
    (blank : ∀ c ∈ gap, isBlank c = true) (clean : ∀ part ∈ parts, mark ∉ part) (apart : mark ∉ gap)
    (some : parts ≠ []) : (((mark :: gap).intercalate parts).splitOn mark).map words = parts.map words := by
  obtain ⟨first, rest, rfl⟩ := List.exists_cons_of_ne_nil some
  obtain ⟨head, tail⟩ := List.forall_mem_cons.mp clean
  clear clean some
  rw [intercalate_cons, List.map_cons]
  induction rest generalizing first with
  | nil => rw [List.flatMap_nil, List.append_nil, splitOn_of_notMem head, List.map_singleton, List.map_nil]
  | cons next rest ih =>
    obtain ⟨here, later⟩ := List.forall_mem_cons.mp tail
    -- The gap goes to the next part, where it adds no word.
    have onward := ih (gap ++ next) (by simp [apart, here]) later
    rw [words_blank_append blank, List.append_assoc] at onward
    rw [List.flatMap_cons, List.cons_append, List.cons_append, splitOn_append_mark head, List.map_cons,
      List.append_assoc, onward, List.map_cons]

end PixelPipeline.Text
