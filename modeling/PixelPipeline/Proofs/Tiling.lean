import Mathlib.Algebra.Ring.Int.Defs
import PixelPipeline.Proofs.Threads

namespace PixelPipeline

namespace Statement

/-- What is true of the exact values of names where the code after a statement is reached. -/
def Holds (value : String → Int) : Statement → Prop
  | .declare name sum => value name = (sum.map fun product => (product.map value).prod).sum
  | .guard bounds => ∀ p ∈ bounds, value p.1 < value p.2

theorem holds_cuda {value : String → Int} : (∀ s ∈ cuda, s.Holds value) ↔
    value "x" = value "blockIdx.x" * value "blockDim.x" + value "threadIdx.x" ∧
      value "y" = value "blockIdx.y" * value "blockDim.y" + value "threadIdx.y" ∧
      value "idx" = value "x" + value "width" * value "y" ∧
      value "x" < value "width" ∧ value "y" < value "height" := by
  simp only [cuda, Holds, List.forall_mem_cons, List.map_cons, List.map_nil, List.prod_cons, List.prod_nil,
    List.sum_cons, List.sum_nil, mul_one, add_zero, List.not_mem_nil, false_imp_iff, implies_true, and_true]

end Statement

structure Grid.InImage (width height : UInt32) (x y : Int) : Prop where
  column : 0 ≤ x ∧ x < width.toNat
  row : 0 ≤ y ∧ y < height.toNat

namespace Thread

/-- The thread comes to the code of the kernel with these coordinates, were all numbers exact. -/
def Reaches (i : Thread) (prologue : String) (edge width height : UInt32) (x y : Int) : Prop :=
  ∃ statements, ∃ value : String → Int, Statement.read (Statement.inside prologue.toList) = some statements ∧
    (∀ p ∈ i.scope edge width height, value p.1 = p.2.bits.toNat) ∧
    (∀ s ∈ statements, s.Holds value) ∧ value "x" = x ∧ value "y" = y

def Covers (grid : UInt32 × UInt32) (prologue : String) (edge width height : UInt32) : Prop :=
  ∀ x y, Grid.InImage width height x y →
    ∃ i : Thread, i.Launched grid edge ∧ i.Reaches prologue edge width height x y

section

variable {i j : Thread} {s : Signature} {width height block : UInt32} {grid : UInt32 × UInt32} {x y idx : Int}

theorem reaches_cuda : i.Reaches (Dialect.cuda.prologue s) (Grid.edge block) width height x y ↔
    (x = i.column block ∧ y = i.row block) ∧ x < width.toNat ∧ y < height.toNat := by
  have column : (i.column block : Int) = i.blockX.toNat * (Grid.edge block).toNat + i.threadX.toNat := rfl
  have row : (i.row block : Int) = i.blockY.toNat * (Grid.edge block).toNat + i.threadY.toNat := rfl
  constructor
  · rintro ⟨statements, value, read, known, holds, rfl, rfl⟩
    have same : Statement.cuda = statements := Option.some.inj ((Statement.read_prologue s).symm.trans read)
    subst same
    obtain ⟨first, second, -, inside⟩ := Statement.holds_cuda.mp holds
    simp only [scope, Word.unsigned, Word.int, List.forall_mem_cons] at known
    obtain ⟨blockX, blockY, dimX, dimY, threadX, threadY, wide, high, -⟩ := known
    rw [wide, high] at inside
    rw [blockX, dimX, threadX, ← column] at first
    rw [blockY, dimY, threadY, ← row] at second
    exact ⟨⟨first, second⟩, inside⟩
  · rintro ⟨⟨rfl, rfl⟩, inside⟩
    -- The names in scope, and before them the three that the preamble declares.
    let names : List (String × Int) :=
      ("x", i.column block) :: ("y", i.row block) :: ("idx", i.column block + width.toNat * i.row block) ::
        (i.scope (Grid.edge block) width height).map fun p => (p.1, (p.2.bits.toNat : Int))
    refine ⟨_, fun name => (names.lookup name).getD 0, Statement.read_prologue s, ?_, ?_, rfl, rfl⟩
    · simp only [scope, List.forall_mem_cons]
      exact ⟨rfl, rfl, rfl, rfl, rfl, rfl, rfl, rfl, fun _ none => nomatch none⟩
    · exact Statement.holds_cuda.mpr ⟨column, row, rfl, inside⟩

theorem Within.survives_iff_reaches (wide : width.toNat ≤ 2147483647) (high : height.toNat ≤ 2147483647)
    (within : i.Within width height block) (fits : Fits width height block) :
    i.Survives (Dialect.cuda.prologue s) (Grid.edge block) width height x y idx ↔
      i.Reaches (Dialect.cuda.prologue s) (Grid.edge block) width height x y ∧ idx = x + width.toNat * y := by
  rw [reaches_cuda]
  constructor
  · intro survives
    obtain ⟨⟨column, row⟩, rfl, rfl, rfl⟩ := within.survives_exactly wide high fits survives
    exact ⟨⟨⟨rfl, rfl⟩, Int.ofNat_lt.mpr column, Int.ofNat_lt.mpr row⟩, rfl⟩
  · rintro ⟨⟨⟨rfl, rfl⟩, column, row⟩, rfl⟩
    have column := Int.ofNat_lt.mp column
    have row := Int.ofNat_lt.mp row
    have index := (cell_lt column row).trans_le fits.pixels
    rw [within.survives_iff wide high, bmod_of_lt index, bmod_of_lt (within.column_lt.trans_le fits.columns),
      bmod_of_lt (within.row_lt.trans_le fits.rows)]
    exact ⟨⟨.inl column, .inl row⟩, rfl, rfl, rfl⟩

theorem Reaches.inImage (reaches : i.Reaches (Dialect.cuda.prologue s) (Grid.edge block) width height x y) :
    Grid.InImage width height x y := by
  rcases reaches_cuda.mp reaches with ⟨⟨rfl, rfl⟩, column, row⟩
  exact ⟨⟨Int.natCast_nonneg _, column⟩, Int.natCast_nonneg _, row⟩

theorem Reaches.unique (launched : i.Launched grid (Grid.edge block)) (launched' : j.Launched grid (Grid.edge block))
    (reaches : i.Reaches (Dialect.cuda.prologue s) (Grid.edge block) width height x y)
    (reaches' : j.Reaches (Dialect.cuda.prologue s) (Grid.edge block) width height x y) : i = j := by
  rcases reaches_cuda.mp reaches with ⟨⟨column, row⟩, -⟩
  rcases reaches_cuda.mp reaches' with ⟨⟨column', row'⟩, -⟩
  apply launched.ext_pixel launched'
  · exact Int.natCast_inj.mp (column.symm.trans column')
  · exact Int.natCast_inj.mp (row.symm.trans row')

theorem covers_iff (wide : 1 ≤ width.toNat) (high : 1 ≤ height.toNat) :
    Covers grid (Dialect.cuda.prologue s) (Grid.edge block) width height ↔
      (Grid.cover width height block).1 ≤ grid.1 ∧ (Grid.cover width height block).2 ≤ grid.2 := by
  rw [UInt32.le_iff_toNat_le, UInt32.le_iff_toNat_le]
  show _ ↔ (Grid.blocks width block).toNat ≤ _ ∧ (Grid.blocks height block).toNat ≤ _
  rw [Grid.blocks_le_iff, Grid.blocks_le_iff]
  constructor
  · intro covers
    -- The last pixel needs the last column and the last row.
    have last : Grid.InImage width height (width.toNat - 1 : Nat) (height.toNat - 1 : Nat) :=
      ⟨by omega, by omega⟩
    obtain ⟨i, launched, reaches⟩ := covers _ _ last
    rcases reaches_cuda.mp reaches with ⟨⟨column, row⟩, -⟩
    have columns := launched.column_lt
    have rows := launched.row_lt
    omega
  · rintro ⟨columns, rows⟩ x y inside
    lift x to Nat using inside.column.1
    lift y to Nat using inside.row.1
    have column : x < width.toNat := Int.ofNat_lt.mp inside.column.2
    have row : y < height.toNat := Int.ofNat_lt.mp inside.row.2
    obtain ⟨i, launched, rfl, rfl⟩ := exists_launched (column.trans_le columns) (row.trans_le rows)
    exact ⟨i, launched, reaches_cuda.mpr ⟨⟨rfl, rfl⟩, inside.column.2, inside.row.2⟩⟩

/-- The threads that come to the code are those whose exact coordinates pass the guard. In the grid that is launched
they are one for each pixel; a grid with fewer columns or fewer rows has none for some pixel. -/
theorem one_for_each_pixel (s : Signature) (width height block : UInt32) (wide : 1 ≤ width.toNat)
    (high : 1 ≤ height.toNat) :
    let edge := Grid.edge block
    let cover := Grid.cover width height block
    let Comes (i : Thread) (x y : Int) := i.Reaches (Dialect.cuda.prologue s) edge width height x y
    (∀ i x y, Comes i x y ↔ (x = i.column block ∧ y = i.row block) ∧ x < width.toNat ∧ y < height.toNat) ∧
    (∀ i, i.Launched cover edge → ∀ x y, Comes i x y → Grid.InImage width height x y) ∧
    (∀ x y, Grid.InImage width height x y → ∃! i : Thread, i.Launched cover edge ∧ Comes i x y) ∧
    ∀ grid : UInt32 × UInt32, grid.1 < cover.1 ∨ grid.2 < cover.2 →
      ∃ x y, Grid.InImage width height x y ∧ ∀ i : Thread, i.Launched grid edge → ¬ Comes i x y := by
  intro edge cover Comes
  refine ⟨fun i x y => reaches_cuda, fun i _ x y => Reaches.inImage, fun x y inside => ?_, fun grid fewer => ?_⟩
  · obtain ⟨i, launched, reaches⟩ := (covers_iff wide high).mpr ⟨UInt32.le_refl _, UInt32.le_refl _⟩ x y inside
    refine ⟨i, ⟨launched, reaches⟩, ?_⟩
    rintro j ⟨launched', reaches'⟩
    exact reaches'.unique launched' launched reaches
  · by_contra all
    have covers : Covers grid (Dialect.cuda.prologue s) edge width height := by
      intro x y inside
      by_contra none
      exact all ⟨x, y, inside, fun i launched reaches => none ⟨i, launched, reaches⟩⟩
    obtain ⟨columns, rows⟩ := (covers_iff wide high).mp covers
    rcases fewer with fewer | fewer
    · exact UInt32.not_le.mpr fewer columns
    · exact UInt32.not_le.mpr fewer rows

end

theorem one_for_each_pixel_overhanging : 1 ≤ (5 : UInt32).toNat ∧ 1 ≤ (3 : UInt32).toNat ∧
    let s : Signature := ⟨"k", [], [⟨"B", 1⟩], [], []⟩
    (⟨2, 0, 1, 0⟩ : Thread).Launched (3, 2) 2 ∧
    (∀ x y, ¬ (⟨2, 0, 1, 0⟩ : Thread).Reaches (Dialect.cuda.prologue s) 2 5 3 x y) ∧
    (∃! i : Thread, i.Launched (3, 2) 2 ∧ i.Reaches (Dialect.cuda.prologue s) 2 5 3 4 2) ∧
    ∃ x y, Grid.InImage 5 3 x y ∧
      ∀ i : Thread, i.Launched (2, 2) 2 → ¬ i.Reaches (Dialect.cuda.prologue s) 2 5 3 x y := by
  refine ⟨by decide, by decide, ?_⟩
  intro s
  obtain ⟨each, -, every, fewer⟩ := one_for_each_pixel s 5 3 2 (by decide) (by decide)
  refine ⟨⟨by decide, by decide, by decide, by decide⟩, fun x y comes => ?_, ?_, fewer (2, 2) (.inl (by decide))⟩
  · rcases (each ⟨2, 0, 1, 0⟩ x y).mp comes with ⟨⟨rfl, -⟩, column, -⟩
    revert column
    decide
  · exact every 4 2 ⟨by decide, by decide⟩

end Thread

end PixelPipeline
