import PixelPipeline.Device.Grid
import PixelPipeline.Proofs.Layout
import PixelPipeline.Proofs.Preamble

namespace PixelPipeline

open Outcome

section

variable {u w : UInt32} {n : Nat}

theorem toInt_word (same : u.toNat = n % 4294967296) : u.toInt32.toInt = (n : Int).bmod 4294967296 := by
  have bits : u.toInt32.toInt = (u.toNat : Int).bmod 4294967296 := BitVec.toInt_eq_toNat_bmod u.toBitVec
  rw [bits, same, Int.natCast_emod]
  exact Int.emod_bmod n 4294967296

theorem bmod_of_lt (small : n < 2147483648) : (n : Int).bmod 4294967296 = n := by
  rw [Int.bmod_def]
  omega

theorem bmod_neg (large : 2147483648 ≤ n) (word : n < 4294967296) : (n : Int).bmod 4294967296 < 0 := by
  rw [Int.bmod_def]
  omega

theorem lt_length_iff (length : w.toNat ≤ 2147483647) :
    u.toInt32 < w.toInt32 ↔ u.toNat < w.toNat ∨ 2147483648 ≤ u.toNat := by
  have word := u.toNat_lt
  have left : u.toInt32.toInt = (u.toNat : Int).bmod 4294967296 := toInt_word (Nat.mod_eq_of_lt word).symm
  have right : w.toInt32.toInt = (w.toNat : Int).bmod 4294967296 := toInt_word (Nat.mod_eq_of_lt w.toNat_lt).symm
  rw [Int32.lt_iff_toInt_lt, left, right, Int.bmod_def, Int.bmod_def]
  omega

end

namespace Grid

variable {length block b t : UInt32}

/-- The pixels that the blocks along one side cover, the overhang included. -/
def span (length block : UInt32) : Nat := (blocks length block).toNat * (edge block).toNat

theorem span_bounds (length block : UInt32) :
    length.toNat ≤ span length block ∧ span length block < length.toNat + (edge block).toNat := by
  have positive := edge_pos block
  have divided := Nat.div_add_mod' length.toNat (edge block).toNat
  unfold span blocks
  split
  · rename_i whole
    have whole : length.toNat % (edge block).toNat = 0 := congrArg UInt32.toNat whole
    rw [UInt32.add_zero, UInt32.toNat_div]
    omega
  · rename_i rest
    have rest : length.toNat % (edge block).toNat ≠ 0 := fun zero => rest (UInt32.toNat_inj.mp zero)
    have below := Nat.mod_lt length.toNat positive
    have more : 2 ≤ (edge block).toNat := by omega
    have half : length.toNat / (edge block).toNat ≤ length.toNat / 2 := Nat.div_le_div_left more (by decide)
    have word := length.toNat_lt
    have count : (length / edge block + 1).toNat = length.toNat / (edge block).toNat + 1 := by
      rw [UInt32.toNat_add, UInt32.toNat_div]
      exact Nat.mod_eq_of_lt (by simp; omega)
    rw [count, Nat.add_mul, Nat.one_mul]
    omega

theorem blocks_le_iff {n : Nat} : (blocks length block).toNat ≤ n ↔ length.toNat ≤ n * (edge block).toNat := by
  obtain ⟨covered, overhang⟩ := span_bounds length block
  constructor
  · intro few
    exact covered.trans (Nat.mul_le_mul_right _ few)
  · intro enough
    have next : (blocks length block).toNat * (edge block).toNat < (n + 1) * (edge block).toNat := by
      rw [Nat.add_mul, Nat.one_mul]
      unfold span at overhang
      omega
    exact Nat.le_of_lt_succ (Nat.lt_of_mul_lt_mul_right next)

theorem span_lt (small : length.toNat ≤ 2147483647) : span length block < 4294967296 := by
  obtain ⟨-, overhang⟩ := span_bounds length block
  have word := (edge block).toNat_lt
  by_cases fits : (edge block).toNat ≤ length.toNat
  · omega
  · -- A block longer than the side is the only one.
    have one : (blocks length block).toNat ≤ 1 := blocks_le_iff.mpr (by omega)
    have narrow : span length block ≤ 1 * (edge block).toNat := Nat.mul_le_mul_right _ one
    omega

theorem place_lt {count : UInt32} (inGrid : b < count) (inBlock : t < edge block) :
    b.toNat * (edge block).toNat + t.toNat < count.toNat * (edge block).toNat := by
  have place := cell_lt (UInt32.lt_iff_toNat_lt.mp inBlock) (UInt32.lt_iff_toNat_lt.mp inGrid)
  rw [Nat.add_comm, Nat.mul_comm, Nat.mul_comm count.toNat]
  exact place

theorem toNat_place (small : length.toNat ≤ 2147483647) (inGrid : b < blocks length block) (inBlock : t < edge block) :
    (b * edge block + t).toNat = b.toNat * (edge block).toNat + t.toNat := by
  have place := (place_lt inGrid inBlock).trans (span_lt small)
  rw [UInt32.toNat_add, UInt32.toNat_mul, Nat.mod_add_mod, Nat.mod_eq_of_lt place]

theorem exists_place {p : Nat} {count : UInt32} (inside : p < count.toNat * (edge block).toNat) : ∃ b t : UInt32,
    b < count ∧ t < edge block ∧ b.toNat * (edge block).toNat + t.toNat = p := by
  rw [Nat.mul_comm] at inside
  obtain ⟨inBlock, inGrid⟩ := exists_cell inside
  obtain ⟨t, thread, t_eq⟩ := exists_word inBlock
  obtain ⟨b, block, b_eq⟩ := exists_word inGrid
  exact ⟨b, t, block, thread, by rw [b_eq, t_eq, Nat.div_add_mod']⟩

theorem span_le_of_dvd (small : length.toNat ≤ 2147483647) (divides : (edge block).toNat ∣ 2147483648) :
    span length block ≤ 2147483648 := by
  obtain ⟨count, whole⟩ := divides
  rw [Nat.mul_comm] at whole
  have few : (blocks length block).toNat ≤ count := blocks_le_iff.mpr (by omega)
  rw [whole]
  exact Nat.mul_le_mul_right _ few

end Grid

namespace Thread

/-- The thread is one of a launch of so many columns and rows of blocks. -/
structure Launched (i : Thread) (grid : UInt32 × UInt32) (edge : UInt32) : Prop where
  blockX : i.blockX < grid.1
  blockY : i.blockY < grid.2
  threadX : i.threadX < edge
  threadY : i.threadY < edge

/-- The thread is one of the launch for an image. -/
structure Within (i : Thread) (width height block : UInt32) : Prop where
  blockX : i.blockX < (Grid.cover width height block).1
  blockY : i.blockY < (Grid.cover width height block).2
  threadX : i.threadX < Grid.edge block
  threadY : i.threadY < Grid.edge block

theorem launched_cover_iff {i : Thread} {width height block : UInt32} :
    i.Launched (Grid.cover width height block) (Grid.edge block) ↔ i.Within width height block :=
  ⟨fun ⟨blockX, blockY, threadX, threadY⟩ => ⟨blockX, blockY, threadX, threadY⟩,
    fun ⟨blockX, blockY, threadX, threadY⟩ => ⟨blockX, blockY, threadX, threadY⟩⟩

def column (i : Thread) (block : UInt32) : Nat := i.blockX.toNat * (Grid.edge block).toNat + i.threadX.toNat

def row (i : Thread) (block : UInt32) : Nat := i.blockY.toNat * (Grid.edge block).toNat + i.threadY.toNat

/-- What the guard lets through. A coordinate of 2^31 or more is negative for it. -/
def Unguarded (i : Thread) (width height block : UInt32) : Prop :=
  (i.column block < width.toNat ∨ 2147483648 ≤ i.column block) ∧
    (i.row block < height.toNat ∨ 2147483648 ≤ i.row block)

section

variable {i j : Thread} {s : Signature} {width height block : UInt32} {grid : UInt32 × UInt32} {x y idx : Int}

theorem Launched.column_lt (launched : i.Launched grid (Grid.edge block)) :
    i.column block < grid.1.toNat * (Grid.edge block).toNat :=
  Grid.place_lt launched.blockX launched.threadX

theorem Launched.row_lt (launched : i.Launched grid (Grid.edge block)) :
    i.row block < grid.2.toNat * (Grid.edge block).toNat :=
  Grid.place_lt launched.blockY launched.threadY

theorem exists_launched {c r : Nat} (column : c < grid.1.toNat * (Grid.edge block).toNat)
    (row : r < grid.2.toNat * (Grid.edge block).toNat) :
    ∃ i : Thread, i.Launched grid (Grid.edge block) ∧ i.column block = c ∧ i.row block = r := by
  obtain ⟨blockX, threadX, gridX, insideX, rfl⟩ := Grid.exists_place column
  obtain ⟨blockY, threadY, gridY, insideY, rfl⟩ := Grid.exists_place row
  exact ⟨⟨blockX, blockY, threadX, threadY⟩, ⟨gridX, gridY, insideX, insideY⟩, rfl, rfl⟩

theorem Launched.ext_pixel (launched : i.Launched grid (Grid.edge block)) (launched' : j.Launched grid (Grid.edge block))
    (column : i.column block = j.column block) (row : i.row block = j.row block) : i = j := by
  have axis {b t b' t' : UInt32} (inside : t < Grid.edge block) (inside' : t' < Grid.edge block)
      (same : b.toNat * (Grid.edge block).toNat + t.toNat = b'.toNat * (Grid.edge block).toNat + t'.toNat) :
      b = b' ∧ t = t' := by
    rw [Nat.add_comm, Nat.mul_comm, Nat.add_comm (_ * _), Nat.mul_comm b'.toNat] at same
    obtain ⟨thread, block⟩ := cell_inj inside inside' same
    exact ⟨UInt32.toNat_inj.mp block, UInt32.toNat_inj.mp thread⟩
  obtain ⟨blockX, threadX⟩ := axis launched.threadX launched'.threadX column
  obtain ⟨blockY, threadY⟩ := axis launched.threadY launched'.threadY row
  cases i
  cases j
  simp_all

theorem Within.column_lt (within : i.Within width height block) : i.column block < Grid.span width block :=
  (launched_cover_iff.mpr within).column_lt

theorem Within.row_lt (within : i.Within width height block) : i.row block < Grid.span height block :=
  (launched_cover_iff.mpr within).row_lt

theorem exists_within {c r : Nat} (column : c < Grid.span width block) (row : r < Grid.span height block) :
    ∃ i : Thread, i.Within width height block ∧ i.column block = c ∧ i.row block = r := by
  obtain ⟨i, launched, pixel⟩ : ∃ i : Thread, i.Launched (Grid.cover width height block) (Grid.edge block) ∧
      i.column block = c ∧ i.row block = r := exists_launched column row
  exact ⟨i, launched_cover_iff.mp launched, pixel⟩

theorem Within.ext_pixel (within : i.Within width height block) (within' : j.Within width height block)
    (column : i.column block = j.column block) (row : i.row block = j.row block) : i = j :=
  (launched_cover_iff.mpr within).ext_pixel (launched_cover_iff.mpr within') column row

theorem Within.survives_iff (wide : width.toNat ≤ 2147483647) (high : height.toNat ≤ 2147483647)
    (within : i.Within width height block) :
    i.Survives (Dialect.cuda.prologue s) (Grid.edge block) width height x y idx ↔
      i.Unguarded width height block ∧ x = (i.column block : Int).bmod 4294967296 ∧
        y = (i.row block : Int).bmod 4294967296 ∧
        idx = ((i.column block + width.toNat * i.row block : Nat) : Int).bmod 4294967296 := by
  have column := Grid.toNat_place wide within.blockX within.threadX
  have row := Grid.toNat_place high within.blockY within.threadY
  have columnWord := within.column_lt.trans (Grid.span_lt wide)
  have rowWord := within.row_lt.trans (Grid.span_lt high)
  refine survives_cuda.trans ?_
  have index : (i.blockX * Grid.edge block + i.threadX + width * (i.blockY * Grid.edge block + i.threadY)).toNat =
      (i.column block + width.toNat * i.row block) % 4294967296 := by
    rw [UInt32.toNat_add, UInt32.toNat_mul, column, row, Nat.add_mod_mod]
    rfl
  rw [lt_length_iff wide, lt_length_iff high, toInt_word index, column, row,
    toInt_word (column.trans (Nat.mod_eq_of_lt columnWord).symm),
    toInt_word (row.trans (Nat.mod_eq_of_lt rowWord).symm)]
  rfl

theorem Within.left (wide : width.toNat ≤ 2147483647) (high : height.toNat ≤ 2147483647)
    (within : i.Within width height block) (guarded : ¬ i.Unguarded width height block) :
    i.passage (Dialect.cuda.prologue s) (Grid.edge block) width height = some .left := by
  rw [Unguarded, column, row, ← Grid.toNat_place wide within.blockX within.threadX,
    ← Grid.toNat_place high within.blockY within.threadY, ← lt_length_iff wide, ← lt_length_iff high] at guarded
  exact (passage_cuda i s (Grid.edge block) width height).trans (congrArg some (if_neg guarded))

/-- Where the grid has no pixel of 2^31 or more and the image has at most 2^31, nothing wraps. -/
structure Fits (width height block : UInt32) : Prop where
  columns : Grid.span width block ≤ 2147483648
  rows : Grid.span height block ≤ 2147483648
  pixels : width.toNat * height.toNat ≤ 2147483648

theorem Within.survives_exactly (wide : width.toNat ≤ 2147483647) (high : height.toNat ≤ 2147483647)
    (within : i.Within width height block) (fits : Fits width height block)
    (survives : i.Survives (Dialect.cuda.prologue s) (Grid.edge block) width height x y idx) :
    (i.column block < width.toNat ∧ i.row block < height.toNat) ∧ x = i.column block ∧ y = i.row block ∧
      idx = (i.column block + width.toNat * i.row block : Nat) := by
  obtain ⟨⟨column, row⟩, first, second, third⟩ := (within.survives_iff wide high).mp survives
  have columns := within.column_lt.trans_le fits.columns
  have rows := within.row_lt.trans_le fits.rows
  have column : i.column block < width.toNat := by omega
  have row : i.row block < height.toNat := by omega
  have index := (cell_lt column row).trans_le fits.pixels
  rw [bmod_of_lt columns] at first
  rw [bmod_of_lt rows] at second
  rw [bmod_of_lt index] at third
  exact ⟨⟨column, row⟩, first, second, third⟩

theorem fits_of_exact (wide : 1 ≤ width.toNat ∧ width.toNat ≤ 2147483647)
    (high : 1 ≤ height.toNat ∧ height.toNat ≤ 2147483647)
    (exact : ∀ i : Thread, i.Within width height block → ∀ x y idx,
      i.Survives (Dialect.cuda.prologue s) (Grid.edge block) width height x y idx →
        0 ≤ x ∧ 0 ≤ y ∧ idx = x + width.toNat * y) : Fits width height block := by
  have across := (Grid.span_bounds width block).1
  have down := (Grid.span_bounds height block).1
  -- Each bound that fails gives a thread to ask: one in the first row, in the first column, or at pixel 2^31.
  have reached {c r : Nat} (column : c < Grid.span width block) (row : r < Grid.span height block)
      (free : (c < width.toNat ∨ 2147483648 ≤ c) ∧ (r < height.toNat ∨ 2147483648 ≤ r)) :
      0 ≤ (c : Int).bmod 4294967296 ∧ 0 ≤ (r : Int).bmod 4294967296 ∧
        ((c + width.toNat * r : Nat) : Int).bmod 4294967296 =
          (c : Int).bmod 4294967296 + width.toNat * (r : Int).bmod 4294967296 := by
    obtain ⟨i, within, rfl, rfl⟩ := exists_within column row
    exact exact i within _ _ _ ((within.survives_iff wide.2 high.2).mpr ⟨free, rfl, rfl, rfl⟩)
  refine ⟨?_, ?_, ?_⟩
  · by_contra more
    obtain ⟨positive, -, -⟩ := reached (c := 2147483648) (r := 0) (by omega) (by omega) (by omega)
    exact Int.not_lt.mpr positive (bmod_neg (by decide) (by decide))
  · by_contra more
    obtain ⟨-, positive, -⟩ := reached (c := 0) (r := 2147483648) (by omega) (by omega) (by omega)
    exact Int.not_lt.mpr positive (bmod_neg (by decide) (by decide))
  · by_contra more
    obtain ⟨column, row⟩ := exists_cell (Nat.lt_of_not_le more)
    obtain ⟨columns, rows, same⟩ := reached (column.trans_le across) (row.trans_le down) ⟨.inl column, .inl row⟩
    have negative := bmod_neg (n := 2147483648) (by decide) (by decide)
    rw [← Nat.mod_add_div 2147483648 width.toNat, same] at negative
    exact Int.not_lt.mpr (Int.add_nonneg columns (Int.mul_nonneg (Int.natCast_nonneg _) rows)) negative

/-- A thread of the launch for an image comes to the code of the kernel, or leaves it before, by its pixel in
32 bits. All that come have the coordinates of a pixel of the image and its index iff the grid and the image fit in 31
bits, which the grid does for blocks that divide 2^31, and then no two have one index. -/
theorem survivors_exact_iff (s : Signature) (g h : Graph) (width height block : UInt32)
    (accepted : g.setDimensions width height = .ok h) :
    let Comes (i : Thread) := i.Survives (Dialect.cuda.prologue s) (Grid.edge block) width height
    (∀ i : Thread, i.Within width height block →
      (¬ i.Unguarded width height block →
        i.passage (Dialect.cuda.prologue s) (Grid.edge block) width height = some .left) ∧
      ∀ x y idx, Comes i x y idx ↔ i.Unguarded width height block ∧
        x = (i.column block : Int).bmod 4294967296 ∧ y = (i.row block : Int).bmod 4294967296 ∧
        idx = ((i.column block + width.toNat * i.row block : Nat) : Int).bmod 4294967296) ∧
    ((∀ i : Thread, i.Within width height block → ∀ x y idx, Comes i x y idx →
      (0 ≤ x ∧ x < width.toNat) ∧ (0 ≤ y ∧ y < height.toNat) ∧ idx = x + width.toNat * y) ↔
        Fits width height block) ∧
    (Fits width height block → ∀ i j : Thread, i.Within width height block → j.Within width height block →
      ∀ x y idx x' y' idx', Comes i x y idx → Comes j x' y' idx' →
        (0 ≤ idx ∧ idx < width.toNat * height.toNat) ∧ (i ≠ j → idx ≠ idx')) ∧
    ((Grid.edge block).toNat ∣ 2147483648 →
      Grid.span width block ≤ 2147483648 ∧ Grid.span height block ≤ 2147483648) := by
  intro Comes
  obtain ⟨wide, high, -⟩ := Graph.setDimensions_eq_ok.mp accepted
  refine ⟨fun i within => ⟨within.left wide.2 high.2, fun x y idx => within.survives_iff wide.2 high.2⟩,
    ⟨fun exact => ?_, fun fits i within x y idx comes => ?_⟩, ?_, fun divides => ?_⟩
  · refine fits_of_exact (s := s) wide high fun i within x y idx comes => ?_
    obtain ⟨column, row, index⟩ := exact i within x y idx comes
    exact ⟨column.1, row.1, index⟩
  · obtain ⟨⟨column, row⟩, rfl, rfl, rfl⟩ := within.survives_exactly wide.2 high.2 fits comes
    refine ⟨⟨Int.natCast_nonneg _, by omega⟩, ⟨Int.natCast_nonneg _, by omega⟩, ?_⟩
    push_cast
    rfl
  · intro fits i j within within' x y idx x' y' idx' comes comes'
    obtain ⟨⟨column, row⟩, -, -, rfl⟩ := within.survives_exactly wide.2 high.2 fits comes
    obtain ⟨⟨column', row'⟩, -, -, rfl⟩ := within'.survives_exactly wide.2 high.2 fits comes'
    refine ⟨⟨Int.natCast_nonneg _, ?_⟩, fun apart same => ?_⟩
    · exact_mod_cast cell_lt column row
    · obtain ⟨columns, rows⟩ := cell_inj column column' (Int.natCast_inj.mp same)
      exact apart (within.ext_pixel within' columns rows)
  · exact ⟨Grid.span_le_of_dvd wide.2 divides, Grid.span_le_of_dvd high.2 divides⟩

end

theorem survivors_exact_iff_overhanging : ∃ h, (Graph.empty .cuda ⟨0⟩).setDimensions 5 3 = .ok h ∧
    (⟨2, 0, 1, 0⟩ : Thread).Within 5 3 2 ∧
    (⟨2, 0, 1, 0⟩ : Thread).passage (Dialect.cuda.prologue ⟨"k", [], [⟨"B", 1⟩], [], []⟩) 2 5 3 = some .left ∧
    ∀ i : Thread, i.Within 5 3 2 → ∀ x y idx,
      i.Survives (Dialect.cuda.prologue ⟨"k", [], [⟨"B", 1⟩], [], []⟩) 2 5 3 x y idx →
        (0 ≤ x ∧ x < 5) ∧ (0 ≤ y ∧ y < 3) ∧ idx = x + 5 * y := by
  let s : Signature := ⟨"k", [], [⟨"B", 1⟩], [], []⟩
  have accepted : (Graph.empty .cuda ⟨0⟩).setDimensions 5 3 = .ok _ := rfl
  obtain ⟨each, exact, -, -⟩ := survivors_exact_iff s _ _ 5 3 2 accepted
  have within : (⟨2, 0, 1, 0⟩ : Thread).Within 5 3 2 := ⟨by decide, by decide, by decide, by decide⟩
  have fits : Fits 5 3 2 := ⟨by decide, by decide, by decide⟩
  refine ⟨_, accepted, within, (each _ within).1 ?_, exact.mpr fits⟩
  rintro ⟨column, -⟩
  revert column
  decide

theorem survivors_past_word :
    (∃ h, (Graph.empty .cuda ⟨0⟩).setDimensions 65536 65536 = .ok h ∧
      (⟨0, 2048, 0, 0⟩ : Thread).Within 65536 65536 16 ∧ ∀ s, (⟨0, 2048, 0, 0⟩ : Thread).Survives
        (Dialect.cuda.prologue s) (Grid.edge 16) 65536 65536 0 32768 (-2147483648)) ∧
    ∃ h, (Graph.empty .cuda ⟨0⟩).setDimensions 2147483647 1 = .ok h ∧
      (⟨715827882, 0, 2, 0⟩ : Thread).Within 2147483647 1 3 ∧ ∀ s, (⟨715827882, 0, 2, 0⟩ : Thread).Survives
        (Dialect.cuda.prologue s) (Grid.edge 3) 2147483647 1 (-2147483648) 0 (-2147483648) := by
  constructor
  · refine ⟨_, rfl, ⟨by decide, by decide, by decide, by decide⟩, fun s => survives_cuda.mpr ?_⟩
    exact ⟨⟨by decide, by decide⟩, by decide, by decide, by decide⟩
  · refine ⟨_, rfl, ⟨by decide, by decide, by decide, by decide⟩, fun s => survives_cuda.mpr ?_⟩
    exact ⟨⟨by decide, by decide⟩, by decide, by decide, by decide⟩

end Thread

end PixelPipeline
