namespace PixelPipeline.Grid

/-- A block of no size counts as a single pixel. -/
def edge (block : UInt32) : UInt32 := if block = 0 then 1 else block

/-- Blocks along one side; the last one may overhang. -/
def blocks (length block : UInt32) : UInt32 :=
  length / edge block + (if length % edge block = 0 then 0 else 1)

def cover (width height block : UInt32) : UInt32 × UInt32 := (blocks width block, blocks height block)

theorem edge_pos (block : UInt32) : 0 < (edge block).toNat := by
  unfold edge
  split
  · decide
  · rename_i h
    apply Nat.pos_of_ne_zero
    intro zero
    exact h (UInt32.toNat_inj.1 zero)

end PixelPipeline.Grid
