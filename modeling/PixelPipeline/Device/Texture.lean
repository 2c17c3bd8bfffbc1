/-!
Buffers stored in textures, which have four components a pixel whatever the buffer has.
-/
namespace PixelPipeline.Texture

variable {α : Type}

def compact (channels : Nat) : List α → List α
  | r :: g :: b :: a :: rest => [r, g, b, a].take channels ++ compact channels rest
  | _ => []

theorem compact_replicate (channels pixels : Nat) (r g b a : α) :
    compact channels (List.replicate pixels [r, g, b, a]).flatten =
      (List.replicate pixels ([r, g, b, a].take channels)).flatten := by
  induction pixels with
  | zero => rfl
  | succ n ih =>
    rw [List.replicate_succ, List.flatten_cons, List.replicate_succ, List.flatten_cons, ← ih]
    rfl

end PixelPipeline.Texture
