namespace PixelPipeline

structure Dyadic where
  mantissa : Nat
  exponent : Int
  deriving DecidableEq, Repr

namespace Dyadic

def bitWidth (n : Nat) : Nat :=
  if n = 0 then 0 else n.log2 + 1

/-- `n / 2 ^ k` to the nearest integer; a tie goes to the even one. -/
def roundAway (n k : Nat) : Nat :=
  let unit := Nat.pow 2 k
  let quotient := n / unit
  let rest := 2 * (n % unit)
  if unit < rest || (rest == unit && quotient % 2 == 1) then quotient + 1 else quotient

/-- The nearest number with at most `precision` bits whose exponent is at least `lowest`. A number
that is not tiny comes out with exactly `precision` bits, or as the next power of two. -/
def round (precision : Nat) (lowest : Int) (d : Dyadic) : Dyadic :=
  if d.mantissa = 0 then ⟨0, lowest⟩
  else
    let exponent := max lowest (d.exponent + bitWidth d.mantissa - precision)
    if d.exponent < exponent then ⟨roundAway d.mantissa (exponent - d.exponent).toNat, exponent⟩
    else ⟨d.mantissa * Nat.pow 2 (d.exponent - exponent).toNat, exponent⟩

end Dyadic

end PixelPipeline
