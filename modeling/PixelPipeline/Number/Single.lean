import PixelPipeline.Number.Dyadic

/-!
Single-precision numbers as bit patterns, so that signed zeros and NaN payloads are told apart.
Arithmetic is exact on dyadics with one rounding at the end. Main statements: four little-endian bytes
are a number, and every number is four bytes.
-/
namespace PixelPipeline

/-- An IEEE 754 binary32 number, given by its bits. -/
structure Single where
  bits : UInt32
  deriving DecidableEq, Repr

namespace Single

def zero : Single := ⟨0⟩

def byteCount : Nat := 4

instance : Inhabited Single := ⟨zero⟩

def infinity : Single := ⟨0x7F800000⟩

def nan : Single := ⟨0x7FC00000⟩

def isNegative (x : Single) : Bool := x.bits >>> 31 == 1

def magnitude (x : Single) : UInt32 := x.bits &&& 0x7FFFFFFF

def isNaN (x : Single) : Bool := infinity.bits < x.magnitude

def isInfinite (x : Single) : Bool := x.magnitude == infinity.bits

def withSign (negative : Bool) (x : Single) : Single :=
  ⟨x.magnitude ||| (if negative then 0x80000000 else 0)⟩

def neg (x : Single) : Single := x.withSign !x.isNegative

/-- A NaN operand passes through an operation with its quiet bit set. -/
def quiet (x : Single) : Single := ⟨x.bits ||| 0x00400000⟩

def toDyadic (x : Single) : Dyadic :=
  let exponent := (x.magnitude >>> 23).toNat
  let fraction := (x.magnitude &&& 0x007FFFFF).toNat
  if exponent = 0 then ⟨fraction, -149⟩ else ⟨0x800000 + fraction, (exponent : Int) - 150⟩

def ofDyadic (negative : Bool) (d : Dyadic) : Single :=
  let r := d.round 24 (-149)
  let code := r.mantissa + (r.exponent + 149).toNat * 0x800000
  withSign negative ⟨UInt32.ofNat (min code infinity.bits.toNat)⟩

def ofInt (n : Int) : Single := ofDyadic (n < 0) ⟨n.natAbs, 0⟩

def signed (negative : Bool) (n : Nat) : Int := if negative then -n else n

/-- The sum of two finite numbers. An exact zero is negative only where both operands are. -/
def addFinite (x y : Single) : Single :=
  let dx := x.toDyadic
  let dy := y.toDyadic
  let exponent := min dx.exponent dy.exponent
  let aligned := fun (d : Dyadic) => d.mantissa * Nat.pow 2 (d.exponent - exponent).toNat
  let total := signed x.isNegative (aligned dx) + signed y.isNegative (aligned dy)
  if total = 0 then withSign (x.isNegative && y.isNegative) zero
  else ofDyadic (total < 0) ⟨total.natAbs, exponent⟩

def add (x y : Single) : Single :=
  if x.isNaN then x.quiet
  else if y.isNaN then y.quiet
  else if x.isInfinite then if y.isInfinite && x != y then nan else x
  else if y.isInfinite then y
  else addFinite x y

def sub (x y : Single) : Single :=
  if x.isNaN then x.quiet else if y.isNaN then y.quiet else add x y.neg

def mul (x y : Single) : Single :=
  let negative := x.isNegative != y.isNegative
  if x.isNaN then x.quiet
  else if y.isNaN then y.quiet
  else if x.isInfinite || y.isInfinite then
    if x.magnitude == 0 || y.magnitude == 0 then nan else withSign negative infinity
  else
    let dx := x.toDyadic
    let dy := y.toDyadic
    ofDyadic negative ⟨dx.mantissa * dy.mantissa, dx.exponent + dy.exponent⟩

instance : Add Single := ⟨add⟩
instance : Sub Single := ⟨sub⟩
instance : Mul Single := ⟨mul⟩
instance : Neg Single := ⟨neg⟩

def bytes (x : Single) : List UInt8 :=
  let n := x.bits.toNat
  [UInt8.ofNat n, UInt8.ofNat (n / 0x100), UInt8.ofNat (n / 0x10000), UInt8.ofNat (n / 0x1000000)]

def ofBytes (b0 b1 b2 b3 : UInt8) : Single :=
  ⟨UInt32.ofNat (b0.toNat + 0x100 * b1.toNat + 0x10000 * b2.toNat + 0x1000000 * b3.toNat)⟩

theorem bytes_ofBytes (b0 b1 b2 b3 : UInt8) : (ofBytes b0 b1 b2 b3).bytes = [b0, b1, b2, b3] := by
  have h0 := b0.toNat_lt
  have h1 := b1.toNat_lt
  have h2 := b2.toNat_lt
  have h3 := b3.toNat_lt
  simp only [bytes, ofBytes, List.cons.injEq, ← UInt8.toNat_inj, UInt8.toNat_ofNat', UInt32.toNat_ofNat', and_true]
  omega

theorem exists_ofBytes (x : Single) : ∃ b0 b1 b2 b3, x.bytes = [b0, b1, b2, b3] ∧ ofBytes b0 b1 b2 b3 = x := by
  obtain ⟨bits⟩ := x
  refine ⟨_, _, _, _, rfl, ?_⟩
  have h := bits.toNat_lt
  simp only [ofBytes, mk.injEq, ← UInt32.toNat_inj, UInt8.toNat_ofNat', UInt32.toNat_ofNat']
  omega

end Single

end PixelPipeline
