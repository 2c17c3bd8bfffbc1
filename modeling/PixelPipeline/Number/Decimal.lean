import PixelPipeline.Number.Single

/-!
Decimal numerals and their nearest binary values. A numeral is rounded to double precision first and
to single precision after that.
-/
namespace PixelPipeline

/-- The number `digits · 10 ^ exponent`, negated if `negative`. -/
structure Decimal where
  negative : Bool
  digits : Nat
  exponent : Int
  deriving DecidableEq, Repr

namespace Decimal

def digit? (c : Char) : Option Nat :=
  if c.isDigit then some (c.toNat - '0'.toNat) else none

def readDigits : List Char → Nat × Nat × List Char :=
  go 0 0
where
  go (value count : Nat) : List Char → Nat × Nat × List Char
    | [] => (value, count, [])
    | c :: rest =>
      match digit? c with
      | some d => go (10 * value + d) (count + 1) rest
      | none => (value, count, c :: rest)

def readSign : List Char → Bool × List Char
  | '-' :: rest => (true, rest)
  | '+' :: rest => (false, rest)
  | rest => (false, rest)

def exponentPart? : List Char → Option Int
  | [] => some 0
  | c :: rest =>
    if c == 'e' || c == 'E' then
      let (negative, rest) := readSign rest
      match readDigits rest with
      | (value, count, []) => if count = 0 then none else some (Single.signed negative value)
      | _ => none
    else none

/-- Digits with at most one point among or beside them, after an optional sign and before an optional
exponent. -/
def ofChars? (text : List Char) : Option Decimal :=
  let (negative, text) := readSign text
  let (whole, wholeCount, rest) := readDigits text
  let (fraction, fractionCount, rest) :=
    match rest with
    | '.' :: rest => readDigits rest
    | rest => (0, 0, rest)
  if wholeCount + fractionCount = 0 then none
  else
    (exponentPart? rest).map fun e =>
      ⟨negative, whole * Nat.pow 10 fractionCount + fraction, e - fractionCount⟩

/-- A quotient as a dyadic of more than 56 bits whose last bit stands for all bits that follow, so that
rounding it to fewer bits rounds the quotient. -/
def quotient (numerator denominator : Nat) : Dyadic :=
  let shift := 57 + Dyadic.bitWidth denominator - Dyadic.bitWidth numerator
  let scaled := numerator * Nat.pow 2 shift
  let sticky := if scaled % denominator = 0 then 0 else 1
  ⟨2 * (scaled / denominator) + sticky, -(shift + 1 : Nat)⟩

/-- The absolute value in double precision, none where it overflows. Numerals far outside the range of
the format are settled by their order of magnitude alone. -/
def toDouble? (d : Decimal) : Option Dyadic :=
  let order := (Nat.toDigits 10 d.digits).length + d.exponent
  if d.digits = 0 || order < -400 then some ⟨0, -1074⟩
  else if 400 < order then none
  else
    let exact : Dyadic :=
      if 0 ≤ d.exponent then ⟨d.digits * Nat.pow 10 d.exponent.toNat, 0⟩
      else quotient d.digits (Nat.pow 10 (-d.exponent).toNat)
    let r := exact.round 53 (-1074)
    if 1024 < Dyadic.bitWidth r.mantissa + r.exponent then none else some r

def toSingle? (d : Decimal) : Option Single :=
  d.toDouble?.map (Single.ofDyadic d.negative)

end Decimal

end PixelPipeline
