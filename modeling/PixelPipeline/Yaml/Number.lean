import PixelPipeline.Number.Decimal
import PixelPipeline.Yaml.QuotedScalar

namespace PixelPipeline.Yaml.Number

def digits? (radix : Nat) : List Char → Option Nat
  | [] => none
  | text => text.foldlM (fun n c =>
      match QuotedScalar.hexDigit? c with
      | some d => if d < radix then some (radix * n + d) else none
      | none => none) 0

def magnitude? : List Char → Option Nat
  | '0' :: 'x' :: rest => digits? 16 rest
  | '0' :: 'o' :: rest => digits? 8 rest
  | '0' :: 'b' :: rest => digits? 2 rest
  | '0' :: _ :: _ => none
  | text => digits? 10 text

def unsigned? (text : String) : Option Nat :=
  match text.toList with
  | '+' :: rest => magnitude? rest
  | rest => magnitude? rest

def signed? (text : String) : Option Int :=
  match text.toList with
  | '-' :: rest => (magnitude? rest).map fun n => -(n : Int)
  | '+' :: rest => (magnitude? rest).map Int.ofNat
  | rest => (magnitude? rest).map Int.ofNat

def infinityWords : List String := [".inf", ".Inf", ".INF"]

def nanWords : List String := [".nan", ".NaN", ".NAN"]

def float? (text : String) : Option Single :=
  if nanWords.contains text then some .nan
  else
    match text.toList with
    | '+' :: '+' :: _ | '+' :: '-' :: _ => none
    | '+' :: rest => finiteOrInfinite (String.ofList rest)
    | '-' :: rest =>
      if infinityWords.contains (String.ofList rest) then some (-Single.infinity)
      else finiteOrInfinite text
    | _ => finiteOrInfinite text
where
  finiteOrInfinite (text : String) : Option Single :=
    if infinityWords.contains text then some .infinity
    else (Decimal.ofChars? text.toList).bind Decimal.toSingle?

end PixelPipeline.Yaml.Number
