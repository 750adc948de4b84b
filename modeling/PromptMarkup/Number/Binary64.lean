/-!
# Binary floating-point numbers

The numbers of the 64-bit binary format as exact values: a sign, a mantissa below `2 ^ 53` and a power of two.
A ratio is rounded to the nearest of them, ties going to the even mantissa, and a number is written with the
fewest decimal digits that read back as it.
-/

namespace PromptMarkup

/-- A number of the 64-bit binary format.  A finite one is `mantissa * 2 ^ exponent`. -/
inductive Binary64 where
  | finite (negative : Bool) (mantissa : Nat) (exponent : Int)
  | infinite (negative : Bool)
  | nan
  deriving DecidableEq, Repr

namespace Binary64

/-- What every mantissa is below: `2 ^ 53`. -/
def mantissaBound : Nat := Nat.pow 2 53

/-- The least exponent, that of the numbers nearest to zero. -/
def minExponent : Int := -1074

/-- The greatest exponent of a finite number. -/
def maxExponent : Int := 971

/-- A quotient and the power of two that the quotient counts. -/
def scaled (num den : Nat) (e : Int) : Nat × Nat :=
  if e ≥ 0 then (num, den * Nat.pow 2 e.toNat) else (num * Nat.pow 2 (-e).toNat, den)

/-- The whole number nearest to a ratio; a tie goes to the even one. -/
def roundDiv (num den : Nat) : Nat :=
  let q := num / den
  let r := num % den
  if 2 * r < den then q
  else if 2 * r > den then q + 1
  else if q % 2 = 0 then q else q + 1

/-- The number nearest to a ratio. -/
def ofRatio (negative : Bool) (num den : Nat) : Binary64 :=
  if num = 0 then finite negative 0 minExponent
  else
    let low : Int := (Nat.log2 num : Int) - Nat.log2 den - 53
    let (n, d) := scaled num den low
    let e := max minExponent (if n / d ≥ mantissaBound then low + 1 else low)
    let (n, d) := scaled num den e
    let m := roundDiv n d
    let (m, e) := if m = mantissaBound then (mantissaBound / 2, e + 1) else (m, e)
    if e > maxExponent then infinite negative else finite negative m e

/-- The number nearest to `digits * 10 ^ exponent`. -/
def ofDecimal (negative : Bool) (digits : Nat) (exponent : Int) : Binary64 :=
  let size : Int := (Nat.toDigits 10 digits).length
  if digits = 0 then finite negative 0 minExponent
  else if exponent + size > 400 then infinite negative
  else if exponent + size < -400 then finite negative 0 minExponent
  else if exponent ≥ 0 then ofRatio negative (digits * Nat.pow 10 exponent.toNat) 1
  else ofRatio negative digits (Nat.pow 10 (-exponent).toNat)

def ofInt (n : Int) : Binary64 := ofRatio (n < 0) n.natAbs 1

/-- A finite number as a ratio without its sign. -/
def ratio (mantissa : Nat) (exponent : Int) : Nat × Nat :=
  if exponent ≥ 0 then (mantissa * Nat.pow 2 exponent.toNat, 1) else (mantissa, Nat.pow 2 (-exponent).toNat)

/-- The whole number that a finite number is, if it is one. -/
def toInt? : Binary64 → Option Int
  | finite negative m e =>
    let (n, d) := ratio m e
    if n % d = 0 then some (if negative then -((n / d : Nat) : Int) else (n / d : Nat)) else none
  | _ => none

/-- How many digits stand before the point of a positive ratio; negative counts zeros behind it. -/
def pointPlace (num den : Nat) : Int :=
  let a : Int := (Nat.toDigits 10 num).length
  let b : Int := (Nat.toDigits 10 den).length
  let p := a - b
  let below := if p ≥ 0 then num < den * Nat.pow 10 p.toNat else num * Nat.pow 10 (-p).toNat < den
  if below then p else p + 1

/-- Whether a decimal `k * 10 ^ g` reads back as the number `m * 2 ^ e`. -/
def readsBack (m : Nat) (e : Int) (k : Nat) (g : Int) : Bool :=
  if g ≥ 0 then ofRatio false (k * Nat.pow 10 g.toNat) 1 == finite false m e
  else ofRatio false k (Nat.pow 10 (-g).toNat) == finite false m e

/-- The digits of a positive number on the decimal grid with `n` digits, when they read back. -/
def digitsOnGrid (m : Nat) (e : Int) (n : Nat) : Option (Nat × Int) :=
  let (num, den) := ratio m e
  let g := pointPlace num den - n
  let (a, b) := if g ≥ 0 then (num, den * Nat.pow 10 g.toNat) else (num * Nat.pow 10 (-g).toNat, den)
  let k := a / b
  let near := roundDiv a b
  let far := if near = k then k + 1 else k
  if readsBack m e near g then some (near, g)
  else if readsBack m e far g then some (far, g)
  else none

/-- The fewest digits that read back as a positive number, with the power of ten they count. -/
def shortest (m : Nat) (e : Int) : Nat × Int :=
  ((List.range 17).findSome? fun i => digitsOnGrid m e (i + 1)).getD (0, 0)

/-- Digits with a point after the first `place` of them. -/
def positional (ds : List Char) (place : Int) : String :=
  if place ≤ 0 then
    "0." ++ String.ofList (List.replicate (-place).toNat '0' ++ ds)
  else if ds.length ≤ place.toNat then
    String.ofList (ds ++ List.replicate (place.toNat - ds.length) '0') ++ ".0"
  else
    String.ofList (ds.take place.toNat) ++ "." ++ String.ofList (ds.drop place.toNat)

/-- Digits with a point after the first one and a power of ten of at least two digits. -/
def scientific (ds : List Char) (power : Int) : String :=
  let lead := match ds with
    | [] => ""
    | [d] => String.ofList [d]
    | d :: r => String.ofList (d :: '.' :: r)
  let size := toString power.natAbs
  lead ++ "e" ++ (if power < 0 then "-" else "+") ++ (if size.length < 2 then "0" else "") ++ size

/-- The digits of a number without the zeros at their end. -/
def significant (n : Nat) : List Char :=
  ((Nat.toDigits 10 n).reverse.dropWhile (· == '0')).reverse

/-- A number as text: positional from `0.0001` up to below `10 ^ 16`, scientific beyond. -/
def text : Binary64 → String
  | nan => "nan"
  | infinite negative => if negative then "-inf" else "inf"
  | finite negative m e =>
    let sign := if negative then "-" else ""
    if m = 0 then sign ++ "0.0"
    else
      let (k, g) := shortest m e
      let place := g + (Nat.toDigits 10 k).length
      let ds := significant k
      if -4 < place ∧ place ≤ 16 then sign ++ positional ds place
      else sign ++ scientific ds (place - 1)

end Binary64

end PromptMarkup
