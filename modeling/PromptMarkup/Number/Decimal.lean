import PromptMarkup.Number.Binary64
import PromptMarkup.Text.Blank
import PromptMarkup.Text.Digit

/-!
# Numbers read from text, and their sums and products

A decimal numeral is read as the nearest number; sums and products are exact and then rounded once.
-/

namespace PromptMarkup.Binary64

/-- The values of a run of decimal digits, and what follows it. -/
def digitValues : List Char → List Nat × List Char
  | [] => ([], [])
  | c :: r =>
    match Text.digitValue? c with
    | some d => (d :: (digitValues r).1, (digitValues r).2)
    | none => ([], c :: r)

/-- An integer with a sign. -/
def signed (negative : Bool) (n : Nat) : Int := if negative then -(n : Int) else n

/-- The power of ten written behind a numeral, up to the end of the text. -/
def powerOf? : List Char → Option Int
  | [] => some 0
  | e :: r =>
    if e = 'e' ∨ e = 'E' then
      let (negative, r) := match r with
        | '-' :: r => (true, r)
        | '+' :: r => (false, r)
        | r => (false, r)
      let (ds, rest) := digitValues r
      let n := ds.foldl (fun n d => 10 * n + d) 0
      if ds.isEmpty || !rest.isEmpty then none else some (signed negative n)
    else none

/-- The number nearest to an unsigned numeral. -/
def ofNumeral? (negative : Bool) (s : List Char) : Option Binary64 := do
  let (whole, rest) := digitValues s
  let (fraction, rest) := match rest with
    | '.' :: r => digitValues r
    | r => ([], r)
  let power ← powerOf? rest
  if whole.isEmpty && fraction.isEmpty then none
  else
    return ofDecimal negative ((whole ++ fraction).foldl (fun n d => 10 * n + d) 0)
      (power - fraction.length)

/-- The number that a text stands for: a numeral with or without a sign, or the word for infinity or for no number. -/
def ofText? (s : List Char) : Option Binary64 :=
  let (negative, r) := match Text.trimEnd (Text.trimStart s) with
    | '-' :: r => (true, r)
    | '+' :: r => (false, r)
    | r => (false, r)
  let word := String.ofList (r.map Char.toLower)
  if word = "inf" ∨ word = "infinity" then some (infinite negative)
  else if word = "nan" then some nan
  else ofNumeral? negative r

def neg : Binary64 → Binary64
  | finite negative m e => finite (!negative) m e
  | infinite negative => infinite (!negative)
  | nan => nan

/-- The number nearest to `n * 2 ^ e`. -/
def ofScaled (negative : Bool) (n : Nat) (e : Int) : Binary64 :=
  let (num, den) := ratio n e
  ofRatio negative num den

def add : Binary64 → Binary64 → Binary64
  | nan, _ => nan
  | _, nan => nan
  | infinite a, infinite b => if a = b then infinite a else nan
  | infinite a, finite _ _ _ => infinite a
  | finite _ _ _, infinite b => infinite b
  | finite a m e, finite b n f =>
    let g := min e f
    let sum := signed a (m * Nat.pow 2 (e - g).toNat) + signed b (n * Nat.pow 2 (f - g).toNat)
    if sum = 0 then finite (a && b) 0 minExponent
    else ofScaled (decide (sum < 0)) sum.natAbs g

def mul : Binary64 → Binary64 → Binary64
  | nan, _ => nan
  | _, nan => nan
  | infinite a, infinite b => infinite (a != b)
  | infinite a, finite b n _ => if n = 0 then nan else infinite (a != b)
  | finite a m _, infinite b => if m = 0 then nan else infinite (a != b)
  | finite a m e, finite b n f => ofScaled (a != b) (m * n) (e + f)

end PromptMarkup.Binary64
