import LedgerRules.Numeric.Decimal

/-! Double-precision binary numbers as exact values `mantissa · 2^exponent`. Every operation rounds
once, from an exact quotient, to the nearest number with a tie going to the even mantissa. -/

namespace LedgerRules.Numeric

inductive Binary64
  | finite (negative : Bool) (mantissa : Nat) (exponent : Int)
  | infinite (negative : Bool)
  | nan
deriving DecidableEq

namespace Binary64

def minExponent : Int := -1074
def maxExponent : Int := 971

def zero (negative : Bool) : Binary64 := finite negative 0 minExponent

def floorLog (num den : Nat) : Int :=
  let guess : Int := (num.log2 : Int) - den.log2
  if num * Nat.pow 2 (-guess).toNat < den * Nat.pow 2 guess.toNat then guess - 1 else guess

def ofRatio (negative : Bool) (num den : Nat) : Binary64 :=
  if num = 0 then zero negative
  else
    let e := max minExponent (floorLog num den - 52)
    let m := divHalfEven (num * Nat.pow 2 (-e).toNat) (den * Nat.pow 2 e.toNat)
    let (m, e) := if m = Nat.pow 2 53 then (Nat.pow 2 52, e + 1) else (m, e)
    if e > maxExponent then infinite negative else finite negative m e

/-- The nearest number to `coefficient · 10^exponent`. Far outside the range the answer is known
without forming the power of ten. -/
def ofScaled (negative : Bool) (coefficient : Nat) (exponent : Int) : Binary64 :=
  if coefficient = 0 then zero negative
  else
    let leading := Decimal.adjusted coefficient exponent
    if leading > 400 then infinite negative
    else if leading < -400 then zero negative
    else ofRatio negative (coefficient * Nat.pow 10 exponent.toNat) (Nat.pow 10 (-exponent).toNat)

def ofDecimal : Decimal → Binary64
  | .finite n c e => ofScaled n c e
  | .infinite n => infinite n
  | .nan .. => nan

def isZero : Binary64 → Bool
  | finite _ m _ => m == 0
  | _ => false

def exact : Binary64 → Decimal
  | finite n m e =>
    if 0 ≤ e then .finite n (m * Nat.pow 2 e.toNat) 0 else .finite n (m * Nat.pow 5 (-e).toNat) e
  | infinite n => .infinite n
  | nan => .nan false false 0

def magnitude (m : Nat) (e : Int) : Nat × Nat := (m * Nat.pow 2 e.toNat, Nat.pow 2 (-e).toNat)

def ratio? : Binary64 → Option (Nat × Nat)
  | finite _ m e => some (magnitude m e)
  | _ => none

def addMagnitudes (x y : Binary64) : Binary64 :=
  match x.ratio?, y.ratio? with
  | some (a, b), some (c, d) => ofRatio false (a * d + c * b) (b * d)
  | _, _ => infinite false

def roundUp (num den : Nat) : Nat := (2 * num + den) / (2 * den)

structure Neighbourhood where
  low : Nat
  value : Nat
  high : Nat
  den : Nat
  closed : Bool

/-- The interval reaches halfway to the next numbers; below a power of two these lie closer. Its
ends belong to it when the mantissa is even. -/
def neighbourhood (m : Nat) (e : Int) : Neighbourhood :=
  let below := if m = Nat.pow 2 52 && minExponent < e then 1 else 2
  let up := Nat.pow 2 (e - 2).toNat
  { low := (4 * m - below) * up, value := 4 * m * up, high := (4 * m + 2) * up,
    den := Nat.pow 2 (2 - e).toNat, closed := m % 2 == 0 }

def Neighbourhood.admits (b : Neighbourhood) (n : Nat) (k : Int) : Bool :=
  let point := n * Nat.pow 10 k.toNat * b.den
  let scale := Nat.pow 10 (-k).toNat
  if b.closed then b.low * scale ≤ point && point ≤ b.high * scale
  else b.low * scale < point && point < b.high * scale

def Neighbourhood.leading (b : Neighbourhood) : Int :=
  if b.den ≤ b.value then digitCount (b.value / b.den) - 1
  else -(digitCount ((b.den - 1) / b.value) : Int)

def Neighbourhood.onGrid (b : Neighbourhood) (k : Int) : Option Nat :=
  let num := b.value * Nat.pow 10 (-k).toNat
  let den := b.den * Nat.pow 10 k.toNat
  let floor := num / den
  let nearest := divHalfEven num den
  let other := if nearest = floor then floor + 1 else floor
  if b.admits nearest k then some nearest
  else if b.admits other k then some other
  else none

/-- The fewest digits, and among those the nearest: `(n, k)` stands for `n · 10^k`. Seventeen
digits always suffice; a value just below a power of ten may round up to it, as ten on the first
grid. -/
def shortest (m : Nat) (e : Int) : Nat × Int :=
  let b := neighbourhood m e
  let lead := b.leading
  let hit := (List.range 17).findSome? fun (i : Nat) =>
    let k := lead - i
    (b.onGrid k).map fun n => if n = 10 then (1, k + 1) else (n, k)
  hit.getD (m, e)

def exponentText (e : Int) : List Char :=
  ['e', if e < 0 then '-' else '+'] ++ Text.padLeft 2 '0' (Text.digitsOf e.natAbs)

def digitsText (n : Nat) (k : Int) : List Char :=
  let digits := Text.digitsOf n
  let point := k + digits.length
  if -4 < point && point ≤ 16 then
    Decimal.placePoint digits point ++ (if 0 ≤ k then ['.', '0'] else [])
  else
    Decimal.placePoint digits 1 ++ exponentText (point - 1)

def toChars : Binary64 → List Char
  | finite n m e =>
    Decimal.signText n ++
      (if m = 0 then "0.0".toList else let (d, k) := shortest m e; digitsText d k)
  | infinite n => Decimal.signText n ++ "inf".toList
  | nan => "nan".toList

def text (x : Binary64) : String := String.ofList x.toChars

def toDecimal (x : Binary64) : Decimal := (Decimal.parse? x.toChars).getD (.nan false false 0)

def positionalText (n : Nat) (k : Int) : List Char :=
  Decimal.placePoint (Text.digitsOf n) (k + digitCount n)

def fixedTwo (negative : Bool) (m : Nat) (e : Int) : Decimal :=
  .finite negative (divHalfEven (m * 100 * Nat.pow 2 e.toNat) (Nat.pow 2 (-e).toNat)) (-2)

def parse? (cs : List Char) : Option Binary64 := (Decimal.parse? cs).map ofDecimal

end Binary64

end LedgerRules.Numeric
