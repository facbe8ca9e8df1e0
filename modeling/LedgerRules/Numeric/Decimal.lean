import LedgerRules.Numeric.Rounding
import LedgerRules.Text.Blank

/-! Decimal numbers as they are written: a coefficient and a power of ten, so that `1.50` and `1.5`
are two numbers of equal value. Besides the finite ones there are the infinities and the quiet and
signaling not-a-numbers. Comparison goes by value, text by coefficient and exponent. -/

namespace LedgerRules.Numeric

inductive Decimal
  | finite (negative : Bool) (coefficient : Nat) (exponent : Int)
  | infinite (negative : Bool)
  | nan (negative signaling : Bool) (payload : Nat)
deriving DecidableEq

namespace Decimal

def ofInt (i : Int) : Decimal := finite (i < 0) i.natAbs 0

def zero : Decimal := ofInt 0

def isNan : Decimal → Bool
  | nan .. => true
  | _ => false

def isSignaling : Decimal → Bool
  | nan _ signaling _ => signaling
  | _ => false

def isZero : Decimal → Bool
  | finite _ coefficient _ => coefficient == 0
  | _ => false

def isFinite : Decimal → Bool
  | finite .. => true
  | _ => false

def adjusted (coefficient : Nat) (exponent : Int) : Int :=
  exponent + digitCount coefficient - 1

/-- Compares `c₁ · 10^e₁` with `c₂ · 10^e₂`. The leading digits decide first, so that the
coefficients are brought to a common exponent only when that costs few digits. -/
def compareMagnitude (c₁ : Nat) (e₁ : Int) (c₂ : Nat) (e₂ : Int) : Ordering :=
  if c₁ = 0 then (if c₂ = 0 then .eq else .lt)
  else if c₂ = 0 then .gt
  else
    let a₁ := adjusted c₁ e₁
    let a₂ := adjusted c₂ e₂
    if a₁ < a₂ then .lt
    else if a₂ < a₁ then .gt
    else if e₁ ≤ e₂ then compare c₁ (scaleUp c₂ (e₂ - e₁).toNat)
    else compare (scaleUp c₁ (e₁ - e₂).toNat) c₂

def order? : Decimal → Decimal → Option Ordering
  | nan .., _ => none
  | _, nan .. => none
  | infinite n₁, infinite n₂ => some (compare n₂ n₁)
  | infinite n, finite .. => some (if n then .lt else .gt)
  | finite .., infinite n => some (if n then .gt else .lt)
  | finite n₁ c₁ e₁, finite n₂ c₂ e₂ =>
    some <|
      if c₁ = 0 && c₂ = 0 then .eq
      else match n₁, n₂ with
        | false, false => compareMagnitude c₁ e₁ c₂ e₂
        | true, true => compareMagnitude c₂ e₂ c₁ e₁
        | false, true => .gt
        | true, false => .lt

theorem order?_nan_left (n s : Bool) (p : Nat) (d : Decimal) : order? (nan n s p) d = none := by
  cases d <;> rfl

def signText (negative : Bool) : List Char := if negative then ['-'] else []

def exponentText (e : Int) : List Char :=
  ['E', if e < 0 then '-' else '+'] ++ Text.digitsOf e.natAbs

def placePoint (digits : List Char) (point : Int) : List Char :=
  if point ≤ 0 then ['0', '.'] ++ List.replicate (-point).toNat '0' ++ digits
  else if digits.length ≤ point then
    digits ++ List.replicate (point.toNat - digits.length) '0'
  else digits.take point.toNat ++ ['.'] ++ digits.drop point.toNat

def finiteText (coefficient : Nat) (exponent : Int) : List Char :=
  let digits := Text.digitsOf coefficient
  let left := exponent + digits.length
  if exponent ≤ 0 && -6 < left then placePoint digits left
  else placePoint digits 1 ++ exponentText (left - 1)

def toChars : Decimal → List Char
  | finite n c e => signText n ++ finiteText c e
  | infinite n => signText n ++ "Infinity".toList
  | nan n s p =>
    signText n ++ (if s then ['s'] else []) ++ "NaN".toList
      ++ (if p = 0 then [] else Text.digitsOf p)

def text (d : Decimal) : String := String.ofList d.toChars

def largestExponent : Int := 999999999999999999

def fits (coefficient : Nat) (exponent : Int) : Bool :=
  -1999999999999999997 ≤ exponent &&
    (if coefficient = 0 then exponent else adjusted coefficient exponent) ≤ largestExponent

def takeSign : List Char → Bool × List Char
  | '-' :: r => (true, r)
  | '+' :: r => (false, r)
  | r => (false, r)

def isPlainDigit (c : Char) : Bool := 0x30 ≤ c.toNat && c.toNat ≤ 0x39

def readExponent : List Char → Option Int
  | [] => some 0
  | mark :: r =>
    if mark = 'e' || mark = 'E' then
      let (negative, digits) := takeSign r
      if digits.isEmpty || !digits.all isPlainDigit then none
      else some (if negative then -(Text.digitsValue digits) else Text.digitsValue digits)
    else none

def readFinite (negative : Bool) (cs : List Char) : Option Decimal :=
  let whole := cs.takeWhile isPlainDigit
  let rest := cs.dropWhile isPlainDigit
  let (fraction, rest) := match rest with
    | '.' :: r => (r.takeWhile isPlainDigit, r.dropWhile isPlainDigit)
    | r => ([], r)
  if whole.isEmpty && fraction.isEmpty then none
  else do
    let e ← readExponent rest
    let coefficient := Text.digitsValue (whole ++ fraction)
    let exponent := e - fraction.length
    if fits coefficient exponent then some (finite negative coefficient exponent) else none

def lowerAscii (c : Char) : Char :=
  if 0x41 ≤ c.toNat && c.toNat ≤ 0x5A then Char.ofNat (c.toNat + 0x20) else c

def readNan (negative signaling : Bool) (payload : List Char) : Option Decimal :=
  if payload.all isPlainDigit then some (nan negative signaling (Text.digitsValue payload))
  else none

def readPlain (cs : List Char) : Option Decimal :=
  let (negative, body) := takeSign cs
  match body.map lowerAscii with
  | 'n' :: 'a' :: 'n' :: payload => readNan negative false payload
  | 's' :: 'n' :: 'a' :: 'n' :: payload => readNan negative true payload
  | low =>
    if low = "inf".toList || low = "infinity".toList then some (infinite negative)
    else readFinite negative body

def plainDigit (c : Char) : Char :=
  match Text.digitValue? c with
  | some v => Char.ofNat (0x30 + v)
  | none => c

def parse? (cs : List Char) : Option Decimal :=
  readPlain (((Text.trim cs).filter (· ≠ '_')).map plainDigit)

def precision : Nat := 28

def workingMax : Int := 999999
def workingMin : Int := -999999

def tiny : Int := workingMin - precision + 1

def raiseTo (coefficient : Nat) (exponent target : Int) : Nat :=
  divHalfEven coefficient (Nat.pow 10 (target - exponent).toNat)

/-- A finite magnitude rounded to 28 digits and to the working exponents; `none` when the leading
digit lies beyond them. Rounding up to one more digit drops the zero it leaves at the end. -/
def toWorking (coefficient : Nat) (exponent : Int) : Option (Nat × Int) :=
  if coefficient = 0 then
    some (0, max tiny (min exponent workingMax))
  else
    let excess : Int := digitCount coefficient - precision
    let target := max (exponent + max excess 0) (if exponent < tiny then tiny else exponent)
    let c := if exponent < target then raiseTo coefficient exponent target else coefficient
    let (c, e) := if digitCount c > precision then (c / 10, target + 1) else (c, target)
    if adjusted c e > workingMax && c ≠ 0 then none else some (c, e)

def negated? : Decimal → Option Decimal
  | finite n c e => (toWorking c e).map fun (c, e) => finite (!n && c ≠ 0) c e
  | infinite n => some (infinite !n)
  | nan n s p => some (nan n s p)

end Decimal

end LedgerRules.Numeric
