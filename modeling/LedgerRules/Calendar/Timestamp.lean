import LedgerRules.Calendar.Moment
import LedgerRules.Numeric.Binary64

/-! Dates as records write them: a day, a day and a clock, or a number of seconds since the start of
1970. Numbers beyond twenty thousand million are milliseconds. -/

namespace LedgerRules.Calendar
open Numeric

inductive TimestampFault
  | unreadable
  | yearZero
deriving DecidableEq

namespace Timestamp

def isDigit (c : Char) : Bool := 0x30 ≤ c.toNat && c.toNat ≤ 0x39

def twoDigits : List Char → Option (Nat × List Char)
  | a :: b :: rest =>
    if isDigit a && isDigit b then some (Text.digitsValue [a, b], rest) else none
  | _ => none

def readDate (cs : List Char) : Option ((Nat × Nat × Nat) × List Char) := do
  let (century, rest) ← twoDigits cs
  let (years, rest) ← twoDigits rest
  guard (rest.head? = some '-')
  let (m, rest) ← twoDigits rest.tail
  guard (rest.head? = some '-')
  let (d, rest) ← twoDigits rest.tail
  let y := century * 100 + years
  guard (1 ≤ d ∧ d ≤ daysInMonth y m)
  return ((y, m, d), rest)

def readFraction (cs : List Char) : Option (Nat × List Char) :=
  let digits := cs.takeWhile isDigit
  if digits.isEmpty then none
  else
    let kept := digits.take 6
    some (Text.digitsValue kept * Nat.pow 10 (6 - kept.length), cs.dropWhile isDigit)

def readSeconds : List Char → Option (Nat × List Char)
  | ':' :: rest => do
    let (s, rest) ← twoDigits rest
    guard (s ≤ 59)
    match rest with
    | '.' :: more => (readFraction more).map fun p => (s * 1000000 + p.1, p.2)
    | ',' :: more => (readFraction more).map fun p => (s * 1000000 + p.1, p.2)
    | _ => return (s * 1000000, rest)
  | rest => some (0, rest)

def readClock (cs : List Char) : Option (Nat × List Char) := do
  let (h, rest) ← twoDigits cs
  guard (rest.head? = some ':')
  let (m, rest) ← twoDigits rest.tail
  guard (h ≤ 23 ∧ m ≤ 59)
  let (s, rest) ← readSeconds rest
  return ((h * 60 + m) * 60000000 + s, rest)

def readZone : List Char → Option (Option Int)
  | [] => some none
  | ['Z'] => some (some 0)
  | ['z'] => some (some 0)
  | sign :: rest => do
    guard (sign = '+' || sign = '-' || sign.toNat = 0x2212)
    let (h, rest) ← twoDigits rest
    let (m, rest) ← twoDigits (if rest.head? = some ':' then rest.tail else rest)
    guard (m ≤ 59 ∧ h ≤ 23 ∧ rest = [])
    let micros : Int := (h * 60 + m) * 60000000
    return some (if sign = '+' then micros else -micros)

def isSeparator (c : Char) : Bool := c = 'T' || c = 't' || c = ' ' || c = '_'

def readText (cs : List Char) : Option ((Nat × Nat × Nat) × Nat × Option Int) := do
  let (date, rest) ← readDate cs
  match rest with
  | [] => return (date, 0, none)
  | c :: rest =>
    guard (isSeparator c)
    let (clock, rest) ← readClock rest
    let zone ← readZone rest
    return (date, clock, zone)

def assemble (date : Nat × Nat × Nat) (clock : Nat) (zone : Option Int) :
    Except TimestampFault Moment :=
  if date.1 = 0 then .error .yearZero
  else
    let ordinal := ordinalOf date.1 date.2.1 date.2.2
    match Moment.ofTicks? ((ordinal - 1) * dayMicros + clock : Nat) zone with
    | some t => .ok t
    | none => .error .unreadable

def watershed : Nat := 20000000000

def epochOrdinal : Int := 719163

def yearZeroStart : Int := -62167219200
def yearOneStart : Int := -62135596800
def lastSecond : Int := 253402300799

def ofSeconds (seconds : Int) (micros : Nat) : Except TimestampFault Moment :=
  let seconds := seconds + (micros / 1000000 : Nat)
  if seconds < yearZeroStart || lastSecond < seconds then .error .unreadable
  else if seconds < yearOneStart then .error .yearZero
  else
    let ticks := (seconds + (epochOrdinal - 1) * 86400) * 1000000 + (micros % 1000000 : Nat)
    match Moment.ofTicks? ticks (some 0) with
    | some t => .ok t
    | none => .error .unreadable

def ofNumber (n : Int) (micros : Nat) : Except TimestampFault Moment :=
  if n.natAbs ≤ watershed then ofSeconds n micros
  else ofSeconds (n.fdiv 1000) ((n.fmod 1000).toNat * 1000 + micros)

/-- The largest whole number that is not greater, and the distance of the number from the whole
number next to it on the side of zero, as a quotient. -/
def splitFloat (negative : Bool) (m : Nat) (e : Int) : Int × Nat × Nat :=
  let (num, den) := Binary64.magnitude m e
  let whole := num / den
  let part := num % den
  (if negative then (if part = 0 then -(whole : Int) else -(whole : Int) - 1) else whole, part, den)

def microsOf (num den : Nat) : Nat :=
  match (Binary64.ofRatio false (num * 1000000) den).ratio? with
  | some (a, b) => Binary64.roundUp a b
  | none => 0

def ofFloat : Binary64 → Except TimestampFault Moment
  | .finite negative m e =>
    let (floor, part, den) := splitFloat negative m e
    ofNumber floor (microsOf part den)
  | _ => .error .unreadable

def largestWord : Nat := Nat.pow 2 63 - 1

def addDigits : (power : Nat) → Binary64 → List Char → Binary64
  | _, x, [] => x
  | power, x, c :: rest =>
    let digit := Binary64.ofRatio false (Text.digitsValue [c]) power
    addDigits (power * 10) (x.addMagnitudes digit) rest

def ofPointed (negative : Bool) (x : Binary64) : Except TimestampFault Moment :=
  match x.ratio? with
  | none => .error .unreadable
  | some (num, den) =>
    let scaled := if watershed * den < num then Binary64.ofRatio false num (den * 1000) else x
    match scaled with
    | .finite _ m e =>
      let (floor, part, den) := splitFloat negative m e
      let above := if negative && part ≠ 0 then den - part else part
      ofNumber floor (microsOf above den)
    | _ => .error .unreadable

def readNumber (cs : List Char) : Except TimestampFault Moment :=
  let (negative, body) := Decimal.takeSign cs
  let whole := body.takeWhile isDigit
  let n := Text.digitsValue whole
  if whole.isEmpty || largestWord < n then .error .unreadable
  else
    match body.dropWhile isDigit with
    | [] => ofNumber (if negative then -(n : Int) else n) 0
    | '.' :: fraction =>
      if fraction.all isDigit then
        ofPointed negative (addDigits 10 (Binary64.ofRatio false n 1) fraction)
      else .error .unreadable
    | _ => .error .unreadable

def read (s : String) : Except TimestampFault Moment :=
  match readText s.toList with
  | some (date, clock, zone) => assemble date clock zone
  | none => readNumber s.toList

end Timestamp

end LedgerRules.Calendar
