import LedgerRules.Calendar.Moment
import LedgerRules.Text.Quoted

/-! Reading moments from ISO 8601 text. Dates are `2025-10-04`, `20251004`, `2025-W40-6`, `2025W406`
and, for the Monday of a week, `2025-W40` and `2025W40`. Any one character may stand between date
and clock. The clock has hours, minutes and seconds with colons or without, a fraction after a
point or comma, and then perhaps `Z` or a distance from universal time. -/

namespace LedgerRules.Calendar

inductive IsoFault
  | notIso
  | year (n : Nat)
  | month
  | day
  | hour
  | minute
  | second
  | offset (micros : Int)
deriving DecidableEq

namespace IsoText

def isDigit (c : Char) : Bool := 0x30 ≤ c.toNat && c.toNat ≤ 0x39

def takeDigits (count : Nat) (cs : List Char) : Option (Nat × List Char) :=
  let head := cs.take count
  if head.length = count && head.all isDigit then some (Text.digitsValue head, cs.drop count)
  else none

/-- How many characters the date takes. A week date without hyphens is followed by an even number
of digits of the clock, so the count of digits tells whether it has a day. -/
def dateLength (cs : List Char) : Nat :=
  if cs.length = 7 then 7
  else if cs.getD 4 '?' = '-' then
    if cs.getD 5 '?' = 'W' then
      if cs.getD 8 '?' = '-' then (if isDigit (cs.getD 10 '?') then 8 else 10) else 8
    else 10
  else if cs.getD 4 '?' = 'W' then
    let digits := ((cs.drop 7).takeWhile isDigit).length
    if digits < 2 then 7 + digits else if digits % 2 = 1 then 7 else 8
  else 8

def weekOrdinal? (y week weekday : Nat) : Option Int :=
  if 1 ≤ week && week ≤ Date.weeksInYear y && 1 ≤ weekday && weekday ≤ 7 then
    some (Date.firstMonday y + (week - 1) * 7 + weekday - 1)
  else none

inductive DateFields
  | civil (year month day : Nat)
  | week (ordinal : Int)

def readWeek (y : Nat) (hyphens : Bool) (cs : List Char) : Option DateFields := do
  let (week, rest) ← takeDigits 2 cs
  match rest with
  | [] => (weekOrdinal? y week 1).map .week
  | c :: more =>
    if hyphens && c ≠ '-' then none
    else
      let (weekday, _) ← takeDigits 1 (if hyphens then more else rest)
      (weekOrdinal? y week weekday).map .week

def readDate (cs : List Char) : Option DateFields := do
  let (y, rest) ← takeDigits 4 cs
  let hyphens := rest.head? = some '-'
  let rest := if hyphens then rest.tail else rest
  if rest.head? = some 'W' then readWeek y hyphens rest.tail
  else
    let (m, rest) ← takeDigits 2 rest
    if hyphens && rest.head? ≠ some '-' then none
    else
      let (d, _) ← takeDigits 2 (if hyphens then rest.tail else rest)
      some (.civil y m d)

def DateFields.check : DateFields → Except IsoFault Date
  | .week n =>
    match Date.ofOrdinal? n.toNat with
    | some d => .ok d
    | none => .error (if n ≤ 0 then .month else .year 10000)
  | .civil y m d =>
    if y < 1 || 9999 < y then .error (.year y)
    else if m < 1 || 12 < m then .error .month
    else match Date.ofCivil? y m d with
      | some date => .ok date
      | none => .error .day

structure ClockFields where
  hour : Nat := 0
  minute : Nat := 0
  second : Nat := 0
  micros : Nat := 0

def ClockFields.set (f : ClockFields) : Nat → Nat → ClockFields
  | 0, n => { f with hour := n }
  | 1, n => { f with minute := n }
  | _, n => { f with second := n }

/-- Up to six digits of a fraction; further digits are dropped. The flag tells whether something
other than the end of the text follows, where `follow` is what comes after the clock. -/
def readFraction (f : ClockFields) (cs : List Char) (follow : Char) :
    Option (ClockFields × Bool) := do
  let places := min 6 cs.length
  let (n, rest) ← takeDigits places cs
  let rest := rest.dropWhile isDigit
  some ({ f with micros := n * Nat.pow 10 (6 - places) }, rest.headD follow ≠ '\x00')

def readFields (follow : Char) :
    (count index : Nat) → (colons : Bool) → ClockFields → List Char →
      Option (ClockFields × Bool)
  | 0, _, _, f, cs => readFraction f cs follow
  | count + 1, index, colons, f, cs => do
    let (n, rest) ← takeDigits 2 cs
    let f := f.set index n
    match rest with
    | [] => some (f, follow ≠ '\x00')
    | [c] => if c.toNat < 0x80 then some (f, c ≠ '\x00') else none
    | c :: more =>
      let colons := if index = 0 then c = ':' else colons
      if colons && c = ':' then readFields follow count (index + 1) colons f more
      else if c = '.' || c = ',' then readFraction f more follow
      else if colons then none
      else readFields follow count (index + 1) colons f rest

def readClock (cs : List Char) (follow : Char) : Option (ClockFields × Bool) :=
  readFields follow 3 0 true {} cs

def isZoneMark (c : Char) : Bool := c = '+' || c = '-' || c = 'Z'

def ClockFields.total (f : ClockFields) : Nat :=
  ((f.hour * 60 + f.minute) * 60 + f.second) * 1000000 + f.micros

def readTime (cs : List Char) : Option (ClockFields × Option Int) :=
  let zone := cs.dropWhile (!isZoneMark ·)
  let body := cs.takeWhile (!isZoneMark ·)
  match zone with
  | [] =>
    match readClock body '\x00' with
    | some (f, false) => some (f, none)
    | _ => none
  | mark :: rest => do
    let (f, _) ← readClock body mark
    if mark = 'Z' then
      if rest.headD '\x00' = '\x00' then some (f, some 0) else none
    else
      match readClock rest '\x00' with
      | some (z, false) =>
        let seconds : Int := (z.hour * 60 + z.minute) * 60 + z.second
        let micros := seconds * 1000000 + z.micros
        let micros := if seconds = 0 then 0 else micros
        some (f, some (if mark = '-' then -micros else micros))
      | _ => none

def ClockFields.check (f : ClockFields) : Except IsoFault Nat :=
  if 23 < f.hour then .error .hour
  else if 59 < f.minute then .error .minute
  else if 59 < f.second then .error .second
  else .ok f.total

/-- Distance, date and clock are tested in this order. -/
def assemble (date : DateFields) (clock : ClockFields) (offset : Option Int) :
    Except IsoFault Moment := do
  match offset with
  | some o => if o.natAbs < dayMicros then pure () else throw (.offset o)
  | none => pure ()
  let d ← date.check
  let micros ← clock.check
  match Moment.ofTicks? ((d.ordinal - 1) * dayMicros + micros : Nat) offset with
  | some t => pure t
  | none => throw .notIso

def readMoment (cs : List Char) : Except IsoFault Moment :=
  if cs.length < 7 then .error .notIso
  else
    let length := dateLength cs
    match readDate (cs.take length), cs.drop length with
    | none, _ => .error .notIso
    | some date, [] => assemble date {} none
    | some date, _ :: time =>
      match readTime time with
      | none => .error .notIso
      | some (clock, offset) => assemble date clock offset

def readDay (cs : List Char) : Option Date := do
  let fields ← readDate cs
  fields.check.toOption

end IsoText

def spanText (micros : Int) : String :=
  let days := micros.fdiv dayMicros
  let within := (micros.fmod dayMicros).toNat
  let parts :=
    (if days = 0 then [] else [s!"days={days}"])
      ++ (if within / 1000000 = 0 then [] else [s!"seconds={within / 1000000}"])
      ++ (if within % 1000000 = 0 then [] else [s!"microseconds={within % 1000000}"])
  "datetime.timedelta(" ++ (if parts.isEmpty then "0" else ", ".intercalate parts) ++ ")"

def IsoFault.message (source : String) : IsoFault → String
  | .notIso => "Invalid isoformat string: " ++ Text.quoted source
  | .year n => s!"year {n} is out of range"
  | .month => "month must be in 1..12"
  | .day => "day is out of range for month"
  | .hour => "hour must be in 0..23"
  | .minute => "minute must be in 0..59"
  | .second => "second must be in 0..59"
  | .offset o =>
    "offset must be a timedelta strictly between -timedelta(hours=24) and timedelta(hours=24), not "
      ++ spanText o ++ "."

end LedgerRules.Calendar
