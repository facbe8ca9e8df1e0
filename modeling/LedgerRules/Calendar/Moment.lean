import LedgerRules.Calendar.Date
import LedgerRules.Text.Digit

/-! A moment: the reading of a wall clock to the microsecond, with or without the distance of that
clock from universal time. Moments with a distance denote instants. -/

namespace LedgerRules.Calendar

def dayMicros : Nat := 86400000000

/-- `ticks` are the microseconds since the first of January of year 1 on the wall clock, `offset`
how far that clock runs ahead of universal time, always less than a day. -/
structure Moment where
  ticks : Nat
  offset : Option Int
  inRange : ticks < lastOrdinal * dayMicros
  near : ∀ o ∈ offset, o.natAbs < dayMicros

instance : DecidableEq Moment := fun a b =>
  if h : a.ticks = b.ticks ∧ a.offset = b.offset then
    isTrue (by cases a; cases b; simp_all)
  else isFalse (by rintro rfl; simp at h)

namespace Moment

theorem near_zero : ∀ o ∈ (some 0 : Option Int), o.natAbs < dayMicros := by simp [dayMicros]

def ofTicks? (ticks : Int) (offset : Option Int) : Option Moment :=
  if h : 0 ≤ ticks ∧ ticks.toNat < lastOrdinal * dayMicros ∧
      ∀ o ∈ offset, o.natAbs < dayMicros then
    some ⟨ticks.toNat, offset, h.2.1, h.2.2⟩
  else none

def date (t : Moment) : Date :=
  ⟨t.ticks / dayMicros + 1, Nat.le_add_left 1 _, by
    have h := t.inRange
    simp only [dayMicros, lastOrdinal] at *
    omega⟩

def micros (t : Moment) : Nat := t.ticks % dayMicros

def hour (t : Moment) : Nat := t.micros / 3600000000
def minute (t : Moment) : Nat := t.micros / 60000000 % 60
def second (t : Moment) : Nat := t.micros / 1000000 % 60
def microsecond (t : Moment) : Nat := t.micros % 1000000

def midnight (d : Date) : Moment :=
  ⟨(d.ordinal - 1) * dayMicros, some 0, by
    have h₁ := d.positive
    have h₂ := d.bounded
    simp only [dayMicros, lastOrdinal] at *
    omega, near_zero⟩

def toUtc? (t : Moment) : Option Moment :=
  match t.offset with
  | none => some { t with offset := some 0, near := near_zero }
  | some o => ofTicks? (t.ticks - o) (some 0)

def instant? (t : Moment) : Option Int := t.offset.map (t.ticks - ·)

/-- Two clocks agree when they show the same instant, or the same reading if neither has a known
distance. -/
def same (a b : Moment) : Bool :=
  match a.instant?, b.instant? with
  | some i, some j => i == j
  | none, none => a.ticks == b.ticks
  | _, _ => false

end Moment

def padded (width n : Nat) : List Char := Text.padLeft width '0' (Text.digitsOf n)

def Date.toChars (d : Date) : List Char :=
  padded 4 d.year ++ ['-'] ++ padded 2 d.month ++ ['-'] ++ padded 2 d.day

def Date.text (d : Date) : String := String.ofList d.toChars

namespace Moment

def offsetText (o : Int) : List Char :=
  let n := o.natAbs
  let micro := n % 1000000
  let second := n / 1000000 % 60
  [if o < 0 then '-' else '+'] ++ padded 2 (n / 3600000000) ++ [':']
    ++ padded 2 (n / 60000000 % 60)
    ++ (if second = 0 && micro = 0 then [] else ':' :: padded 2 second)
    ++ (if micro = 0 then [] else '.' :: padded 6 micro)

def clockText (t : Moment) : List Char :=
  padded 2 t.hour ++ [':'] ++ padded 2 t.minute ++ [':'] ++ padded 2 t.second
    ++ (if t.microsecond = 0 then [] else '.' :: padded 6 t.microsecond)

def zoneText (t : Moment) : List Char := (t.offset.map offsetText).getD []

def toChars (separator : Char) (t : Moment) : List Char :=
  t.date.toChars ++ [separator] ++ t.clockText ++ t.zoneText

def text (t : Moment) : String := String.ofList (t.toChars 'T')

end Moment

end LedgerRules.Calendar
