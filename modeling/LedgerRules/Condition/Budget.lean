import LedgerRules.Numeric.Decimal

/-! The time that one run of a condition may take. The clock is looked at before comparisons, before
the parts of a joined condition and at searches; what it shows is given from outside. -/

namespace LedgerRules

inductive ClockReading
  | inTime
  | expired
  | interrupted
deriving DecidableEq

abbrev Clock := Nat → ClockReading

def Clock.unlimited : Clock := fun _ => .inTime

def Clock.over : Clock := fun _ => .expired

structure Budget where
  seconds : Option Numeric.Decimal

namespace Budget

def none : Budget := ⟨Option.none⟩

def isPositive (d : Numeric.Decimal) : Bool := d.order? .zero == some .gt

def ofRequest : Option Numeric.Decimal → Budget
  | Option.none => none
  | some d => if isPositive d then ⟨some d⟩ else none

def clockAfter (elapsed : Numeric.Decimal) (b : Budget) : Clock :=
  match b.seconds with
  | Option.none => Clock.unlimited
  | some d =>
    match d.order? elapsed with
    | some .gt => Clock.unlimited
    | _ => Clock.over

end Budget

end LedgerRules
