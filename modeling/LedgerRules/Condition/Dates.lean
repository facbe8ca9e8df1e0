import LedgerRules.Condition.Expr
import LedgerRules.Value.Shown

/-! Dates as conditions see them: every value that means a date is first brought to universal time,
so that the answer does not hang on the clock that wrote it. -/

namespace LedgerRules
open Calendar

/-- Why a value gives no date: it is of a kind that never does, its text is no date, or it lies
outside the calendar when brought to universal time. -/
inductive DateFault
  | notADate (kind : String)
  | badText (source : String) (fault : IsoFault)
  | outOfRange
deriving DecidableEq

def DateFault.message : DateFault → String
  | notADate kind => "expected a date, got " ++ kind
  | badText source fault => fault.message source
  | outOfRange => "date value out of range"

def Calendar.Moment.utc (t : Moment) : Except DateFault Moment :=
  match t.toUtc? with
  | some u => .ok u
  | none => .error .outOfRange

namespace Value

def toUtc : Value → Except DateFault Moment
  | moment t => t.utc
  | date d => .ok (.midnight d)
  | text s =>
    let cs := Text.trim s.toList
    match IsoText.readMoment cs with
    | .ok t => t.utc
    | .error f => .error (.badText (String.ofList cs) f)
  | v => .error (.notADate v.kindName)

end Value

def DatePart.ofDate (d : Date) : DatePart → Except DateFault Value
  | dayOfWeek => .ok (.int d.weekday)
  | month => .ok (.int d.month)
  | year => .ok (.int d.year)
  | day => .ok (.int d.day)
  | isWeekend => .ok (.bool (d.weekday = 0 || d.weekday = 6))
  | weekNumber =>
    match d.weekNumber? with
    | some n => .ok (.int n)
    | none => .error .outOfRange

def DatePart.eval (p : DatePart) (v : Value) : Except DateFault Value :=
  match v.toUtc with
  | .ok t => p.ofDate t.date
  | .error f => .error f

theorem DatePart.eval_of_toUtc {v : Value} {t : Moment} (p : DatePart) (h : v.toUtc = .ok t) :
    p.eval v = p.ofDate t.date := by
  simp [DatePart.eval, h]

end LedgerRules
