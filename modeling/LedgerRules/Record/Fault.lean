/-! What can be wrong with a record: a fault names its kind and the member it was found at. -/

namespace LedgerRules

inductive FaultKind
  | missing
  | textWanted
  | decimalWanted
  | badDecimal
  | infiniteNumber
  | momentWanted
  | badTimestamp
  | badDate
  | recordWanted (what : String)
  | mapWanted
  | frozen
  | noSuchField
  | badJson
deriving DecidableEq

def FaultKind.message : FaultKind → String
  | missing => "Field required"
  | textWanted => "Input should be a valid string"
  | decimalWanted => "Decimal input should be an integer, float, string or Decimal object"
  | badDecimal => "Input should be a valid decimal"
  | infiniteNumber => "Input should be a finite number"
  | momentWanted => "Input should be a valid datetime"
  | badTimestamp => "Input should be a valid datetime"
  | badDate => "Input should be a valid datetime or date"
  | recordWanted what => s!"Input should be a valid dictionary or instance of {what}"
  | mapWanted => "Input should be a valid dictionary"
  | frozen => "Field is frozen"
  | noSuchField => "Object has no such attribute"
  | badJson => "Invalid JSON"

structure RecordFault where
  kind : FaultKind
  path : List String
deriving DecidableEq

/-- A record is refused for its faults, or reading it ends at a date outside the calendar: one that
leaves it on the way to universal time, or one of the year 0. -/
inductive RecordFailure
  | invalid (faults : List RecordFault)
  | dateRange
  | yearZero
deriving DecidableEq

inductive Origin
  | values
  | json
deriving DecidableEq

end LedgerRules
