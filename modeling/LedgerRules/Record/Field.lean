import LedgerRules.Calendar.Timestamp
import LedgerRules.Record.Fault
import LedgerRules.Value.Basic

/-! Reading the members of a record. Each reader gives the value of a field or the one fault it has;
the faults of a record are those of its fields, in the order of the fields. -/

namespace LedgerRules.Record
open Numeric Calendar

def readString : Value → Except FaultKind String
  | .text s => .ok s
  | _ => .error .textWanted

def finiteOnly : Option Decimal → Except FaultKind Decimal
  | none => .error .badDecimal
  | some d => if d.isFinite then .ok d else .error .infiniteNumber

/-- A binary number in a JSON document is taken by its plain digits, elsewhere by its text. -/
def floatDecimal (origin : Origin) (x : Binary64) : Option Decimal :=
  match origin, x with
  | .json, .finite n m e =>
    if m = 0 then some (.finite n 0 0)
    else
      let (d, k) := Binary64.shortest m e
      Decimal.parse? (Decimal.signText n ++ Binary64.positionalText d k)
  | _, x => some x.toDecimal

def readDecimal (origin : Origin) : Value → Except FaultKind Decimal
  | .decimal d => finiteOnly (some d)
  | .text s => finiteOnly (Decimal.parse? s.toList)
  | .int i => .ok (.ofInt i)
  | .float x => finiteOnly (floatDecimal origin x)
  | _ => .error .decimalWanted

inductive MomentFailure
  | fault (kind : FaultKind)
  | yearZero
deriving DecidableEq

def ofTimestamp (kind : FaultKind) : Except TimestampFault Moment → Except MomentFailure Moment
  | .ok t => .ok t
  | .error .unreadable => .error (.fault kind)
  | .error .yearZero => .error .yearZero

def isWord (i : Int) : Bool := -Int.pow 2 63 ≤ i && i < Int.pow 2 63

def ofBinary (x : Binary64) : Except MomentFailure Moment :=
  ofTimestamp .badTimestamp (Timestamp.ofFloat x)

def readMoment (origin : Origin) : Value → Except MomentFailure Moment
  | .moment t => .ok t
  | .date d => .ok { Moment.midnight d with offset := none, near := by simp }
  | .text s => ofTimestamp .badDate (Timestamp.read s)
  | .int i =>
    if isWord i then ofTimestamp .badTimestamp (Timestamp.ofNumber i 0)
    else
      match origin, Binary64.ofScaled (i < 0) i.natAbs 0 with
      | .json, _ => .error (.fault .momentWanted)
      | _, .infinite _ => .error (.fault .momentWanted)
      | _, x => ofBinary x
  | .float x => ofBinary x
  | .decimal d =>
    if d.isSignaling then .error (.fault .momentWanted) else ofBinary (Binary64.ofDecimal d)
  | _ => .error (.fault .momentWanted)

def member {α : Type} (members : Members) (name : String) (default : Option α)
    (read : Value → Except FaultKind α) : Except (List RecordFault) α :=
  match members.get? name with
  | some v => (read v).mapError fun kind => [⟨kind, [name]⟩]
  | none =>
    match default with
    | some a => .ok a
    | none => .error [⟨.missing, [name]⟩]

def faultsOf {α : Type} : Except (List RecordFault) α → List RecordFault
  | .ok _ => []
  | .error faults => faults

end LedgerRules.Record
