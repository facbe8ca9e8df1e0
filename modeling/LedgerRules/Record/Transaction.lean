import LedgerRules.Condition.Eval
import LedgerRules.Record.Field

/-! Transactions. Only the category of a transaction ever changes; its date is kept in universal
time. -/

namespace LedgerRules
open Numeric Calendar

structure Transaction where
  id : String
  merchant : String
  amount : Decimal
  date : Moment
  account : String
  category : String
deriving DecidableEq

def defaultCategory : String := "Uncategorized"

namespace Transaction

def fields (t : Transaction) : FieldValues
  | .merchant => some (.text t.merchant)
  | .amount => some (.decimal t.amount)
  | .date => some (.moment t.date)
  | .account => some (.text t.account)
  | .category => some (.text t.category)

def readDate (origin : Origin) (members : Members) : Except RecordFailure (Except RecordFault Moment) :=
  match members.get? "date" with
  | none => .ok (.error ⟨.missing, ["date"]⟩)
  | some v =>
    match Record.readMoment origin v with
    | .error (.fault kind) => .ok (.error ⟨kind, ["date"]⟩)
    | .error .yearZero => .error .yearZero
    | .ok t =>
      match t.toUtc? with
      | some u => .ok (.ok u)
      | none => .error .dateRange

def ofMembers (origin : Origin) (fresh : String) (members : Members) :
    Except RecordFailure Transaction :=
  let text (name : String) (default : Option String) :=
    Record.member members name default Record.readString
  let id := text "id" (some fresh)
  let merchant := text "merchant" none
  let amount := Record.member members "amount" none (Record.readDecimal origin)
  let account := text "account" none
  let category := text "category" (some defaultCategory)
  match readDate origin members with
  | .error failure => .error failure
  | .ok date =>
    match id, merchant, amount, date, account, category with
    | .ok id, .ok merchant, .ok amount, .ok date, .ok account, .ok category =>
      .ok { id, merchant, amount, date, account, category }
    | _, _, _, _, _, _ =>
      .error (.invalid (Record.faultsOf id ++ Record.faultsOf merchant ++ Record.faultsOf amount
        ++ Record.faultsOf (date.mapError fun f => [f]) ++ Record.faultsOf account
        ++ Record.faultsOf category))

def validate (origin : Origin) (fresh : String) : Value → Except RecordFailure Transaction
  | .map members => ofMembers origin fresh members
  | _ => .error (.invalid [⟨.recordWanted "Transaction", []⟩])

def assign (t : Transaction) (name : String) (v : Value) : Except RecordFailure Transaction :=
  if name = "category" then
    match v with
    | .text s => .ok { t with category := s }
    | _ => .error (.invalid [⟨.textWanted, [name]⟩])
  else if ["id", "merchant", "amount", "date", "account"].contains name then
    .error (.invalid [⟨.frozen, [name]⟩])
  else .error (.invalid [⟨.noSuchField, [name]⟩])

def dateText (t : Transaction) : String :=
  String.ofList (t.date.date.toChars ++ ['T'] ++ t.date.clockText ++ ['Z'])

def dump (t : Transaction) : Members :=
  [("id", .text t.id), ("merchant", .text t.merchant), ("amount", .text t.amount.text),
    ("date", .text t.dateText), ("account", .text t.account), ("category", .text t.category)]

end Transaction

end LedgerRules
