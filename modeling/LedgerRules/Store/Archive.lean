import LedgerRules.Json.Parser
import LedgerRules.Json.Printer
import LedgerRules.Store.Database

/-! Databases as texts: a first line that tells what follows, and the tables as JSON. -/

namespace LedgerRules.Database
open Numeric Calendar

def archiveHeader : List Char := "ledger rules, tables 1\n".toList

def TransactionRow.toValue (r : TransactionRow) : Value :=
  .map [("id", .text r.id), ("merchant", .text r.merchant), ("amount", .float r.amount),
    ("date", .text (readDate r.date).text), ("account", .text r.account),
    ("category", .text r.category)]

def RuleRow.toValue (r : RuleRow) : Value :=
  .map [("id", .text r.id), ("definition", r.definition.toValue),
    ("newCategory", (r.newCategory.map Value.text).getD .null)]

def archive (db : Database) : List Char :=
  archiveHeader ++ Json.spread 0 (.map [
    ("transactions", .list (db.transactions.map TransactionRow.toValue)),
    ("rules", .list (db.rules.map RuleRow.toValue))]) ++ ['\n']

def textMember (members : Members) (name : String) : Option String :=
  match members.get? name with
  | some (.text s) => some s
  | _ => none

def listMember (members : Members) (name : String) : Option (List Value) :=
  match members.get? name with
  | some (.list items) => some items
  | _ => none

def TransactionRow.ofValue? : Value → Option TransactionRow
  | .map members => do
    let id ← textMember members "id"
    let merchant ← textMember members "merchant"
    let amount ← match Members.get? members "amount" with
      | some (.float x) => some x
      | _ => none
    let date ← (IsoText.readMoment (← textMember members "date").toList).toOption
    let account ← textMember members "account"
    let category ← textMember members "category"
    return { id, merchant, amount, date := keptDate date, account, category }
  | _ => none

def RuleRow.ofValue? : Value → Option RuleRow
  | .map members => do
    let id ← textMember members "id"
    let definition ← match Members.get? members "definition" with
      | some (.text s) => some (.text s)
      | some (.map tree) => some (.tree tree)
      | _ => none
    return { id, definition, newCategory := textMember members "newCategory" }
  | _ => none

def ofArchive? (cs : List Char) : Option Database :=
  if archiveHeader.isPrefixOf cs then
    match Json.parseDocument (cs.drop archiveHeader.length) with
    | .ok (.map members) => do
      let transactions ← (← listMember members "transactions").mapM TransactionRow.ofValue?
      let rules ← (← listMember members "rules").mapM RuleRow.ofValue?
      return { transactions, rules }
    | _ => none
  else none

end LedgerRules.Database
