import LedgerRules.Record.Transaction
import LedgerRules.Tree.Key

/-! What rules are applied to: a transaction, or a record that was never read as one. Rules look at
the fields of both alike. A record that is no map has no fields, and no category can be set on it. -/

namespace LedgerRules

inductive Subject
  | transaction (t : Transaction)
  | record (v : Value)

namespace Subject

def fields : Subject → FieldValues
  | transaction t => t.fields
  | record (.map members) => fun f => Members.get? members f.name
  | record _ => fun _ => none

def reportId : Subject → String
  | transaction t => t.id
  | record (.map members) => ((Members.get? members "id").getD .null).display
  | record _ => Value.null.display

def id? : Subject → Option String
  | transaction t => some t.id
  | record (.map members) =>
    let v := (Members.get? members "id").getD (.text "")
    if Tree.hasLongInteger v then none else some v.display
  | record _ => none

/-- The category, if there can be one. A map without it counts as uncategorized. -/
def category? : Subject → Option Value
  | transaction t => some (.text t.category)
  | record (.map members) =>
    some ((Members.get? members "category").getD (.text defaultCategory))
  | record _ => none

def setCategory (category : String) : Subject → Subject
  | transaction t => transaction { t with category }
  | record (.map members) => record (.map (Members.set members "category" (.text category)))
  | record v => record v

def hasCategory (category : String) : Value → Bool
  | .text s => s = category
  | _ => false

end Subject

end LedgerRules
