import LedgerRules.CommandLine.Directory
import LedgerRules.Json.Parser
import LedgerRules.Json.Printer

/-! Data files: a JSON object that lists transactions and rules. Written back, every other member
stays as it was, in its place. -/

namespace LedgerRules.CommandLine

structure DataFile where
  raw : Members
  transactions : List Transaction
  rules : List Rule

/-- Why there is no data in a file. What is listed must be a list of some kind, and a date outside the
calendar or an integer too long to be read ends the program. -/
inductive DataFault
  | notJson (message : String)
  | notObject
  | badTransaction (faults : List RecordFault)
  | badRule (faults : List RecordFault)
  | notListed
  | dateRange
  | longInteger
deriving DecidableEq

namespace DataFile

def listed (raw : Members) (name : String) : Except DataFault (List Value) :=
  match raw.get? name with
  | none => .ok []
  | some (.list items) => .ok items
  | some (.map members) => .ok (members.map fun m => .text m.1)
  | some (.text s) => .ok (s.toList.map fun c => .text c.toString)
  | some _ => .error .notListed

def readTransactions (ids : Nat → String) : List Value → Except DataFault (List Transaction)
  | [] => .ok []
  | v :: rest =>
    match Transaction.validate .values (ids 0) v with
    | .error (.invalid faults) => .error (.badTransaction faults)
    | .error _ => .error .dateRange
    | .ok t => (readTransactions (fun n => ids (n + 1)) rest).map (t :: ·)

def readRules (ids : Nat → String) : List Value → Except DataFault (List Rule)
  | [] => .ok []
  | v :: rest =>
    match Rule.validate (ids 0) v with
    | .error faults => .error (.badRule faults)
    | .ok r => (readRules (fun n => ids (n + 1)) rest).map (r :: ·)

def ofMembers (ids : Nat → String) (raw : Members) : Except DataFault DataFile := do
  let items ← listed raw "transactions"
  let transactions ← readTransactions ids items
  let items ← listed raw "rules"
  let rules ← readRules (fun n => ids (transactions.length + n)) items
  return { raw, transactions, rules }

def read (ids : Nat → String) (cs : List Char) : Except DataFault DataFile :=
  match Json.parseDocument cs with
  | .error (.fault f) => .error (.notJson (f.message cs))
  | .error (.integer _) => .error .longInteger
  | .ok (.map raw) => ofMembers ids raw
  | .ok _ => .error .notObject

def members (f : DataFile) : Members :=
  (f.raw.set "transactions" (.list (f.transactions.map fun t => .map t.dump))).set "rules"
    (.list (f.rules.map fun r => .map r.dump))

def write (f : DataFile) : List Char := Json.spread 0 (.map f.members) ++ ['\n']

def withCategories (f : DataFile) (set : Reapply.Assignments) : DataFile :=
  { f with
    transactions := f.transactions.zipIdx.map fun (t, n) =>
      match set.lookup n with
      | some category => { t with category }
      | none => t }

end DataFile

end LedgerRules.CommandLine
