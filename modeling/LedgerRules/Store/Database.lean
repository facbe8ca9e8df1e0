import LedgerRules.Rule.Reapply

/-! Transactions and rules in the tables of a database. Amounts are kept as binary numbers and read
back with two digits after the point; dates are kept as a clock of universal time shows them. No id
occurs twice in a table. Steps are run in a session, which leaves the tables as they were if one of
its steps fails. -/

namespace LedgerRules
open Numeric Calendar

structure Reading where
  ticks : Nat
  inRange : ticks < lastOrdinal * dayMicros
deriving DecidableEq

structure TransactionRow where
  id : String
  merchant : String
  amount : Binary64
  date : Reading
  account : String
  category : String
deriving DecidableEq

structure RuleRow where
  id : String
  definition : RuleBody
  newCategory : Option String

structure Database where
  transactions : List TransactionRow
  rules : List RuleRow

/-- Why a step on the tables fails: the id of a rule is taken, a tree holds what JSON cannot write,
a row cannot be read back, or applying the rules fails. -/
inductive StoreFault
  | takenId
  | unwritable
  | unreadable (faults : List RecordFault)
  | pass (failure : PassFailure)
deriving DecidableEq

namespace Database

def empty : Database := ⟨[], []⟩

def keptAmount (d : Decimal) : Binary64 :=
  let x := Binary64.ofDecimal d
  if x.isZero then .zero false else x

def readAmount : Binary64 → Except RecordFault Decimal
  | .finite n m e => .ok (Binary64.fixedTwo n m e)
  | _ => .error ⟨.infiniteNumber, ["amount"]⟩

def keptDate (t : Moment) : Reading :=
  let u := t.toUtc?.getD t
  ⟨u.ticks, u.inRange⟩

def readDate (r : Reading) : Moment := ⟨r.ticks, some 0, r.inRange, Moment.near_zero⟩

def TransactionRow.ofTransaction (t : Transaction) : TransactionRow :=
  ⟨t.id, t.merchant, keptAmount t.amount, keptDate t.date, t.account, t.category⟩

def TransactionRow.read (r : TransactionRow) : Except StoreFault Transaction :=
  match readAmount r.amount with
  | .error fault => .error (.unreadable [fault])
  | .ok amount => .ok ⟨r.id, r.merchant, amount, readDate r.date, r.account, r.category⟩

mutual

def isJson : Value → Bool
  | .null => true
  | .bool _ => true
  | .int i => digitCount i.natAbs ≤ Text.longestInteger
  | .float _ => true
  | .text _ => true
  | .list items => allJson items
  | .map members => allMembersJson members
  | _ => false

def allJson : List Value → Bool
  | [] => true
  | v :: rest => isJson v && allJson rest

def allMembersJson : List (String × Value) → Bool
  | [] => true
  | (_, v) :: rest => isJson v && allMembersJson rest

end

def RuleRow.ofRule (r : Rule) : Except StoreFault RuleRow :=
  if isJson r.definition.toValue then .ok ⟨r.id, r.definition, r.newCategory⟩
  else .error .unwritable

def RuleRow.read (r : RuleRow) : Except StoreFault Rule :=
  (Rule.ofMembers "" [("id", .text r.id), ("rule_definition", r.definition.toValue),
    ("new_category", (r.newCategory.map Value.text).getD .null)]).mapError .unreadable

def listTransactions (db : Database) : Except StoreFault (List Transaction) :=
  db.transactions.mapM TransactionRow.read

def listRules (db : Database) : Except StoreFault (List Rule) := db.rules.mapM RuleRow.read

/-- Inserts a transaction; of one that is there only the category is updated. -/
def save (t : Transaction) (db : Database) : Database × Report :=
  if db.transactions.any (·.id = t.id) then
    ({ db with
        transactions := db.transactions.map fun r =>
          if r.id = t.id then { r with category := t.category } else r },
      .categoryUpdated t.id t.category)
  else
    ({ db with transactions := db.transactions ++ [TransactionRow.ofTransaction t] },
      .inserted t.id)

def addRule (r : Rule) (db : Database) : Except StoreFault Database := do
  let row ← RuleRow.ofRule r
  if db.rules.any (·.id = r.id) then throw .takenId
  return { db with rules := db.rules ++ [row] }

def saveAll : List Transaction → Database → Database × List Report
  | [], db => (db, [])
  | t :: rest, db =>
    let (db, report) := db.save t
    let (db, reports) := saveAll rest db
    (db, report :: reports)

structure Applied where
  changedIds : Except StoreFault (List String)
  database : Database
  saved : List Transaction
  cache : Cache
  reports : List Report

def toSave (ids : List String) (set : Reapply.Assignments) (ts : List Transaction) :
    List Transaction :=
  ts.zipIdx.filterMap fun (t, n) =>
    if ids.contains t.id then some { t with category := (set.lookup n).getD t.category } else none

def reapply [Pattern.Engine] (clocks : Nat → Nat → Clock) (workers : Int) (db : Database)
    (c : Cache) : Applied :=
  match db.listTransactions, db.listRules with
  | .error fault, _ => ⟨.error fault, db, [], c, []⟩
  | _, .error fault => ⟨.error fault, db, [], c, []⟩
  | .ok transactions, .ok rules =>
    let places := places (transactions.map .transaction)
    let pass := LedgerRules.reapply clocks (fun _ => "") places (rules.map .rule) workers c
    match pass.changedIds with
    | .error failure => ⟨.error (.pass failure), db, [], pass.cache, pass.reports⟩
    | .ok ids =>
      let changed := toSave ids pass.set transactions
      let (db, reports) := saveAll changed db
      ⟨.ok ids, db, changed, pass.cache, pass.reports ++ reports ++ [.saved ids.eraseDups.length]⟩

def session {ε α : Type} (step : Database → Except ε α × Database) (db : Database) :
    Except ε α × Database :=
  match step db with
  | (.ok a, after) => (.ok a, after)
  | (.error e, _) => (.error e, db)

theorem session_error {ε α : Type} {step : Database → Except ε α × Database} {db : Database} {e : ε}
    (h : (step db).1 = .error e) : session step db = (.error e, db) := by
  unfold session
  split
  · simp_all
  · simp_all

/-- What the caller does next in a block: it saves a transaction, appends a rule, applies the rules
and goes on or not where that fails, or fails on its own account. -/
inductive Action
  | save (t : Transaction)
  | addRule (r : Rule)
  | reapply (goesOn : Bool) (clocks : Nat → Nat → Clock) (workers : Int) (c : Cache)
  | giveUp

structure Journal where
  saved : List Transaction
  added : List Rule

def Journal.empty : Journal := ⟨[], []⟩

def Journal.then (done next : Journal) : Journal :=
  ⟨done.saved ++ next.saved, done.added ++ next.added⟩

inductive BlockFault
  | store (fault : StoreFault)
  | givenUp

section
variable [Pattern.Engine]

def Action.run (db : Database) : Action → Except BlockFault Journal × Database
  | save t => (.ok ⟨[t], []⟩, (db.save t).1)
  | addRule r =>
    match db.addRule r with
    | .ok db => (.ok ⟨[], [r]⟩, db)
    | .error fault => (.error (.store fault), db)
  | reapply goesOn clocks workers c =>
    let applied := db.reapply clocks workers c
    match applied.changedIds with
    | .ok _ => (.ok ⟨applied.saved, []⟩, applied.database)
    | .error fault =>
      (if goesOn then .ok Journal.empty else .error (.store fault), applied.database)
  | giveUp => (.error .givenUp, db)

def runAll : List Action → Database → Except BlockFault Journal × Database
  | [], db => (.ok .empty, db)
  | a :: rest, db =>
    match a.run db with
    | (.error fault, db) => (.error fault, db)
    | (.ok done, db) =>
      let (later, db) := runAll rest db
      (later.map done.then, db)

def block (actions : List Action) (db : Database) : Except BlockFault Journal × Database :=
  session (runAll actions) db

/-- The tables, and all that was saved and appended in blocks that did not fail. -/
structure Ledger where
  database : Database
  journal : Journal

namespace Ledger

def empty : Ledger := ⟨.empty, .empty⟩

def after (s : Ledger) (actions : List Action) : Ledger :=
  match block actions s.database with
  | (.ok done, db) => ⟨db, s.journal.then done⟩
  | (.error _, db) => ⟨db, s.journal⟩

/-- What blocks in turn make of tables that are empty. -/
def history (blocks : List (List Action)) : Ledger := blocks.foldl after empty

end Ledger

end

end Database

end LedgerRules
