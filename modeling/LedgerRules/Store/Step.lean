import LedgerRules.Store.Database
import LedgerRules.Store.Memory

/-! Steps that a store in memory and the tables of a database take alike. On the tables every step
has a session of its own. -/

namespace LedgerRules

/-- What is recategorized is what is listed at a position: there, or a copy of it that is saved. A
pass finds another cache on either side. -/
inductive StoreStep
  | save (t : Transaction)
  | recategorize (copied : Bool) (position : Nat) (category : String)
  | addRule (r : Rule)
  | reapply (workers : Int) (here there : Cache)

inductive StepFault
  | nothingListed
  | store (fault : StoreFault)

def StoreStep.takeAll {σ : Type} (take : StoreStep → σ → Except StepFault (List String × σ)) :
    List StoreStep → σ → Except StepFault (List (List String) × σ)
  | [], s => .ok ([], s)
  | step :: rest, s =>
    match take step s with
    | .error fault => .error fault
    | .ok (ids, s) => (takeAll take rest s).map fun (later, s) => (ids :: later, s)

section
variable [Pattern.Engine]

namespace MemoryStore

def recategorize (copied : Bool) (p : Nat × Transaction) (category : String) (s : MemoryStore) :
    MemoryStore :=
  let t := { p.2 with category }
  if copied then s.save t
  else
    let shown := s.showCategories [(p.1, category)]
    { shown with places := place (p.1, t) shown.places }

def take (step : StoreStep) (s : MemoryStore) : Except StepFault (List String × MemoryStore) :=
  match step with
  | .save t => .ok ([], s.save t)
  | .recategorize copied position category =>
    match s.places[position]? with
    | none => .error .nothingListed
    | some p => .ok ([], s.recategorize copied p category)
  | .addRule r => .ok ([], s.addRule r)
  | .reapply workers here _ =>
    let applied := s.reapply (fun _ _ => Clock.unlimited) workers here
    match applied.changedIds with
    | .error failure => .error (.store (.pass failure))
    | .ok ids => .ok (ids, applied.store)

end MemoryStore

namespace Database

def attempt (step : StoreStep) (db : Database) : Except StepFault (List String) × Database :=
  match step with
  | .save t => (.ok [], (db.save t).1)
  | .recategorize _ position category =>
    match db.listTransactions with
    | .error fault => (.error (.store fault), db)
    | .ok ts =>
      match ts[position]? with
      | none => (.error .nothingListed, db)
      | some t => (.ok [], (db.save { t with category }).1)
  | .addRule r =>
    match db.addRule r with
    | .error fault => (.error (.store fault), db)
    | .ok db => (.ok [], db)
  | .reapply workers _ there =>
    let applied := db.reapply (fun _ _ => Clock.unlimited) workers there
    (applied.changedIds.mapError .store, applied.database)

def take (step : StoreStep) (db : Database) : Except StepFault (List String × Database) :=
  match session (attempt step) db with
  | (.ok ids, db) => .ok (ids, db)
  | (.error fault, _) => .error fault

end Database

end

end LedgerRules
