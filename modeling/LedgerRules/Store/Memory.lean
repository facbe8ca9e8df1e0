import LedgerRules.Rule.Reapply

/-! Transactions and rules held in lists, in the order in which they came. Saving a transaction puts
it at the first place that shows one of its id. -/

namespace LedgerRules

/-- Each place shows a transaction under a number; places with one number show the same one, and
change together. Numbers are given out in turn. -/
structure MemoryStore where
  places : List (Nat × Transaction)
  rules : List Rule
  numbered : Nat

inductive IntakeFault
  | unexpected (name : String)
  | missing (names : List String)
  | record (failure : RecordFailure)
deriving DecidableEq

namespace MemoryStore

def ofLists (transactions : List Transaction) (rules : List Rule) : MemoryStore :=
  ⟨transactions.zipIdx.map fun p => (p.2, p.1), rules, transactions.length⟩

def empty : MemoryStore := ofLists [] []

def transactions (s : MemoryStore) : List Transaction := s.places.map (·.2)

def place (p : Nat × Transaction) : List (Nat × Transaction) → List (Nat × Transaction)
  | [] => [p]
  | q :: rest => if q.2.id = p.2.id then p :: rest else q :: place p rest

def placeAll (us ps : List (Nat × Transaction)) : List (Nat × Transaction) :=
  us.foldl (fun ps u => place u ps) ps

def save (t : Transaction) (s : MemoryStore) : MemoryStore :=
  { s with places := place (s.numbered, t) s.places, numbered := s.numbered + 1 }

def addRule (r : Rule) (s : MemoryStore) : MemoryStore := { s with rules := s.rules ++ [r] }

theorem transactions_save_new {t : Transaction} {s : MemoryStore}
    (h : ∀ u ∈ s.transactions, u.id ≠ t.id) :
    (s.save t).transactions = s.transactions ++ [t] := by
  have go : ∀ ps : List (Nat × Transaction), (∀ u ∈ ps.map (·.2), u.id ≠ t.id) →
      (place (s.numbered, t) ps).map (·.2) = ps.map (·.2) ++ [t] := by
    intro ps
    induction ps with
    | nil => intro _; rfl
    | cons q rest ih =>
      intro hq
      have h₁ : q.2.id ≠ t.id := hq q.2 (by simp)
      have h₂ := ih fun u hu => hq u (by simp only [List.map_cons, List.mem_cons]; exact Or.inr hu)
      simp [place, h₁, h₂]
  exact go s.places h

def neededMembers : List String := ["merchant", "amount", "date", "account"]
def optionalMember : String := "category"

def intake (fresh : String) (members : Members) (s : MemoryStore) :
    Except IntakeFault (Transaction × MemoryStore) :=
  match members.find? fun m => !(optionalMember :: neededMembers).contains m.1 with
  | some m => .error (.unexpected m.1)
  | none =>
    let missing := neededMembers.filter fun name => (members.get? name).isNone
    if missing.isEmpty then
      match Transaction.ofMembers .values fresh members with
      | .error failure => .error (.record failure)
      | .ok t => .ok (t, s.save t)
    else .error (.missing missing)

def showCategories (set : Reapply.Assignments) (s : MemoryStore) : MemoryStore :=
  { s with
    places := s.places.map fun p =>
      match set.lookup p.1 with
      | some category => (p.1, { p.2 with category })
      | none => p }

def toSave (ids : List String) (s : MemoryStore) : List (Nat × Transaction) :=
  s.places.filter fun p => ids.contains p.2.id

def saveChanged (ids : List String) (s : MemoryStore) : MemoryStore :=
  { s with places := placeAll (s.toSave ids) s.places }

/-- A pass over the store: the ids of what it changed, the store and the cache after it, what was
saved and what was reported. -/
structure Applied where
  changedIds : Except PassFailure (List String)
  store : MemoryStore
  saved : List Transaction
  cache : Cache
  reports : List Report

def listing (s : MemoryStore) : List Place := s.places.map fun p => ⟨p.1, .transaction p.2⟩

def pass [Pattern.Engine] (clocks : Nat → Nat → Clock) (workers : Int) (s : MemoryStore)
    (c : Cache) : Pass :=
  LedgerRules.reapply clocks (fun _ => "") s.listing (s.rules.map .rule) workers c

/-- Applies all rules to all transactions. A category that is set shows at once, so it stays when
the pass ends early. -/
def reapply [Pattern.Engine] (clocks : Nat → Nat → Clock) (workers : Int) (s : MemoryStore)
    (c : Cache) : Applied :=
  let pass := s.pass clocks workers c
  let shown := s.showCategories pass.set
  match pass.changedIds with
  | .error failure => ⟨.error failure, shown, [], pass.cache, pass.reports⟩
  | .ok ids =>
    ⟨.ok ids, shown.saveChanged ids, (shown.toSave ids).map (·.2), pass.cache,
      pass.reports ++ [.saved ids.eraseDups.length]⟩

end MemoryStore

end LedgerRules
