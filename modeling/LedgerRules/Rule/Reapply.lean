import LedgerRules.Rule.Match

/-! Applying all rules to all transactions. For every transaction the rules are tried in their order,
and the first that matches decides the category. What is recategorized stays so even if the pass ends
early. -/

namespace LedgerRules

/-- A place in the list of transactions. Places with one number show the same transaction, so that
what is changed at one of them shows at all. -/
structure Place where
  number : Nat
  subject : Subject

def places (subjects : List Subject) : List Place :=
  subjects.zipIdx.map fun p => ⟨p.2, p.1⟩

inductive PassFailure
  | breakdown (b : Condition.Breakdown)
  | noCategory
  | longId
deriving DecidableEq

section
variable [Pattern.Engine]

namespace Reapply

structure Prepared where
  rules : List (Rule × String)
  reports : List Report

def prepare (ids : Nat → String) : List RuleInput → Prepared
  | [] => ⟨[], []⟩
  | input :: rest =>
    let later := prepare (fun n => ids (n + 1)) rest
    match input.resolve (ids 0) with
    | (none, reports) => ⟨later.rules, reports ++ later.reports⟩
    | (some r, reports) =>
      match r.targetCategory with
      | .ok category => ⟨(r, category) :: later.rules, reports ++ later.reports⟩
      | .error reason =>
        ⟨later.rules, reports ++ .skipped r.id reason r.definition.toValue :: later.reports⟩

structure Scan where
  target : Except Condition.Breakdown (Option String)
  cache : Cache
  reports : List Report

/-- The category of the first rule that matches; every run of a rule has a clock of its own. -/
def scan (clocks : Nat → Clock) (s : Subject) : List (Rule × String) → Cache → Scan
  | [], c => ⟨.ok none, c, []⟩
  | (r, category) :: rest, c =>
    let e := r.evaluate (clocks 0) s c
    match e.answer with
    | .error b => ⟨.error b, e.cache, e.reports⟩
    | .ok true => ⟨.ok (some category), e.cache, e.reports⟩
    | .ok false =>
      let later := scan (fun n => clocks (n + 1)) s rest e.cache
      { later with reports := e.reports ++ later.reports }

def newCategory (s : Subject) : Option String → Except PassFailure (Option String)
  | none => .ok none
  | some target =>
    match s.category? with
    | none => .error .noCategory
    | some v => .ok (if Subject.hasCategory target v then none else some target)

abbrev Assignments := List (Nat × String)

def Place.now (set : Assignments) (p : Place) : Subject :=
  match set.lookup p.number with
  | some category => p.subject.setCategory category
  | none => p.subject

structure Walk where
  changed : Except PassFailure (List Bool)
  set : Assignments
  cache : Cache
  reports : List Report

def walk (clocks : Nat → Nat → Clock) (rules : List (Rule × String)) :
    List Place → Assignments → Cache → Walk
  | [], set, c => ⟨.ok [], set, c, []⟩
  | p :: rest, set, c =>
    let s := Place.now set p
    let found := scan (clocks 0) s rules c
    let decided := (found.target.mapError PassFailure.breakdown).bind (newCategory s)
    match decided with
    | .error failure => ⟨.error failure, set, found.cache, found.reports⟩
    | .ok category =>
      let set := match category with
        | some g => (p.number, g) :: set
        | none => set
      let later := walk (fun n => clocks (n + 1)) rules rest set found.cache
      { later with
        changed := later.changed.map (category.isSome :: ·)
        reports := found.reports ++ later.reports }

def changedIds : List Place → List Bool → Except PassFailure (List String)
  | p :: places, true :: flags =>
    match p.subject.id? with
    | none => .error .longId
    | some id => (changedIds places flags).map (id :: ·)
  | _ :: places, false :: flags => changedIds places flags
  | _, _ => .ok []

end Reapply

def maxWorkers : Nat := 32

def workersFor (requested : Option Int) (items : Int) : Int :=
  let wanted := match requested with
    | none => 1
    | some n => if n < 1 then 1 else n
  max 1 (min (min wanted items) maxWorkers)

/-- A pass: the ids of what it changed, the categories it set, the cache after it and what was
reported. -/
structure Pass where
  changedIds : Except PassFailure (List String)
  set : Reapply.Assignments
  cache : Cache
  reports : List Report

namespace Pass

def message (ids : List String) : String := s!"Re-categorized {ids.length} transactions."

def subjects (p : Pass) (places : List Place) : List Subject :=
  places.map (Reapply.Place.now p.set)

end Pass

def reapply (clocks : Nat → Nat → Clock) (ids : Nat → String) (places : List Place)
    (rules : List RuleInput) (workers : Int) (c : Cache) : Pass :=
  let prepared := Reapply.prepare ids rules
  let walk := Reapply.walk clocks prepared.rules places [] c
  let changed := walk.changed.bind (Reapply.changedIds places)
  let done := match changed with
    | .error _ => []
    | .ok changed =>
      [.passDone places.length rules.length prepared.rules.length changed.length
        (workersFor (some workers) places.length).toNat]
  ⟨changed, walk.set, walk.cache, prepared.reports ++ walk.reports ++ done⟩

end

end LedgerRules
