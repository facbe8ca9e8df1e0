import LedgerRules.Cache.Call
import LedgerRules.ParallelMap
import LedgerRules.Rule.Reapply

/-! A pass on several workers. Each worker applies the rules to one transaction, in steps between
which the others take theirs; all share one cache. Transactions are handed out in their order and
the flags of those that are done are gathered, as by a parallel map. -/

namespace LedgerRules

/-- What a rule asks of the cache. A rule that matches nothing asks nothing, and a tree without a
key breaks down before it asks. -/
inductive Request
  | nothing
  | lookup (key : CacheKey) (compiled : Except CompileFailure Predicate)
  | breakdown (b : Condition.Breakdown)

section
variable [Pattern.Engine]

def Rule.request (r : Rule) : Request :=
  if r.definition.isEmpty then .nothing
  else
    match r.definition with
    | .tree members =>
      match Tree.key (.map members) with
      | .ok text => .lookup ⟨.tree, text⟩ (Tree.compile (.map members))
      | .error b => .breakdown b
    | .text s =>
      match Definition.split s with
      | .ok (condition, _) =>
        let key := Cache.textKey condition
        .lookup key (Condition.compile key.text)
      | .error _ => .nothing

namespace Reapply

/-- What a worker is about to do: to try the rules that are left, to go on with the lookup for the
first of them, to apply its condition, or to give the transaction the category it decides on. -/
inductive Activity
  | scanning (rules : List (Rule × String))
  | looking (r : Rule) (category : String) (call : Cache.Call) (later : List (Rule × String))
  | applying (r : Rule) (category : String) (p : Predicate) (later : List (Rule × String))
  | assigning (category : String)
  | ended (changed : Except PassFailure Bool)

structure Worker where
  place : Place
  activity : Activity

structure Shared where
  set : Assignments
  cache : Cache

namespace Worker

def start (rules : List (Rule × String)) (p : Place) : Worker := ⟨p, .scanning rules⟩

def turnTo (w : Worker) (a : Activity) : Worker := { w with activity := a }

def step (clock : Clock) (w : Worker) (s : Shared) : Worker × Shared :=
  match w.activity with
  | .scanning [] => (w.turnTo (.ended (.ok false)), s)
  | .scanning ((r, category) :: later) =>
    match r.request with
    | .nothing => (w.turnTo (.scanning later), s)
    | .breakdown b => (w.turnTo (.ended (.error (.breakdown b))), s)
    | .lookup key compiled => (w.turnTo (.looking r category (.ask key compiled) later), s)
  | .looking r category call later =>
    match call.stage with
    | .answered (.ok e) => (w.turnTo (.applying r category e.predicate later), s)
    | .answered (.error (.error _)) => (w.turnTo (.scanning later), s)
    | .answered (.error (.breakdown b)) => (w.turnTo (.ended (.error (.breakdown b))), s)
    | _ =>
      let (call, cache) := call.step s.cache
      (w.turnTo (.looking r category call later), { s with cache })
  | .applying r category p later =>
    if (r.decide clock (Place.now s.set w.place) p).1 then (w.turnTo (.assigning category), s)
    else (w.turnTo (.scanning later), s)
  | .assigning category =>
    match newCategory (Place.now s.set w.place) (some category) with
    | .error failure => (w.turnTo (.ended (.error failure)), s)
    | .ok none => (w.turnTo (.ended (.ok false)), s)
    | .ok (some g) =>
      (w.turnTo (.ended (.ok true)), { s with set := (w.place.number, g) :: s.set })
  | .ended _ => (w, s)

def hasEnded (w : Worker) : Bool :=
  match w.activity with
  | .ended _ => true
  | _ => false

def changed (w : Worker) : Except PassFailure Bool :=
  match w.activity with
  | .ended changed => changed
  | _ => .ok false

end Worker

structure Crew where
  progress : ParallelMap.Progress Worker Bool
  shared : Shared

namespace Crew
open ParallelMap (Progress)

def start (concurrency : Nat) (rules : List (Rule × String)) (ps : List Place) (c : Cache) : Crew :=
  ⟨(Progress.start (ps.map (Worker.start rules))).handOut concurrency, ⟨[], c⟩⟩

/-- What can happen next: one of the workers under way takes a step, or some of those that have
ended are gathered, none of which failed, and as many new ones are handed out. -/
inductive Move (clock : Clock) : Crew → Crew → Prop
  | work {s : Crew} {before after : List (Worker × Nat)} {w : Worker} {position : Nat} :
      s.progress.pending = before ++ (w, position) :: after → w.hasEnded = false →
      Move clock s
        ⟨{ s.progress with
            pending := before ++ ((w.step clock s.shared).1, position) :: after },
          (w.step clock s.shared).2⟩
  | gather {s : Crew} {done : List Nat} {progress : Progress Worker Bool} :
      done ≠ [] → done.Nodup →
      (∀ position ∈ done, ∃ w, (w, position) ∈ s.progress.pending ∧ w.hasEnded = true) →
      s.progress.collectAll Worker.changed done = .ok progress →
      Move clock s ⟨progress.handOut done.length, s.shared⟩

def Failed (s : Crew) : Prop := ∃ q ∈ s.progress.pending, ∃ f, q.1.activity = .ended (.error f)

def changedIds (ps : List Place) (s : Crew) : Except PassFailure (List String) :=
  Reapply.changedIds ps s.progress.ordered

def subjects (ps : List Place) (s : Crew) : List Subject := ps.map (Place.now s.shared.set)

end Crew

end Reapply

end

end LedgerRules
