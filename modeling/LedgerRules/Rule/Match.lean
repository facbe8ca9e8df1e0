import LedgerRules.Cache.Basic
import LedgerRules.Rule.Subject

/-! Whether a rule matches. A rule that is malformed, does not compile or faults matches nothing, and
a report says so. -/

namespace LedgerRules

inductive RuleInput
  | absent
  | rule (r : Rule)
  | record (v : Value)

namespace RuleInput

def ofValue : Value → RuleInput
  | .null => absent
  | v => record v

def resolve (fresh : String) : RuleInput → Option Rule × List Report
  | absent => (none, [])
  | rule r => (some r, [])
  | record v =>
    match Rule.validate fresh v with
    | .ok r => (some r, [])
    | .error faults => (none, [.invalidRule faults])

end RuleInput

section
variable [Pattern.Engine]

namespace Rule

structure Search where
  found : Except Condition.Breakdown (Option Predicate)
  cache : Cache
  reports : List Report

def Search.ofLookup (rule : String) (l : Cache.Lookup) : Search :=
  match l.found with
  | .ok e => ⟨.ok (some e.predicate), l.cache, l.reports⟩
  | .error (.error e) => ⟨.ok none, l.cache, l.reports ++ [.compileFailed rule e]⟩
  | .error (.breakdown b) => ⟨.error b, l.cache, l.reports⟩

def predicate (r : Rule) (c : Cache) : Search :=
  match r.definition with
  | .tree members => .ofLookup r.id (c.getTree (.map members))
  | .text s =>
    match Definition.split s with
    | .ok (condition, _) => .ofLookup r.id (c.getText condition)
    | .error reason => ⟨.ok none, c, [.malformed r.id reason s]⟩

structure Evaluation where
  answer : Except Condition.Breakdown Bool
  cache : Cache
  reports : List Report

def decide (clock : Clock) (r : Rule) (s : Subject) (p : Predicate) : Bool × List Report :=
  match p.holds clock s.fields with
  | .ok b => (b, [])
  | .error (.timeout cause) => (false, [.timedOut r.id s.reportId cause])
  | .error fault => (false, [.faulted r.id s.reportId fault])

/-- Whether the rule matches. A rule without a definition matches nothing and is not reported. -/
def evaluate (r : Rule) (clock : Clock) (s : Subject) (c : Cache) : Evaluation :=
  if r.definition.isEmpty then ⟨.ok false, c, []⟩
  else
    let search := r.predicate c
    match search.found with
    | .error b => ⟨.error b, search.cache, search.reports⟩
    | .ok none => ⟨.ok false, search.cache, search.reports⟩
    | .ok (some p) =>
      let (answer, reports) := r.decide clock s p
      ⟨.ok answer, search.cache, search.reports ++ reports⟩

end Rule

def RuleInput.evaluate (input : RuleInput) (fresh : String) (clock : Clock) (s : Subject)
    (c : Cache) : Rule.Evaluation :=
  match input.resolve fresh with
  | (none, reports) => ⟨.ok false, c, reports⟩
  | (some r, reports) =>
    let e := r.evaluate clock s c
    { e with reports := reports ++ e.reports }

end

end LedgerRules
