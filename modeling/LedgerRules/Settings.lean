import LedgerRules.Condition.Budget
import LedgerRules.Numeric.Binary64
import LedgerRules.Rule.Reapply
import LedgerRules.Text.Integer

/-! What the surroundings decide: the time for a condition, the number of workers and the database.
A setting that cannot be read leaves the default in force. -/

namespace LedgerRules
open Numeric

abbrev Environment := List (String × String)

namespace Environment

def get? (env : Environment) (name : String) : Option String := env.lookup name

def integer? (env : Environment) (name : String) : Option Int :=
  (env.get? name).bind fun raw => if Text.trimmed raw = "" then none else Text.integer? raw

end Environment

structure Settings where
  budget : Option Binary64
  workers : Int
  databaseUrl : Option String
deriving DecidableEq

namespace Settings

def budgetVariable : String := "RULES_EVAL_BUDGET_MS"
def workersVariable : String := "RULES_MAX_WORKERS"
def databaseVariable : String := "DATABASE_URL"

def defaultBudget : Binary64 := .ofRatio false 1 1

inductive Fault
  | budgetTooLarge
deriving DecidableEq

def budgetOf : Option Int → Except Fault (Option Binary64)
  | none => .ok (some defaultBudget)
  | some ms =>
    if ms < 0 then .ok (some defaultBudget)
    else if ms = 0 then .ok none
    else
      match Binary64.ofRatio false ms.toNat 1000 with
      | .infinite _ => .error .budgetTooLarge
      | seconds => .ok (some seconds)

def workersOf : Option Int → Int
  | none => 1
  | some n => if n < 1 then 1 else min n maxWorkers

def urlOf (raw : Option String) : Option String :=
  let url := Text.trimmed (raw.getD "")
  if url = "" then none else some url

def ofEnvironment (env : Environment) : Except Fault Settings := do
  let budget ← budgetOf (env.integer? budgetVariable)
  return {
    budget
    workers := workersOf (env.integer? workersVariable)
    databaseUrl := urlOf (env.get? databaseVariable) }

theorem workersOf_mem (requested : Option Int) :
    1 ≤ workersOf requested ∧ workersOf requested ≤ 32 := by
  cases requested with
  | none => simp [workersOf]
  | some n =>
    simp only [workersOf, maxWorkers]
    split <;> omega

def evaluationBudget (s : Settings) : Budget := .ofRequest (s.budget.map Binary64.toDecimal)

end Settings

end LedgerRules
