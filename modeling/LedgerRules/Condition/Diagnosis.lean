import LedgerRules.Condition.Parser

/-! What is reported of a text that is no condition. The fault is reported together with the text
that its position counts in, which has no blanks at its ends. -/

namespace LedgerRules.Condition

structure Diagnosis where
  source : String
  fault : Fault
deriving DecidableEq

def diagnosis? [Pattern.Engine] (source : String) : Option Diagnosis :=
  let text := Text.trimmed source
  match parseCondition text with
  | .error (.fault f) => some ⟨text, f⟩
  | _ => none

end LedgerRules.Condition
