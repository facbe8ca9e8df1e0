import LedgerRules.Cache.Basic

/-! Checking a rule while it is written: what evaluation passes over in silence is told here. -/

namespace LedgerRules

inductive CheckFailure
  | malformed (reason : Malformed)
  | compile (failure : CompileFailure)
  | noDefinition
  | invalid (faults : List RecordFault)

structure Check where
  category : Except CheckFailure String
  cache : Cache
  reports : List Report

section
variable [Pattern.Engine]

namespace Check

def text (definition : String) (c : Cache) : Check :=
  match Definition.split definition with
  | .error reason => ⟨.error (.malformed reason), c, []⟩
  | .ok (condition, category) =>
    let l := c.getText condition
    ⟨l.found.mapError .compile |>.map fun _ => category, l.cache, l.reports⟩

/-- The category of a tree comes from beside it, and is looked at after the tree has compiled. -/
def tree (members : Members) (newCategory : Value) (c : Cache) : Check :=
  let l := c.getTree (.map members)
  match l.found with
  | .error failure => ⟨.error (.compile failure), l.cache, l.reports⟩
  | .ok _ =>
    let category :=
      match Rule.ofMembers "" [("rule_definition", .map members), ("new_category", newCategory)] with
      | .error faults => .error (.invalid faults)
      | .ok r => r.targetCategory.mapError .malformed
    ⟨category, l.cache, l.reports⟩

def definition (d newCategory : Value) (c : Cache) : Check :=
  match d with
  | .text s => text s c
  | .map members => tree members newCategory c
  | _ => ⟨.error .noDefinition, c, []⟩

end Check

end

end LedgerRules
