import LedgerRules.Record.Field
import LedgerRules.Rule.Definition

/-! Rules: a definition, given as text or as a condition tree, and the category for what it matches.
A rule given as text carries its category in the text; the category stored beside it is derived from
there unless it is given. -/

namespace LedgerRules

inductive RuleBody
  | text (definition : String)
  | tree (members : Members)

structure Rule where
  id : String
  definition : RuleBody
  newCategory : Option String

namespace RuleBody

def toValue : RuleBody → Value
  | text s => .text s
  | tree members => .map members

/-- An empty text or an empty tree defines nothing. -/
def isEmpty : RuleBody → Bool
  | text s => s = ""
  | tree members => members.isEmpty

end RuleBody

namespace Rule

def targetCategory (r : Rule) : Except Malformed String :=
  match r.definition with
  | .text s => (Definition.split s).map (·.2)
  | .tree _ =>
    let category := Text.trim (r.newCategory.getD "").toList
    if category.isEmpty then .error .noTreeCategory else .ok (String.ofList category)

def either (members : Members) (name other : String) : Option (String × Value) :=
  match members.get? name with
  | some v => some (name, v)
  | none => (members.get? other).map (other, ·)

def isGiven (members : Members) (name : String) : Bool :=
  match members.get? name with
  | some v => !v.isNull
  | none => false

def deriveCategory (members : Members) : Members :=
  if isGiven members "new_category" || isGiven members "newCategory" then members
  else
    match either members "rule_definition" "ruleDefinition" with
    | some (_, .text s) =>
      match Definition.split s with
      | .ok (_, category) => members.set "new_category" (.text category)
      | .error _ => members
    | _ => members

def readDefinition (members : Members) : Except (List RecordFault) RuleBody :=
  match either members "ruleDefinition" "rule_definition" with
  | some (_, .text s) => .ok (.text s)
  | some (_, .map ms) => .ok (.tree ms)
  | some (name, _) =>
    .error [⟨.textWanted, [name, "str"]⟩, ⟨.mapWanted, [name, "dict[str,any]"]⟩]
  | none => .error [⟨.missing, ["ruleDefinition"]⟩]

def readCategory (members : Members) : Except (List RecordFault) (Option String) :=
  match either members "newCategory" "new_category" with
  | some (_, .text s) => .ok (some s)
  | some (_, .null) => .ok none
  | some (name, _) => .error [⟨.textWanted, [name]⟩]
  | none => .ok none

def ofMembers (fresh : String) (members : Members) : Except (List RecordFault) Rule :=
  let members := deriveCategory members
  let id := Record.member members "id" (some fresh) Record.readString
  let definition := readDefinition members
  let newCategory := readCategory members
  match id, definition, newCategory with
  | .ok id, .ok definition, .ok newCategory => .ok { id, definition, newCategory }
  | _, _, _ =>
    .error (Record.faultsOf id ++ Record.faultsOf definition ++ Record.faultsOf newCategory)

def validate (fresh : String) : Value → Except (List RecordFault) Rule
  | .map members => ofMembers fresh members
  | _ => .error [⟨.recordWanted "Rule", []⟩]

def ofText (fresh : String) (definition : String) : Rule :=
  { id := fresh, definition := .text definition,
    newCategory := ((Definition.split definition).map (·.2)).toOption }

def dump (r : Rule) : Members :=
  [("id", .text r.id), ("ruleDefinition", r.definition.toValue),
    ("newCategory", (r.newCategory.map Value.text).getD .null)]

end Rule

end LedgerRules
