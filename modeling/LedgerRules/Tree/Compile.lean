import LedgerRules.Condition.Eval
import LedgerRules.Condition.Parser
import LedgerRules.Tree.Key

/-! Conditions given as nested objects. An object with the operator AND or OR joins the conditions it
lists; any other compares a field, written as an operand of the condition language, with a value. -/

namespace LedgerRules

inductive TreeCause
  | tooDeep
  | notObject
  | noOperator
  | noConditions (operator : String)
  | noField
  | badField (field : String) (fault : Condition.Fault)
  | badValue
  | badComparison (cause : Condition.Cause)
  | textWanted (operator : String)
  | badFlags
  | unknownOperator (operator : String)
deriving DecidableEq

def TreeCause.message : TreeCause → String
  | tooDeep => s!"condition tree nested too deeply (limit {Condition.maxNesting})"
  | notObject => "expected an object"
  | noOperator => "missing 'operator'"
  | noConditions operator => s!"'{operator}' needs a non-empty 'conditions' list"
  | noField => "missing 'field'"
  | badField field fault => s!"invalid field {Text.quoted field}: {fault.message}"
  | badValue => "'value' must be a string or a number"
  | badComparison cause => cause.message
  | textWanted operator => s!"'{operator}' needs a string field and string value"
  | badFlags => "'flags' must be a string"
  | unknownOperator operator => "unsupported operator " ++ Text.quoted operator

/-- Why a condition, given as a text or as a tree, does not compile. The indices lead from the root
of a tree to the broken node. -/
inductive CompileError
  | condition (f : Condition.Fault)
  | tree (indices : List Nat) (cause : TreeCause)
deriving DecidableEq

def Tree.pathText (indices : List Nat) : String :=
  "$" ++ String.join (indices.map fun i => s!".conditions[{i}]")

namespace CompileError

def message : CompileError → String
  | condition f => f.message
  | tree indices cause => s!"{Tree.pathText indices}: {cause.message}"

def position : CompileError → Option Nat
  | condition f => f.pos
  | tree .. => none

end CompileError

inductive CompileFailure
  | error (e : CompileError)
  | breakdown (b : Condition.Breakdown)
deriving DecidableEq

def CompileFailure.ofCondition : Condition.Failure → CompileFailure
  | .fault f => error (.condition f)
  | .breakdown b => breakdown b

section
variable [Pattern.Engine]

namespace Tree

def fail {α : Type} (indices : List Nat) (cause : TreeCause) : Except CompileFailure α :=
  .error (.error (.tree indices cause))

def comparison? : String → Option CompareOp
  | "==" => some .same
  | "===" => some .same
  | "!=" => some .different
  | "!==" => some .different
  | ">" => some .greater
  | "<" => some .less
  | ">=" => some .atLeast
  | "<=" => some .atMost
  | _ => none

def literal (indices : List Nat) (v : Value) : Except CompileFailure Expr :=
  match v with
  | .text s => .ok (.text s)
  | v =>
    match v.number? with
    | some d => .ok (.number d)
    | none => fail indices .badValue

def fieldOperand (indices : List Nat) (members : Members) : Except CompileFailure Expr :=
  match members.get? "field" with
  | some (.text s) =>
    if (Text.trim s.toList).isEmpty then fail indices .noField
    else
      match Condition.parseOperand s with
      | .ok e => .ok e
      | .error (.fault f) => fail indices (.badField s f)
      | .error (.breakdown b) => .error (.breakdown b)
  | _ => fail indices .noField

def searchNode (indices : List Nat) (members : Members) (target : Expr) (body : String) :
    Except CompileFailure Expr :=
  match (members.get? "flags").getD (.text "i") with
  | .text flags =>
    match Condition.compilePattern body flags with
    | .ok p => .ok (.search p target)
    | .error f => .error (.ofCondition (f.failure none))
  | _ => fail indices .badFlags

def leaf (indices : List Nat) (members : Members) (operator : String) :
    Except CompileFailure Expr := do
  let target ← fieldOperand indices members
  let value ← literal indices ((members.get? "value").getD .null)
  match comparison? operator with
  | some op =>
    match Condition.makeComparison op target value with
    | .ok e => return e
    | .error cause => fail indices (.badComparison cause)
  | none =>
    if operator = "contains" || operator = "matches" then
      match target.type, value with
      | .text, .text body =>
        if operator = "contains" then return .includes target value
        else searchNode indices members target body
      | _, _ => fail indices (.textWanted operator)
    else fail indices (.unknownOperator operator)

def joinKind? (operator : String) : Option Join :=
  match String.ofList (Text.toUpper operator.toList) with
  | "AND" => some .all
  | "OR" => some .any
  | _ => none

def joinParts (kind : Join) : Expr → List Expr → Expr
  | e, [] => e
  | e, part :: rest => joinParts kind (.join kind e part) rest

def build : (room : Nat) → (indices : List Nat) → Value → Except CompileFailure Expr
  | 0, indices, _ => fail indices .tooDeep
  | room + 1, indices, .map members =>
    match Members.get? members "operator" with
    | some (.text operator) =>
      match joinKind? operator with
      | some kind =>
        match Members.get? members "conditions" with
        | some (.list (first :: rest)) => do
          let e ← build room (indices ++ [0]) first
          let parts ← rest.zipIdx.mapM fun p => build room (indices ++ [p.2 + 1]) p.1
          return joinParts kind e parts
        | _ => fail indices (.noConditions operator)
      | none => leaf indices members operator
    | _ => fail indices .noOperator
  | _ + 1, indices, _ => fail indices .notObject

def compile (tree : Value) : Except CompileFailure Predicate :=
  match key tree with
  | .error b => .error (.breakdown b)
  | .ok source => (build (Condition.maxNesting + 1) [] tree).map (⟨source, ·⟩)

end Tree

def Condition.compile (source : String) : Except CompileFailure Predicate :=
  match Condition.parseCondition source with
  | .ok e => .ok ⟨Text.trimmed source, e⟩
  | .error f => .error (.ofCondition f)

end

end LedgerRules
