import LedgerRules.Condition.Budget
import LedgerRules.Condition.Dates
import LedgerRules.Text.Case
import LedgerRules.Value.Equality

/-! The value of an expression on a record. Operands are taken from left to right, and a joined
condition stops at the first part that decides it. A fault ends the evaluation. -/

namespace LedgerRules
open Numeric

inductive EvalCause
  | missingField (name : String)
  | textWanted (what kind : String)
  | badDate (part : DatePart) (fault : DateFault)
  | numbersWanted (op : CompareOp) (left right : String)
  | unordered (left right : Decimal)
deriving DecidableEq

def EvalCause.message : EvalCause → String
  | missingField name => "transaction has no field " ++ Text.quoted name
  | textWanted what kind => s!"{what} expects a string, got {kind}"
  | badDate part fault => s!"{part.name}() failed: {fault.message}"
  | numbersWanted op left right =>
    s!"operator {Text.quoted op.text} needs numbers, got {left} and {right}"
  | unordered left right => s!"cannot order {left.text} and {right.text}"

inductive Timeout
  | exhausted
  | beforeSearch
  | duringSearch (pattern : String)
deriving DecidableEq

def Timeout.message : Timeout → String
  | exhausted => "evaluation budget exhausted"
  | beforeSearch => "evaluation budget exhausted before regex search"
  | duringSearch pattern => s!"regex /{pattern}/ exceeded the evaluation budget"

/-- What can end an evaluation without a value: a fault of the condition on this record, the end of
the time allowed, a comparison with a signaling not-a-number, or a date outside the calendar. -/
inductive EvalFault
  | rule (cause : EvalCause)
  | timeout (cause : Timeout)
  | signaling
  | dateRange
deriving DecidableEq

def EvalFault.message : EvalFault → String
  | rule cause => cause.message
  | timeout cause => cause.message
  | signaling => "[<class 'decimal.InvalidOperation'>]"
  | dateRange => "date value out of range"

abbrev Eval (α : Type) := Nat → Except EvalFault α × Nat

namespace Eval

def value {α : Type} (a : α) : Eval α := fun n => (.ok a, n)

def fault {α : Type} (f : EvalFault) : Eval α := fun n => (.error f, n)

def andThen {α β : Type} (x : Eval α) (f : α → Eval β) : Eval β := fun n =>
  match x n with
  | (.ok a, n') => f a n'
  | (.error e, n') => (.error e, n')

theorem value_andThen {α β : Type} (a : α) (f : α → Eval β) : andThen (value a) f = f a := rfl

def look (clock : Clock) : Eval ClockReading := fun n => (.ok (clock n), n + 1)

def check (clock : Clock) : Eval Unit :=
  andThen (look clock) fun r =>
    if r = .expired then fault (.timeout .exhausted) else value ()

def ofExcept {α : Type} : Except EvalFault α → Eval α
  | .ok a => value a
  | .error f => fault f

end Eval

open Eval

abbrev FieldValues := Field → Option Value

def readField (record : FieldValues) (f : Field) : Except EvalFault Value :=
  match record f with
  | some v => .ok v
  | none => .error (.rule (.missingField f.name))

def requireText (what : String) : Value → Except EvalFault String
  | .text s => .ok s
  | v => .error (.rule (.textWanted what v.kindName))

def evalDatePart (p : DatePart) (v : Value) : Except EvalFault Value :=
  match p.eval v with
  | .ok w => .ok w
  | .error .outOfRange => .error .dateRange
  | .error f => .error (.rule (.badDate p f))

def CompareOp.accepts (op : CompareOp) (o : Ordering) : Bool :=
  match op with
  | same => o == .eq
  | different => o != .eq
  | greater => o == .gt
  | less => o == .lt
  | atLeast => o != .lt
  | atMost => o != .gt

def evalEquality (v w : Value) : Except EvalFault Bool :=
  match v.strictEquals w with
  | .ok b => .ok b
  | .error .signaling => .error .signaling

def evalCompare (op : CompareOp) (v w : Value) : Except EvalFault Bool :=
  match op with
  | .same => evalEquality v w
  | .different => (evalEquality v w).map (!·)
  | op =>
    match v.number?, w.number? with
    | some a, some b =>
      match a.order? b with
      | some o => .ok (op.accepts o)
      | none => .error (.rule (.unordered a b))
    | _, _ => .error (.rule (.numbersWanted op v.kindName w.kindName))

def Expr.readsSame : Expr → Expr → Bool
  | .field f, .field g => f = g
  | _, _ => false

/-- Compares the values of two operands. A list or a map is the same as itself, also if it holds
what equals nothing. -/
def evalOperands (op : CompareOp) (l r : Expr) (v w : Value) : Except EvalFault Bool :=
  if l.readsSame r && v.isCollection && !op.isOrdering then .ok (op.accepts .eq)
  else evalCompare op v w

theorem evalOperands_scalar {v : Value} (h : v.isCollection = false) (op : CompareOp) (l r : Expr)
    (w : Value) : evalOperands op l r v w = evalCompare op v w := by
  simp [evalOperands, h]

def occursIn (needle : List Char) : List Char → Bool
  | [] => needle.isEmpty
  | c :: rest => needle.isPrefixOf (c :: rest) || occursIn needle rest

def changeCase (upper : Bool) (s : String) : String :=
  String.ofList (if upper then Text.toUpper s.toList else Text.toLower s.toList)

def caseMethod (upper : Bool) : String := if upper then "toUpperCase()" else "toLowerCase()"

section
variable [Pattern.Engine]

def searchIn (clock : Clock) (pattern : Pattern) (s : String) : Eval Bool :=
  andThen (look clock) fun
    | .expired => fault (.timeout .beforeSearch)
    | .interrupted => fault (.timeout (.duringSearch pattern.source))
    | .inTime => value (Pattern.Engine.search pattern s)

def Join.decidedBy (j : Join) (b : Bool) : Bool :=
  match j with
  | all => !b
  | any => b

/-- Evaluates an expression where it stands as a part of a run of joins of kind `within`, if it
does: the left part of a join of that kind continues the run, any other part is a part on its own
and is preceded by a look at the clock. -/
def Expr.evalWithin (clock : Clock) (record : FieldValues) : Expr → Option Join → Eval Value
  | .text s, w => part w (value (.text s))
  | .number d, w => part w (value (.decimal d))
  | .field f, w => part w (ofExcept (readField record f))
  | .datePart p arg, w =>
    part w (andThen (arg.evalWithin clock record none) fun v => ofExcept (evalDatePart p v))
  | .compare op l r, w =>
    part w (andThen (check clock) fun _ =>
      andThen (l.evalWithin clock record none) fun v =>
        andThen (r.evalWithin clock record none) fun u =>
          ofExcept ((evalOperands op l r v u).map .bool))
  | .join j l r, w =>
    let run := andThen (l.evalWithin clock record (some j)) fun v =>
      if j.decidedBy v.truthy then value (.bool v.truthy)
      else andThen (check clock) fun _ =>
        andThen (r.evalWithin clock record none) fun u => value (.bool u.truthy)
    if w = some j then run else part w run
  | .includes target needle, w =>
    part w (andThen (target.evalWithin clock record none) fun v =>
      andThen (ofExcept (requireText "includes()" v)) fun s =>
        andThen (needle.evalWithin clock record none) fun u =>
          andThen (ofExcept (requireText "includes()" u)) fun n =>
            value (.bool (occursIn n.toList s.toList)))
  | .changeCase upper target, w =>
    part w (andThen (target.evalWithin clock record none) fun v =>
      andThen (ofExcept (requireText (caseMethod upper) v)) fun s =>
        value (.text (LedgerRules.changeCase upper s)))
  | .search pattern target, w =>
    part w (andThen (target.evalWithin clock record none) fun v =>
      andThen (ofExcept (requireText "test()" v)) fun s =>
        andThen (searchIn clock pattern s) fun b => value (.bool b))
where
  part (within : Option Join) (x : Eval Value) : Eval Value :=
    match within with
    | none => x
    | some _ => andThen (check clock) fun _ => x

def Expr.eval (clock : Clock) (record : FieldValues) (e : Expr) : Except EvalFault Value :=
  (e.evalWithin clock record none 0).1

structure Predicate where
  source : String
  root : Expr
deriving DecidableEq

def Predicate.holds (p : Predicate) (clock : Clock) (record : FieldValues) :
    Except EvalFault Bool :=
  (p.root.eval clock record).map Value.truthy

end

end LedgerRules
