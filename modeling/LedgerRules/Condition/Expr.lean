import LedgerRules.Numeric.Decimal
import LedgerRules.Pattern.Engine

/-! The expressions that conditions and condition trees compile to. Each has a type that is known
before any record is seen. -/

namespace LedgerRules

inductive ValueType
  | text
  | number
  | truth
  | date
deriving DecidableEq

def ValueType.word : ValueType → String
  | text => "string"
  | number => "number"
  | truth => "boolean"
  | date => "date"

inductive Field
  | merchant
  | amount
  | date
  | account
  | category
deriving DecidableEq

namespace Field

def all : List Field := [merchant, amount, date, account, category]

def name : Field → String
  | merchant => "merchant"
  | amount => "amount"
  | date => "date"
  | account => "account"
  | category => "category"

def type : Field → ValueType
  | amount => .number
  | date => .date
  | _ => .text

def ofName? (s : String) : Option Field := all.find? (·.name == s)

theorem ofName?_name (f : Field) : ofName? f.name = some f := by cases f <;> rfl

end Field

inductive DatePart
  | dayOfWeek
  | month
  | year
  | day
  | isWeekend
  | weekNumber
deriving DecidableEq

namespace DatePart

def all : List DatePart := [dayOfWeek, month, year, day, isWeekend, weekNumber]

def name : DatePart → String
  | dayOfWeek => "dayOfWeek"
  | month => "month"
  | year => "year"
  | day => "day"
  | isWeekend => "isWeekend"
  | weekNumber => "getWeekNumber"

def type : DatePart → ValueType
  | isWeekend => .truth
  | _ => .number

def ofName? (s : String) : Option DatePart := all.find? (·.name == s)

theorem ofName?_name (p : DatePart) : ofName? p.name = some p := by cases p <;> rfl

end DatePart

inductive CompareOp
  | same
  | different
  | greater
  | less
  | atLeast
  | atMost
deriving DecidableEq

namespace CompareOp

def text : CompareOp → String
  | same => "==="
  | different => "!=="
  | greater => ">"
  | less => "<"
  | atLeast => ">="
  | atMost => "<="

def isOrdering : CompareOp → Bool
  | same => false
  | different => false
  | _ => true

end CompareOp

inductive Join
  | all
  | any
deriving DecidableEq

inductive Expr
  | text (value : String)
  | number (value : Numeric.Decimal)
  | field (f : Field)
  | datePart (part : DatePart) (argument : Expr)
  | compare (op : CompareOp) (left right : Expr)
  | join (kind : Join) (left right : Expr)
  | includes (target needle : Expr)
  | changeCase (upper : Bool) (target : Expr)
  | search (pattern : Pattern) (target : Expr)
deriving DecidableEq

namespace Expr

def type : Expr → ValueType
  | text _ => .text
  | number _ => .number
  | field f => f.type
  | datePart p _ => p.type
  | compare .. => .truth
  | join .. => .truth
  | includes .. => .truth
  | changeCase .. => .text
  | search .. => .truth

def chain (kind : Join) : Expr → List Expr → List Expr
  | join k l r, rest => if k = kind then chain kind l (r :: rest) else join k l r :: rest
  | e, rest => e :: rest

def operands (kind : Join) (e : Expr) : List Expr := e.chain kind []

end Expr

end LedgerRules
