import LedgerRules.Condition.Expr
import LedgerRules.Text.Quoted

/-! Why a text is no condition. Each cause has one wording; where it is known which character of the
text is to blame, its position follows the wording. -/

namespace LedgerRules.Condition

inductive Cause
  | unsupportedEscape (c : Char)
  | openText
  | emptyPattern
  | openPattern
  | looseOperator (op : String)
  | unexpectedChar (c : Char)
  | emptyCondition
  | unexpectedEnd
  | unexpected (token : String)
  | expected (what : String) (found : Option String)
  | tooDeep
  | noMethods (method : String) (type : ValueType)
  | unknownMethod (method : String)
  | argumentCount (method : String) (wanted got : Nat)
  | argumentType (method : String) (wanted got : ValueType)
  | unknownField (name : String)
  | dateWanted (part : DatePart)
  | unknownFunction (name : String)
  | unknownName (name : String)
  | notRegExp (name : String)
  | unknownPatternMethod (method : String)
  | unorderedOperands (op : CompareOp) (left right : ValueType)
  | unknownFlag (flag : Char)
  | repeatedFlag (flag : Char)
  | badPattern (source reason : String)
  | stackExhausted
deriving DecidableEq

def maxNesting : Nat := 64

def Cause.message : Cause → String
  | unsupportedEscape c => s!"unsupported escape sequence '\\{c}'"
  | openText => "unterminated string literal"
  | emptyPattern => "empty regular expression"
  | openPattern => "unterminated regular expression"
  | looseOperator op => s!"loose operator '{op}' is not supported; use '{op}='"
  | unexpectedChar c => "unexpected character " ++ Text.quoted c.toString
  | emptyCondition => "empty condition"
  | unexpectedEnd => "unexpected end of condition"
  | unexpected token => "unexpected " ++ Text.quoted token
  | expected what found =>
    s!"expected {what}, found " ++ (match found with
      | none => "end of condition"
      | some token => Text.quoted token)
  | tooDeep => s!"condition nested too deeply (limit {maxNesting})"
  | noMethods method type =>
    s!"method {Text.quoted method} is not available on {type.word} values"
  | unknownMethod method => "unsupported method " ++ Text.quoted method
  | argumentCount method wanted got => s!"{method}() takes {wanted} argument(s), got {got}"
  | argumentType method wanted got =>
    s!"{method}() expects a {wanted.word} argument, got {got.word}"
  | unknownField name => "unknown transaction field " ++ Text.quoted name
  | dateWanted part => s!"{part.name}() expects a date such as transaction.date"
  | unknownFunction name => "unknown function " ++ Text.quoted name
  | unknownName name => "unknown identifier " ++ Text.quoted name
  | notRegExp name => "only 'new RegExp' is supported, not " ++ Text.quoted name
  | unknownPatternMethod method => "unsupported regular expression method " ++ Text.quoted method
  | unorderedOperands op left right =>
    s!"operator '{op.text}' needs numeric operands, got {left.word} and {right.word}"
  | unknownFlag flag => "unsupported regular expression flag " ++ Text.quoted flag.toString
  | repeatedFlag flag => "duplicate regular expression flag " ++ Text.quoted flag.toString
  | badPattern source reason => s!"invalid regular expression /{source}/: {reason}"
  | stackExhausted => "condition nested too deeply"

structure Fault where
  cause : Cause
  pos : Option Nat
deriving DecidableEq

def Fault.message (f : Fault) : String :=
  match f.pos with
  | none => f.cause.message
  | some n => s!"{f.cause.message} at position {n}"

/-- What stops the reading of a condition or a tree altogether, without a word on where it is
broken: a character that looks like a digit and is none, a number too large to be negated, an
integer with more digits than are ever written out, or a pattern that exhausts the stack. -/
inductive Breakdown
  | strayDigit
  | numberOverflow
  | longInteger
  | stackExhausted
deriving DecidableEq

inductive Failure
  | fault (f : Fault)
  | breakdown (b : Breakdown)
deriving DecidableEq

def Failure.caught : Failure → Failure
  | .breakdown .stackExhausted => .fault ⟨.stackExhausted, none⟩
  | f => f

/-- Why a text with flags is no pattern: for a cause that can be blamed on a token, or because it
exhausts the stack. -/
inductive PatternFailure
  | cause (c : Cause)
  | exhausted
deriving DecidableEq

def PatternFailure.failure (pos : Option Nat) : PatternFailure → Failure
  | cause c => .fault ⟨c, pos⟩
  | exhausted => .breakdown .stackExhausted

end LedgerRules.Condition
