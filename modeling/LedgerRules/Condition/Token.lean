import LedgerRules.Condition.Fault
import LedgerRules.Numeric.Decimal

/-! The tokens of the condition language. A token keeps the piece of the text it was read from and
the position of its first character. -/

namespace LedgerRules.Condition

inductive Symbol
  | compare (op : CompareOp)
  | join (kind : Join)
  | openParen
  | closeParen
  | dot
  | comma
  | minus
deriving DecidableEq

def Symbol.text : Symbol → String
  | compare op => op.text
  | join .all => "&&"
  | join .any => "||"
  | openParen => "("
  | closeParen => ")"
  | dot => "."
  | comma => ","
  | minus => "-"

inductive Lexeme
  | text (value : String)
  | number (value : Numeric.Decimal)
  | pattern (body flags : String)
  | word
  | symbol (s : Symbol)
  | finish
deriving DecidableEq

def Lexeme.kind : Lexeme → String
  | text _ => "string"
  | number _ => "number"
  | pattern .. => "regex"
  | word => "ident"
  | symbol _ => "op"
  | finish => "eof"

structure Token where
  lexeme : Lexeme
  text : String
  pos : Nat
deriving DecidableEq

end LedgerRules.Condition
