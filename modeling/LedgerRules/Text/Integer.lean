import LedgerRules.Text.Blank
import LedgerRules.Text.Quoted

/-! Integers as texts: a sign, and digits of any script between which single underscores may stand.
There may be blanks around them. -/

namespace LedgerRules.Text

/-- Integers of more digits than this are neither read nor written. -/
def longestInteger : Nat := 4300

inductive IntegerFault
  | malformed (text : String)
  | tooLong (digits : Nat)
deriving DecidableEq

def IntegerFault.message : IntegerFault → String
  | malformed text => "invalid literal for int() with base 10: " ++ quoted text
  | tooLong digits =>
    s!"Exceeds the limit ({longestInteger} digits) for integer string conversion: value has {digits} digits; use sys.set_int_max_str_digits() to increase the limit"

def unwrittenMessage : String :=
  s!"Exceeds the limit ({longestInteger} digits) for integer string conversion; use sys.set_int_max_str_digits() to increase the limit"

def groupedDigits : List Char → Option (List Char)
  | [] => none
  | [d] => if isDecimalDigit d then some [d] else none
  | d :: '_' :: rest => if isDecimalDigit d then (groupedDigits rest).map (d :: ·) else none
  | d :: rest => if isDecimalDigit d then (groupedDigits rest).map (d :: ·) else none

def signed : List Char → Bool × List Char
  | '-' :: rest => (true, rest)
  | '+' :: rest => (false, rest)
  | cs => (false, cs)

def readInteger (s : String) : Except IntegerFault Int :=
  let (negative, body) := signed (trim s.toList)
  match groupedDigits body with
  | none => .error (.malformed s)
  | some digits =>
    if longestInteger < digits.length then .error (.tooLong digits.length)
    else
      let n : Int := digitsValue digits
      .ok (if negative then -n else n)

def integer? (s : String) : Option Int := (readInteger s).toOption

end LedgerRules.Text
