import LedgerRules.Text.Digit

/-! Ids for records that bring none: 32 hexadecimal digits each. -/

namespace LedgerRules

def generatedId (n : Nat) : String := String.ofList (Text.hexDigits 32 n)

def idsFrom (n : Nat) : Nat → String := fun i => generatedId (n + i)

end LedgerRules
