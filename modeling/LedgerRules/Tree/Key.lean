import LedgerRules.Condition.Fault
import LedgerRules.Json.Printer
import LedgerRules.Text.Integer

/-! The text by which a condition tree is known: its compact JSON, in which the order of members does
not show. -/

namespace LedgerRules.Tree
open Condition

mutual

def hasLongInteger : Value → Bool
  | .int i => Text.longestInteger < Numeric.digitCount i.natAbs
  | .list items => anyLongInteger items
  | .map members => anyLongMember members
  | _ => false

def anyLongInteger : List Value → Bool
  | [] => false
  | v :: rest => hasLongInteger v || anyLongInteger rest

def anyLongMember : List (String × Value) → Bool
  | [] => false
  | (_, v) :: rest => hasLongInteger v || anyLongMember rest

end

/-- The key of a tree. The stack on which the tree is written is taken to be unlimited: a tree nested
more deeply than a real one reaches is refused as too deep, and has a key here. -/
def key (tree : Value) : Except Breakdown String :=
  if hasLongInteger tree then .error .longInteger else .ok (String.ofList (Json.compact tree))

end LedgerRules.Tree
