import LedgerRules.Text.Blank

/-! Rules written as text: a condition, an arrow and the category for what matches it. Every arrow
counts, also one in quotes, so there must be exactly one. -/

namespace LedgerRules

inductive Malformed
  | arrows (count : Nat)
  | noCondition
  | noCategory
  | noTreeCategory
deriving DecidableEq

def Malformed.message : Malformed → String
  | arrows count => s!"expected exactly one '->' separator, found {count}"
  | noCondition => "empty condition before '->'"
  | noCategory => "empty category after '->'"
  | noTreeCategory => "structured rule has no newCategory"

namespace Definition

def piecesFrom : (piece : List Char) → List Char → List (List Char)
  | piece, [] => [piece.reverse]
  | piece, '-' :: '>' :: rest => piece.reverse :: piecesFrom [] rest
  | piece, c :: rest => piecesFrom (c :: piece) rest

def pieces (cs : List Char) : List (List Char) := piecesFrom [] cs

theorem pieces_nil : pieces [] = [[]] := rfl

def stripQuotes (cs : List Char) : List Char :=
  let cs := if cs.head? = some '"' then cs.tail else cs
  if cs.getLast? = some '"' then cs.dropLast else cs

def split (definition : String) : Except Malformed (String × String) :=
  match pieces definition.toList with
  | [before, after] =>
    let condition := Text.trim before
    let category := Text.trim (stripQuotes (Text.trim after))
    if condition.isEmpty then .error .noCondition
    else if category.isEmpty then .error .noCategory
    else .ok (String.ofList condition, String.ofList category)
  | ps => .error (.arrows (ps.length - 1))

end Definition

end LedgerRules
