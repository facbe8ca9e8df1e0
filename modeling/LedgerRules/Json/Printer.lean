import LedgerRules.Json.Text
import LedgerRules.Value.Shown

/-! Values as JSON. The compact form sorts the members of maps and is plain ASCII, so that maps that
differ only in order have one text. The spread form keeps the order and puts every item on a line of
its own. -/

namespace LedgerRules.Json
open Numeric

def floatText : Binary64 → List Char
  | .nan => "NaN".toList
  | .infinite n => Decimal.signText n ++ "Infinity".toList
  | x => x.toChars

/-- Values without items; what JSON has no word for is written as its text in quotes. -/
def leafText (ascii : Bool) : Value → List Char
  | .null => "null".toList
  | .bool b => if b then "true".toList else "false".toList
  | .int i => (toString i).toList
  | .float x => floatText x
  | v => textChars ascii v.display.toList

def joined (separator : List Char) : List (List Char) → List Char
  | [] => []
  | [x] => x
  | x :: rest => x ++ separator ++ joined separator rest

def sortMembers (ms : List (String × List Char)) : List (String × List Char) :=
  ms.mergeSort fun a b => decide (a.1 ≤ b.1)

def compactMember (m : String × List Char) : List Char :=
  textChars true m.1.toList ++ ':' :: m.2

mutual

def compact : Value → List Char
  | .list items => '[' :: joined [','] (compactItems items) ++ [']']
  | .map members =>
    '\x7b' :: joined [','] ((sortMembers (compactMembers members)).map compactMember) ++ ['\x7d']
  | v => leafText true v

def compactItems : List Value → List (List Char)
  | [] => []
  | v :: rest => compact v :: compactItems rest

def compactMembers : List (String × Value) → List (String × List Char)
  | [] => []
  | (k, v) :: rest => (k, compact v) :: compactMembers rest

end

def newLine (depth : Nat) : List Char := '\n' :: List.replicate (2 * depth) ' '

def bracketed (opening closing : Char) (depth : Nat) (pieces : List (List Char)) : List Char :=
  if pieces.isEmpty then [opening, closing]
  else
    opening :: newLine (depth + 1) ++ joined (',' :: newLine (depth + 1)) pieces
      ++ newLine depth ++ [closing]

mutual

def spread (depth : Nat) : Value → List Char
  | .list items => bracketed '[' ']' depth (spreadItems (depth + 1) items)
  | .map members => bracketed '\x7b' '\x7d' depth (spreadMembers (depth + 1) members)
  | v => leafText false v

def spreadItems (depth : Nat) : List Value → List (List Char)
  | [] => []
  | v :: rest => spread depth v :: spreadItems depth rest

def spreadMembers (depth : Nat) : List (String × Value) → List (List Char)
  | [] => []
  | (k, v) :: rest =>
    (textChars false k.toList ++ [':', ' '] ++ spread depth v) :: spreadMembers depth rest

end

end LedgerRules.Json
