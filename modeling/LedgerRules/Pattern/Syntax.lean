import LedgerRules.Pattern.CharClass
import LedgerRules.Pattern.Engine

/-! Search patterns as trees. -/

namespace LedgerRules.Pattern

inductive Anchor
  | textStart
  | textEnd
  | lineStart
  | lineEnd
  | lastLineEnd
  | wordBoundary
  | noWordBoundary
deriving DecidableEq

inductive Greed
  | greedy
  | lazy
  | possessive
deriving DecidableEq

inductive GroupRef
  | index (n : Nat)
  | name (s : String)
deriving DecidableEq

inductive Node
  | empty
  | one (test : CharTest)
  | anchor (a : Anchor)
  | seq (first second : Node)
  | alt (first second : Node)
  | group (index : Nat) (body : Node)
  | ref (target : GroupRef) (ignoreCase : Bool)
  | loop (greed : Greed) (least : Nat) (most : Option Nat) (body : Node)
  | atomic (body : Node)
  | look (ahead positive : Bool) (body : Node)
deriving DecidableEq

def Node.isEmpty : Node → Bool
  | empty => true
  | seq a b => a.isEmpty && b.isEmpty
  | alt a b => a.isEmpty && b.isEmpty
  | group _ body => body.isEmpty
  | loop _ _ _ body => body.isEmpty
  | atomic body => body.isEmpty
  | look _ _ body => body.isEmpty
  | _ => false

def Node.ofSequence : List Node → Node
  | [] => .empty
  | [n] => n
  | n :: rest => .seq n (ofSequence rest)

def Flags.union (a b : Flags) : Flags :=
  ⟨a.ignoreCase || b.ignoreCase, a.lines || b.lines, a.dotAll || b.dotAll, a.spaced || b.spaced⟩

def Flags.minus (a b : Flags) : Flags :=
  ⟨a.ignoreCase && !b.ignoreCase, a.lines && !b.lines, a.dotAll && !b.dotAll,
    a.spaced && !b.spaced⟩

def Flags.meets (a b : Flags) : Bool :=
  (a.ignoreCase && b.ignoreCase) || (a.lines && b.lines) || (a.dotAll && b.dotAll)
    || (a.spaced && b.spaced)

structure Program where
  flags : Flags
  root : Node
  groupNames : List (String × Nat)
  groupCount : Nat
deriving DecidableEq

end LedgerRules.Pattern
