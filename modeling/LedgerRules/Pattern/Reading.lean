import LedgerRules.Pattern.Fault
import LedgerRules.Pattern.Syntax
import LedgerRules.Text.Blank

/-! The state in which a pattern is read, and the steps that take characters from its text. With free
spacing, blanks and comments are passed over before a character is taken. -/

namespace LedgerRules.Pattern

structure Cursor where
  rest : List Char
  pos : Nat
deriving DecidableEq

namespace Cursor

def drop (c : Cursor) (n : Nat) : Cursor := ⟨c.rest.drop n, c.pos + min n c.rest.length⟩

def skipLayout : (inComment : Bool) → List Char → Nat → Cursor
  | _, [], p => ⟨[], p⟩
  | true, c :: r, p => if c = '\n' then skipLayout false r (p + 1) else skipLayout true r (p + 1)
  | false, c :: r, p =>
    if Text.isBlank c then skipLayout false r (p + 1)
    else if c = '#' then skipLayout true r (p + 1)
    else ⟨c :: r, p⟩

def settle (spaced : Bool) (c : Cursor) : Cursor :=
  if spaced then skipLayout false c.rest c.pos else c

def next (spaced : Bool) (c : Cursor) : Option Char × Cursor :=
  let c := c.settle spaced
  match c.rest with
  | [] => (none, c)
  | ch :: r => (some ch, ⟨r, c.pos + 1⟩)

def pass? (spaced : Bool) (c : Cursor) : List Char → Option Cursor
  | [] => some c
  | wanted :: more =>
    match c.next spaced with
    | (some ch, after) => if ch = wanted then after.pass? spaced more else none
    | (none, _) => none

def takeWhile (spaced : Bool) (test : Char → Bool) : (fuel : Nat) → Cursor → List Char × Cursor
  | 0, c => ([], c)
  | fuel + 1, c =>
    let c := c.settle spaced
    match c.rest with
    | [] => ([], c)
    | ch :: r =>
      if test ch then
        let (taken, after) := takeWhile spaced test fuel ⟨r, c.pos + 1⟩
        (ch :: taken, after)
      else ([], c)

end Cursor

/-- Options that hold in the rest of the group, options that hold for the whole pattern, and the
groups seen so far. References are kept to be checked when all groups are known. -/
structure ReadState where
  cursor : Cursor
  flags : Flags
  wholeFlags : Flags
  groupCount : Nat := 0
  groupNames : List (String × Nat) := []
  openGroups : List Nat := []
  depth : Nat := 0
  references : List (GroupRef × Nat) := []

/-- Reading stops at a fault, where groups are nested too deeply, or because an option was set for the
whole pattern, which then has to be read again. -/
inductive Stop
  | fault (f : Fault)
  | exhausted
  | restart (flags : Flags)
deriving DecidableEq

abbrev Reading := StateT ReadState (Except Stop)

namespace Reading

def position : Reading Nat := return (← get).cursor.pos

def fail {α : Type} (cause : Cause) (pos : Nat) : Reading α := throw (.fault ⟨cause, pos⟩)

def failHere {α : Type} (cause : Cause) : Reading α := do fail cause (← position)

def jump (c : Cursor) : Reading Unit := modify fun s => { s with cursor := c }

def spaced : Reading Bool := return (← get).flags.spaced

def takeChar (spaced : Bool) : Reading (Option Char) := do
  let (c, after) := (← get).cursor.next spaced
  jump after
  return c

def tryPass (spaced : Bool) (cs : String) : Reading Bool := do
  match (← get).cursor.pass? spaced cs.toList with
  | some after => jump after; return true
  | none => return false

def takeWhile (spaced : Bool) (test : Char → Bool) : Reading (List Char) := do
  let c := (← get).cursor
  let (taken, after) := c.takeWhile spaced test (c.rest.length + 1)
  jump after
  return taken

def expect (spaced : Bool) (c : Char) : Reading Unit := do
  if ← tryPass spaced c.toString then return () else failHere (.missing c)

def attempt {α : Type} (step : Reading α) : Reading (Option α) := fun s =>
  match step s with
  | .ok (a, s') => .ok (some a, s')
  | .error (.fault _) => .ok (none, s)
  | .error stop => .error stop

def openGroup (name : Option String) : Reading Nat := do
  let s ← get
  match name.bind fun n => s.groupNames.lookup n with
  | some n =>
    set { s with openGroups := n :: s.openGroups }
    return n
  | none =>
    let n := s.groupCount + 1
    let names := match name with
      | some name => s.groupNames ++ [(name, n)]
      | none => s.groupNames
    set { s with groupCount := n, groupNames := names, openGroups := n :: s.openGroups }
    return n

def closeGroup : Reading Unit := modify fun s => { s with openGroups := s.openGroups.tail }

def GroupRef.isOpen (s : ReadState) : GroupRef → Bool
  | .index n => s.openGroups.contains n
  | .name name => match s.groupNames.lookup name with
    | some n => s.openGroups.contains n
    | none => false

def refer (target : GroupRef) (pos : Nat) : Reading Node := do
  modify fun s => { s with references := s.references ++ [(target, pos)] }
  return .ref target (← get).flags.ignoreCase

def withFlags {α : Type} (flags : Flags) (step : Reading α) : Reading α := do
  let saved := (← get).flags
  modify fun s => { s with flags := flags }
  let a ← step
  modify fun s => { s with flags := saved }
  return a

def groupLimit : Nat := 320

def deeper {α : Type} (step : Reading α) : Reading α := do
  let depth := (← get).depth
  if groupLimit ≤ depth then throw .exhausted
  modify fun s => { s with depth := depth + 1 }
  let a ← step
  modify fun s => { s with depth := depth }
  return a

end Reading

end LedgerRules.Pattern
