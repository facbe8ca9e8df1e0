import LedgerRules.Pattern.Escape

/-! Reading a pattern. Sequences, alternatives and groups call each other, with a fuel that no
pattern exhausts, since every third call takes a character. -/

namespace LedgerRules.Pattern
open Reading

def repeatLimit : Nat := Nat.pow 2 32 - 1

def readCounts : Reading (Option (Nat × Option Nat)) := do
  let start := (← get).cursor
  let spaced ← spaced
  let least ← takeWhile spaced isPlainDigit
  let comma ← tryPass spaced ","
  let most ← if comma then takeWhile spaced isPlainDigit else pure least
  if (!comma && least.isEmpty) || !(← tryPass spaced "\x7d") then
    jump start
    return none
  else
    let low := Text.digitsValue least
    let high := if comma && most.isEmpty then none else some (Text.digitsValue most)
    if low ≥ repeatLimit || high.any (· ≥ repeatLimit) then fail .repeatTooBig start.pos
    else if high.any (· < low) then fail .repeatReversed start.pos
    else return some (low, high)

def readQuantifier (c : Char) : Reading (Option (Nat × Option Nat)) :=
  if c = '?' then return some (0, some 1)
  else if c = '*' then return some (0, none)
  else if c = '+' then return some (1, none)
  else readCounts

def readGreed : Reading Greed := do
  let spaced ← spaced
  if ← tryPass spaced "?" then return .lazy
  else if ← tryPass spaced "+" then return .possessive
  else return .greedy

/-- The items of a sequence so far, the last one first. Nothing can be repeated at the start of a
sequence, nor right after a repetition. -/
inductive Tail
  | start
  | item (n : Node) (before : Tail)
  | repeated (n : Node) (before : Tail)

def Tail.collect : Tail → List Node → List Node
  | start, after => after
  | item n before, after => before.collect (n :: after)
  | repeated n before, after => before.collect (n :: after)

def Tail.applyLoop (t : Tail) (greed : Greed) (counts : Nat × Option Nat) : Tail :=
  match t with
  | item n before =>
    if n.isEmpty || counts = (1, some 1) then repeated n before
    else repeated (.loop greed counts.1 counts.2 n) before
  | t => t

def flag? : Char → Option Flags
  | 'i' => some { ignoreCase := true }
  | 'm' => some { lines := true }
  | 's' => some { dotAll := true }
  | 'x' => some { spaced := true }
  | 'u' => some {}
  | _ => none

def readFlagSet : (fuel : Nat) → (count : Nat) → Flags → Reading (Flags × Nat)
  | 0, count, flags => return (flags, count)
  | fuel + 1, count, flags => do
    let before := (← get).cursor
    match (← takeChar (← spaced)).bind flag? with
    | some f => readFlagSet fuel (count + 1) (flags.union f)
    | none => jump before; return (flags, count)

def readFlags : Reading (Flags × Flags) := do
  let fuel := (← get).cursor.rest.length + 1
  let (on, _) ← readFlagSet fuel 0 {}
  if ← tryPass (← spaced) "-" then
    let (off, count) ← readFlagSet fuel 0 {}
    if count = 0 then failHere .noFlagsAfterMinus else return (on, off)
  else return (on, {})

/-- Options without a body hold for the whole pattern and can only be turned on. -/
def settleFlags (on off : Flags) : Reading Unit := do
  if off ≠ {} then failHere .flagsTurnedOff
  let whole := (← get).wholeFlags
  if whole.union on ≠ whole then throw (.restart (whole.union on))

def skipComment : (fuel : Nat) → Reading Unit
  | 0 => return ()
  | fuel + 1 => do
    let before := (← get).cursor
    match ← takeChar false with
    | none => jump before; expect (← spaced) ')'
    | some ')' => jump before; expect (← spaced) ')'
    | some '\\' => let _ ← takeChar false; skipComment fuel
    | some _ => skipComment fuel

inductive Opening
  | comment
  | capture (name : Option String)
  | look (ahead positive : Bool)
  | atomic
  | flags (on off : Flags)
  | done (n : Option Node)

def readFlagGroup : Reading Opening := do
  let (on, off) ← readFlags
  if on.meets off then failHere .flagOnAndOff
  let spaced ← spaced
  if ← tryPass spaced ":" then return .flags on off
  else if ← tryPass spaced ")" then
    settleFlags on off
    return .done none
  else failHere .unknownExtension

def readExtension : Reading Opening := do
  let start := (← get).cursor
  match ← takeChar (← spaced) with
  | some '<' =>
    match ← readGroupName false with
    | .name name => return .capture (some name)
    | .index _ => failHere .badGroupName
  | some '=' =>
    let target ← readGroupName true
    expect (← spaced) ')'
    if GroupRef.isOpen (← get) target then fail .openGroup start.pos
    else return .done (some (← refer target start.pos))
  | _ => fail .unknownExtension start.pos

def readAngle : Reading Opening := do
  let start := (← get).cursor
  match ← takeChar (← spaced) with
  | some '=' => return .look false true
  | some '!' => return .look false false
  | _ =>
    jump start
    match ← readGroupName false with
    | .name name => return .capture (some name)
    | .index _ => failHere .badGroupName

def readOpening : Reading Opening := do
  let start := (← get).cursor
  if (← takeChar false) = some '?' then
    let second := (← get).cursor
    match ← takeChar false with
    | some '<' => readAngle
    | some '=' => return .look true true
    | some '!' => return .look true false
    | some 'P' => readExtension
    | some '#' => return .comment
    | some '>' => return .atomic
    | _ => jump second; readFlagGroup
  else
    jump start
    return .capture none

mutual

def readBranches : (fuel : Nat) → Reading Node
  | 0 => failHere .unbalanced
  | fuel + 1 => do
    let first ← readSequence fuel .start
    if ← tryPass (← spaced) "|" then return .alt first (← readBranches fuel)
    else return first

def readSequence : (fuel : Nat) → Tail → Reading Node
  | 0, _ => failHere .unbalanced
  | fuel + 1, tail => do
    let before := (← get).cursor
    let flags := (← get).flags
    let literal := fun (c : Char) => readSequence fuel (.item (.one (.char c flags.ignoreCase)) tail)
    match ← takeChar flags.spaced with
    | none => jump before; return .ofSequence (tail.collect [])
    | some c =>
      if c = ')' || c = '|' then
        jump before
        return .ofSequence (tail.collect [])
      else if c = '\\' then
        readSequence fuel (.item ((← readEscape false).toNode flags.ignoreCase) tail)
      else if c = '(' then
        match ← readGroup fuel with
        | some n => readSequence fuel (.item n tail)
        | none => readSequence fuel tail
      else if c = '.' then readSequence fuel (.item (.one (.any flags.dotAll)) tail)
      else if c = '[' then readSequence fuel (.item (.one (← readSet)) tail)
      else if c = '^' then
        readSequence fuel (.item (.anchor (if flags.lines then .lineStart else .textStart)) tail)
      else if c = '$' then
        readSequence fuel (.item (.anchor (if flags.lines then .lineEnd else .lastLineEnd)) tail)
      else if c = '?' || c = '*' || c = '+' || c = '{' then
        match ← readQuantifier c with
        | none => literal c
        | some counts =>
          match tail with
          | .start => fail .nothingToRepeat before.pos
          | .repeated .. => fail .multipleRepeat before.pos
          | .item .. => readSequence fuel (tail.applyLoop (← readGreed) counts)
      else literal c

def readGroup : (fuel : Nat) → Reading (Option Node)
  | 0 => failHere .unbalanced
  | fuel + 1 => do
    let flags := (← get).flags
    match ← readOpening with
    | .done n => return n
    | .comment => skipComment ((← get).cursor.rest.length + 1); return none
    | .capture name =>
      let index ← openGroup name
      if name.isSome then expect flags.spaced '>'
      let body ← readClosed fuel flags
      closeGroup
      return some (.group index body)
    | .look ahead positive => return some (.look ahead positive (← readClosed fuel flags))
    | .atomic => return some (.atomic (← readClosed fuel flags))
    | .flags on off => return some (← readClosed fuel ((flags.union on).minus off))

def readClosed : (fuel : Nat) → Flags → Reading Node
  | 0, _ => failHere .unbalanced
  | fuel + 1, flags => deeper <| withFlags flags do
    let body ← readBranches fuel
    expect flags.spaced ')'
    return body

end

def readWhole (fuel : Nat) : Reading Node := do
  let root ← readBranches fuel
  let c := (← get).cursor.settle (← get).flags.spaced
  if c.rest.isEmpty then return root else failHere .unbalanced

def checkReferences (names : List (String × Nat)) (count : Nat) :
    List (GroupRef × Nat) → Except Fault Unit
  | [] => .ok ()
  | (.index n, pos) :: rest =>
    if 1 ≤ n ∧ n ≤ count then checkReferences names count rest else .error ⟨.noSuchGroup, pos⟩
  | (.name s, pos) :: rest =>
    if (names.lookup s).isSome then checkReferences names count rest
    else .error ⟨.unknownGroup, pos⟩

def parseFrom (source : List Char) : (restarts : Nat) → Flags → Except Refusal Program
  | 0, _ => .error (.fault (Fault.message source ⟨.unbalanced, 0⟩))
  | restarts + 1, flags =>
    match readWhole (4 * source.length + 4) { cursor := ⟨source, 0⟩, flags, wholeFlags := flags } with
    | .error (.fault f) => .error (.fault (f.message source))
    | .error .exhausted => .error .exhausted
    | .error (.restart more) => parseFrom source restarts more
    | .ok (root, s) =>
      match checkReferences s.groupNames s.groupCount s.references with
      | .error f => .error (.fault (f.message source))
      | .ok () => .ok ⟨flags, root, s.groupNames, s.groupCount⟩

def parse (source : String) (flags : Flags) : Except Refusal Program :=
  parseFrom source.toList 5 flags

end LedgerRules.Pattern
