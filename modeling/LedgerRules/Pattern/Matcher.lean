import LedgerRules.Pattern.Syntax

/-! Searching a text for a pattern. A match is tried from each position in turn; within one try the
choices are explored in order of preference, each carrying what remains to be matched as a
continuation. A pattern that looks behind is read from its end to its start. -/

namespace LedgerRules.Pattern

structure Spot where
  pos : Nat
  groups : List (Nat × Nat × Nat)
deriving DecidableEq

def setSpan : List (Nat × Nat × Nat) → (index start stop : Nat) → List (Nat × Nat × Nat)
  | [], index, start, stop => [(index, start, stop)]
  | (i, a, b) :: rest, index, start, stop =>
    if i = index then (i, start, stop) :: rest else (i, a, b) :: setSpan rest index start stop

def Spot.capture (s : Spot) (index start stop : Nat) : Spot :=
  { s with groups := setSpan s.groups index (min start stop) (max start stop) }

abbrev Continuation := Spot → Option Spot

structure Subject where
  chars : Array Char
  names : List (String × Nat)

namespace Subject
variable (t : Subject)

def next? (ahead : Bool) (pos : Nat) : Option Char :=
  if ahead then t.chars[pos]? else if pos = 0 then none else t.chars[pos - 1]?

def step (ahead : Bool) (pos count : Nat) : Nat := if ahead then pos + count else pos - count

def wordAt (pos : Nat) : Bool := (t.chars[pos]?.map isWordChar).getD false

def atWordBoundary (pos : Nat) : Bool := (pos != 0 && t.wordAt (pos - 1)) != t.wordAt pos

def anchored (pos : Nat) : Anchor → Bool
  | .textStart => pos = 0
  | .textEnd => pos = t.chars.size
  | .lineStart => pos = 0 || t.chars[pos - 1]? = some '\n'
  | .lineEnd => pos = t.chars.size || t.chars[pos]? = some '\n'
  | .lastLineEnd =>
    pos = t.chars.size || (pos + 1 = t.chars.size && t.chars[pos]? = some '\n')
  | .wordBoundary => t.atWordBoundary pos
  | .noWordBoundary => !t.atWordBoundary pos

def runFrom (ahead : Bool) (test : Char → Bool) : (limit pos count : Nat) → Nat
  | 0, _, count => count
  | limit + 1, pos, count =>
    match t.next? ahead pos with
    | some c => if test c then runFrom ahead test limit (step ahead pos 1) (count + 1) else count
    | none => count

def descend (ahead : Bool) (s : Spot) (k : Continuation) (low : Nat) : (extra : Nat) → Option Spot
  | 0 => k { s with pos := step ahead s.pos low }
  | extra + 1 =>
    match k { s with pos := step ahead s.pos (low + extra + 1) } with
    | some r => some r
    | none => descend ahead s k low extra

def ascend (ahead : Bool) (s : Spot) (k : Continuation) : (extra low : Nat) → Option Spot
  | 0, low => k { s with pos := step ahead s.pos low }
  | extra + 1, low =>
    match k { s with pos := step ahead s.pos low } with
    | some r => some r
    | none => ascend ahead s k extra (low + 1)

def loopOne (ahead : Bool) (test : CharTest) (greed : Greed) (least : Nat) (most : Option Nat)
    (s : Spot) (k : Continuation) : Option Spot :=
  let available := if ahead then t.chars.size - s.pos else s.pos
  let limit := match most with
    | some m => min m available
    | none => available
  let count := t.runFrom ahead test.holds limit s.pos 0
  if count < least then none
  else
    match greed with
    | .greedy => descend ahead s k least (count - least)
    | .lazy => ascend ahead s k (count - least) least
    | .possessive => k { s with pos := step ahead s.pos count }

/-- Repeats a body. An iteration that neither moves nor captures anything new is the last one and
counts for as many as are still required. -/
def loopBody (body : Spot → Continuation → Option Spot) (greedy : Bool) (k : Continuation) :
    (fuel least : Nat) → (most : Option Nat) → Spot → Option Spot
  | 0, _, _, _ => none
  | fuel + 1, least, most, s =>
    let again := fun (_ : Unit) =>
      if most = some 0 then none
      else body s fun r =>
        if r = s then k r else loopBody body greedy k fuel (least - 1) (most.map (· - 1)) r
    let leave := fun (_ : Unit) => if least = 0 then k s else none
    if greedy then
      match again () with
      | some r => some r
      | none => leave ()
    else
      match leave () with
      | some r => some r
      | none => again ()

def groupOf (target : GroupRef) : Nat :=
  match target with
  | .index n => n
  | .name s => (t.names.lookup s).getD 0

def slice (start stop : Nat) : List Char := (t.chars.extract start stop).toList

def repeats (ahead ignoreCase : Bool) (pos : Nat) (cs : List Char) : Bool :=
  let start := if ahead then pos else pos - cs.length
  let there := t.slice start (start + cs.length)
  (ahead || cs.length ≤ pos) && there.length == cs.length
    && (cs.zip there).all fun (c, d) => if ignoreCase then sameCase c d else c == d

def loopFuel (groups : Nat) : Nat := (t.chars.size + 2) * (2 * groups + 2)

def eval (fuel : Nat) (ahead : Bool) : Node → Spot → Continuation → Option Spot
  | .empty, s, k => k s
  | .one test, s, k =>
    match t.next? ahead s.pos with
    | some c => if test.holds c then k { s with pos := step ahead s.pos 1 } else none
    | none => none
  | .anchor a, s, k => if t.anchored s.pos a then k s else none
  | .seq a b, s, k =>
    if ahead then eval fuel ahead a s fun r => eval fuel ahead b r k
    else eval fuel ahead b s fun r => eval fuel ahead a r k
  | .alt a b, s, k =>
    match eval fuel ahead a s k with
    | some r => some r
    | none => eval fuel ahead b s k
  | .group index body, s, k =>
    eval fuel ahead body s fun r => k (r.capture index s.pos r.pos)
  | .ref target ignoreCase, s, k =>
    match s.groups.lookup (t.groupOf target) with
    | none => none
    | some (start, stop) =>
      if t.repeats ahead ignoreCase s.pos (t.slice start stop) then
        k { s with pos := step ahead s.pos (stop - start) }
      else none
  | .loop greed least most (.one test), s, k => t.loopOne ahead test greed least most s k
  | .loop .greedy least most body, s, k =>
    loopBody (eval fuel ahead body) true k fuel least most s
  | .loop .lazy least most body, s, k =>
    loopBody (eval fuel ahead body) false k fuel least most s
  | .loop .possessive least most body, s, k =>
    match loopBody (eval fuel ahead body) true some fuel least most s with
    | some r => k r
    | none => none
  | .atomic body, s, k =>
    match eval fuel ahead body s some with
    | some r => k r
    | none => none
  | .look lookAhead positive body, s, k =>
    match eval fuel lookAhead body s some with
    | some r => if positive then k { r with pos := s.pos } else none
    | none => if positive then none else k s

end Subject

def searchFrom (found : Nat → Bool) : (count start : Nat) → Bool
  | 0, _ => false
  | count + 1, start => if found start then true else searchFrom found count (start + 1)

def Program.search (p : Program) (text : String) : Bool :=
  let subject : Subject := ⟨text.toList.toArray, p.groupNames⟩
  let fuel := subject.loopFuel p.groupCount
  searchFrom (fun start => (subject.eval fuel true p.root ⟨start, []⟩ some).isSome)
    (subject.chars.size + 1) 0

end LedgerRules.Pattern
