import LedgerRules.Pattern.Reading

/-! Escapes and sets in brackets, the parts of a pattern that stand for one character each. -/

namespace LedgerRules.Pattern
open Reading

inductive Escape
  | code (n : Nat)
  | named (kind : CharClass) (positive : Bool)
  | anchor (a : Anchor)
  | node (n : Node)

def isOctalDigit (c : Char) : Bool := 0x30 ≤ c.toNat && c.toNat ≤ 0x37

def isScalar (n : Nat) : Bool := n < 0xD800 || (0xE000 ≤ n && n < 0x110000)

def SetItem.ofCode (n : Nat) : SetItem :=
  if isScalar n then .char (Char.ofNat n) else .range n n

def CharTest.ofCode (n : Nat) (ignoreCase : Bool) : CharTest :=
  if isScalar n then .char (Char.ofNat n) ignoreCase else .set [.range n n] true ignoreCase

def positionEscape? : Char → Option Anchor
  | 'A' => some .textStart
  | 'Z' => some .textEnd
  | 'z' => some .textEnd
  | 'b' => some .wordBoundary
  | 'B' => some .noWordBoundary
  | _ => none

def classEscape? : Char → Option Escape
  | 'd' => some (.named .digit true)
  | 'D' => some (.named .digit false)
  | 's' => some (.named .blank true)
  | 'S' => some (.named .blank false)
  | 'w' => some (.named .word true)
  | 'W' => some (.named .word false)
  | _ => none

def controlEscape? : Char → Option Nat
  | 'a' => some 7
  | 'b' => some 8
  | 'f' => some 12
  | 'n' => some 10
  | 'r' => some 13
  | 't' => some 9
  | 'v' => some 11
  | _ => none

def readGroupName (numeric : Bool) : Reading GroupRef := do
  let spaced ← spaced
  let name ← takeWhile spaced fun c => c != ')' && c != '>'
  match name with
  | [] => failHere .noGroupName
  | first :: rest =>
    if name.all Text.isDecimalDigit then
      let n := Text.digitsValue name
      if !numeric || n < 1 then failHere .badGroupName else return .index n
    else if (isWordChar first && !isPatternDigit first) && rest.all isWordChar then
      return .name (String.ofList name)
    else failHere .badGroupName

def readNamedRef : Reading Escape := do
  let spaced ← spaced
  expect spaced '<'
  let start ← position
  let target ← readGroupName true
  expect spaced '>'
  if GroupRef.isOpen (← get) target then failHere .openGroup
  else return .node (← refer target start)

def plainName (cs : List Char) : String :=
  String.ofList ((cs.filter fun c => c != ' ' && c != '_' && c != '-').map fun c =>
    if 0x61 ≤ c.toNat && c.toNat ≤ 0x7A then Char.ofNat (c.toNat - 0x20) else c)

def propertyClass? (bracketed : Bool) (name : List Char) : Option CharClass :=
  match plainName name with
  | "L" | "LETTER" => some .letter
  | "LU" | "UPPERCASELETTER" => some .capital
  | "ND" | "DECIMALNUMBER" => some .digit
  | "DIGIT" => some (if bracketed then .plainDigit else .digit)
  | "ALPHA" | "ALPHABETIC" => some .alphabetic
  | "ALNUM" => some .alphanumeric
  | "SPACE" | "WHITESPACE" => some .blank
  | "WORD" => some .word
  | "XDIGIT" => some .hexadecimal
  | _ => none

def isPropertyChar (c : Char) : Bool :=
  isPlainLetter c || isPlainDigit c || " &_-.".contains c

def readProperty (positive : Bool) (spaced : Bool) : Reading Escape := do
  let start := (← get).cursor
  let literal : Reading Escape := do
    jump start
    return .code (if positive then 'p' else 'P').toNat
  match ← takeChar spaced with
  | some '{' =>
    let negated ← tryPass spaced "^"
    let name ← takeWhile spaced isPropertyChar
    if ← tryPass spaced "\x7d" then
      match propertyClass? false name with
      | some kind => return .named kind (positive != negated)
      | none => failHere .unknownProperty
    else literal
  | some 'L' => return .named .letter positive
  | _ => literal

def readHex (letter : Char) (count : Nat) (spaced : Bool) : Reading Escape := do
  let start ← position
  let rec digits : Nat → List Char → Reading (List Char)
    | 0, taken => return taken
    | count + 1, taken => do
      match ← takeChar spaced with
      | some c =>
        if (Text.hexValue? c).isSome then digits count (taken ++ [c])
        else fail (.shortEscape letter taken) start
      | none => fail (.shortEscape letter taken) start
  let taken ← digits count []
  let n := (Text.hexNumber? taken).getD 0
  if n < 0x110000 then return .code n else fail (.hugeEscape letter taken) start

def octalValue (cs : List Char) : Nat := cs.foldl (fun n c => 8 * n + (c.toNat - 0x30)) 0

def readOctal (first : Char) (spaced : Bool) : Reading Escape := do
  let more := fun (_ : Unit) => do
    let before := (← get).cursor
    match ← takeChar spaced with
    | some c => if isOctalDigit c then return [c] else jump before; return []
    | none => jump before; return []
  let second ← more ()
  let third ← if second.isEmpty then pure [] else more ()
  if isOctalDigit first then return .code (octalValue (first :: second ++ third))
  else failHere (.badEscape first)

def readNumeric (first : Char) (spaced : Bool) : Reading Escape := do
  let refer (digits : List Char) : Reading Escape := do
    let target := GroupRef.index (Text.digitsValue digits)
    if GroupRef.isOpen (← get) target then failHere .openGroup
    else return .node (← Reading.refer target (← position))
  let afterFirst := (← get).cursor
  match ← takeChar spaced with
  | some second =>
    if isPlainDigit second then
      let afterSecond := (← get).cursor
      match ← takeChar spaced with
      | some third =>
        if [first, second, third].all isOctalDigit then
          return .code (octalValue [first, second, third] % 0x200)
        else jump afterSecond; refer [first, second]
      | none => jump afterSecond; refer [first, second]
    else jump afterFirst; refer [first]
  | none => jump afterFirst; refer [first]

def readEscape (inSet : Bool) : Reading Escape := do
  let spaced := (← spaced) && !inSet
  match ← takeChar false with
  | none => failHere .escapeAtEnd
  | some c =>
    if c = 'x' then readHex c 2 spaced
    else if c = 'u' then readHex c 4 spaced
    else if c = 'U' then readHex c 8 spaced
    else if c = 'g' && !inSet then return (← attempt readNamedRef).getD (.code c.toNat)
    else if c = 'N' then return .code c.toNat
    else if c = 'p' || c = 'P' then readProperty (c = 'p') spaced
    else if isPlainLetter c then
      match (if inSet then none else positionEscape? c), classEscape? c, controlEscape? c with
      | some a, _, _ => return .anchor a
      | none, some e, _ => return e
      | none, none, some n => return .code n
      | none, none, none => failHere (.badEscape c)
    else if isPlainDigit c then
      if inSet || c = '0' then readOctal c spaced else readNumeric c spaced
    else return .code c.toNat

def Escape.toNode (ignoreCase : Bool) : Escape → Node
  | code n => .one (.ofCode n ignoreCase)
  | named kind positive => .one (.named kind positive ignoreCase)
  | anchor a => .anchor a
  | node n => n

inductive SetPart
  | code (n : Nat)
  | item (i : SetItem)

def readNamedClass : Reading SetItem := do
  let negated ← tryPass false "^"
  let name ← takeWhile false isPropertyChar
  if ← tryPass false ":]" then
    match propertyClass? true name with
    | some kind => return .named kind (!negated)
    | none => failHere .unknownProperty
  else failHere (.missing ':')

def readSetPart : Reading SetPart := do
  if ← tryPass false "\\" then
    match ← readEscape true with
    | .code n => return .code n
    | .named kind positive => return .item (.named kind positive)
    | _ => return .item (.range 1 0)
  else
    let start := (← get).cursor
    if ← tryPass false "[:" then
      match readNamedClass (← get) with
      | .ok (item, s) => set s; return .item item
      | .error (.fault ⟨.unknownProperty, pos⟩) => fail .unknownProperty pos
      | .error _ =>
        jump start
        let _ ← takeChar false
        return .code '['.toNat
    else
      match ← takeChar false with
      | some c => return .code c.toNat
      | none => failHere .openSet

/-- A range, or a hyphen that stands for itself next to a class or at the end of the set. -/
def readSetMember : Reading (List SetItem) := do
  match ← readSetPart with
  | .item i => return [i]
  | .code first =>
    if ← tryPass false "-" then
      let afterHyphen := (← get).cursor
      if ← tryPass false "]" then
        jump afterHyphen
        return [.ofCode first, .char '-']
      else
        match ← readSetPart with
        | .item i => return [.ofCode first, .char '-', i]
        | .code last =>
          if last < first then failHere .reversedRange
          else if first = last then return [.ofCode first]
          else return [.range first last]
    else return [.ofCode first]

def readSetMembers : (fuel : Nat) → Reading (List SetItem)
  | 0 => failHere .openSet
  | fuel + 1 => do
    let items ← readSetMember
    if ← tryPass false "]" then return items
    else return items ++ (← readSetMembers fuel)

def readSet : Reading CharTest := do
  let negated ← tryPass false "^"
  let items ← readSetMembers ((← get).cursor.rest.length + 1)
  return .set items (!negated) (← get).flags.ignoreCase

end LedgerRules.Pattern
