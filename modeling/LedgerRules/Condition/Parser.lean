import LedgerRules.Condition.Lexer

/-! Reading a condition from its tokens. `||` joins runs of `&&`, which join comparisons of operands;
an operand is a primary with method calls after it. Parentheses, calls and argument lists open a new
level, and what may stand inside is read by the parsers of that level. -/

namespace LedgerRules.Condition
open Numeric

def patternFlags : (seen : List Char) → List Char → Pattern.Flags → Except Cause Pattern.Flags
  | _, [], flags => .ok flags
  | all, c :: rest, flags =>
    match c with
    | 'i' =>
      if 1 < all.count c then .error (.repeatedFlag c)
      else patternFlags all rest { flags with ignoreCase := true }
    | 'm' =>
      if 1 < all.count c then .error (.repeatedFlag c)
      else patternFlags all rest { flags with lines := true }
    | 's' =>
      if 1 < all.count c then .error (.repeatedFlag c)
      else patternFlags all rest { flags with dotAll := true }
    | _ => .error (.unknownFlag c)

def compilePattern [Pattern.Engine] (body flags : String) : Except PatternFailure Pattern := do
  let options ← (patternFlags flags.toList flags.toList {}).mapError .cause
  match Pattern.Engine.compile body options with
  | .ok p => return p
  | .error (.fault reason) => throw (.cause (.badPattern body reason))
  | .error .exhausted => throw .exhausted

def makeComparison (op : CompareOp) (left right : Expr) : Except Cause Expr :=
  if op.isOrdering && (left.type ≠ .number || right.type ≠ .number) then
    .error (.unorderedOperands op left.type right.type)
  else .ok (.compare op left right)

abbrev Reader := StateT (List Token) (Except Failure)

def endToken : Token := ⟨.finish, "", 0⟩

def peek : Reader Token := return (← get).headD endToken

def advance : Reader Unit := modify fun
  | [] => []
  | [t] => [t]
  | _ :: rest => rest

def failAt {α : Type} (pos : Nat) (cause : Cause) : Reader α :=
  throw (.fault ⟨cause, some pos⟩)

def blame {α : Type} (t : Token) : Except Cause α → Reader α
  | .ok a => return a
  | .error cause => failAt t.pos cause

def compiled [Pattern.Engine] (t : Token) (body flags : String) : Reader Pattern :=
  match compilePattern body flags with
  | .ok p => return p
  | .error f => throw (f.failure (some t.pos))

def Token.isSymbol (t : Token) (s : Symbol) : Bool := t.lexeme = .symbol s

def Token.found (t : Token) : Option String :=
  if t.lexeme = .finish then none else some t.text

def expectSymbol (s : Symbol) : Reader Unit := do
  let t ← peek
  if t.isSymbol s then advance else failAt t.pos (.expected s!"'{s.text}'" t.found)

def expectWord (what : String) : Reader Token := do
  let t ← peek
  if t.lexeme = .word then advance; return t else failAt t.pos (.expected what t.found)

def expectText (what : String) : Reader (Token × String) := do
  let t ← peek
  match t.lexeme with
  | .text value => advance; return (t, value)
  | _ => failAt t.pos (.expected what t.found)

structure Level where
  condition : Reader Expr
  operand : Reader Expr

def enter (inner : Option Level) (t : Token) : Reader Level :=
  match inner with
  | some level => return level
  | none => failAt t.pos .tooDeep

section
variable [Pattern.Engine] (fuel : Nat) (inner : Option Level)

def argumentsFrom (level : Level) : (fuel : Nat) → (before : List Expr) → Reader (List Expr)
  | 0, _ => do failAt (← peek).pos .unexpectedEnd
  | fuel + 1, before => do
    let e ← level.operand
    if (← peek).isSymbol .comma then
      advance
      argumentsFrom level fuel (e :: before)
    else
      expectSymbol .closeParen
      return (e :: before).reverse

def arguments : Reader (List Expr) := do
  let t ← peek
  if t.isSymbol .closeParen then
    advance
    return []
  else argumentsFrom (← enter inner t) fuel []

def checkArguments (method : Token) (args : List Expr) (types : List ValueType) : Reader Unit := do
  if args.length ≠ types.length then
    failAt method.pos (.argumentCount method.text types.length args.length)
  match (args.zip types).find? fun p => p.1.type ≠ p.2 with
  | some (e, wanted) => failAt method.pos (.argumentType method.text wanted e.type)
  | none => return ()

def method (target : Expr) (name : Token) : Reader Expr := do
  expectSymbol .openParen
  let args ← arguments fuel inner
  if target.type ≠ .text then failAt name.pos (.noMethods name.text target.type)
  else if name.text = "includes" then
    checkArguments name args [.text]
    return .includes target (args.headD target)
  else if name.text = "toLowerCase" then
    checkArguments name args []
    return .changeCase false target
  else if name.text = "toUpperCase" then
    checkArguments name args []
    return .changeCase true target
  else failAt name.pos (.unknownMethod name.text)

def patternTest (pattern : Pattern) : Reader Expr := do
  expectSymbol .dot
  let name ← expectWord "'test'"
  if name.text ≠ "test" then failAt name.pos (.unknownPatternMethod name.text)
  expectSymbol .openParen
  let args ← arguments fuel inner
  checkArguments name args [.text]
  return .search pattern (args.headD (.text ""))

def newPattern : Reader Expr := do
  let name ← expectWord "'RegExp'"
  if name.text ≠ "RegExp" then failAt name.pos (.notRegExp name.text)
  expectSymbol .openParen
  let (t, body) ← expectText "a pattern string"
  let flags ← if (← peek).isSymbol .comma then do
      advance
      pure (← expectText "a flags string").2
    else pure ""
  expectSymbol .closeParen
  patternTest fuel inner (← compiled t body flags)

def fieldAccess : Reader Expr := do
  expectSymbol .dot
  let name ← expectWord "a transaction field"
  match Field.ofName? name.text with
  | some f => return .field f
  | none => failAt name.pos (.unknownField name.text)

def dateCall (part : DatePart) (name : Token) : Reader Expr := do
  expectSymbol .openParen
  let level ← enter inner name
  let arg ← level.operand
  expectSymbol .closeParen
  if arg.type ≠ .date then failAt name.pos (.dateWanted part)
  else return .datePart part arg

def named (name : Token) : Reader Expr := do
  if name.text = "transaction" then fieldAccess
  else if name.text = "new" then newPattern fuel inner
  else
    match DatePart.ofName? name.text with
    | some part => dateCall inner part name
    | none =>
      if (← peek).isSymbol .openParen then failAt name.pos (.unknownFunction name.text)
      else failAt name.pos (.unknownName name.text)

def negativeNumber : Reader Expr := do
  let t ← peek
  match t.lexeme with
  | .number value =>
    advance
    match value.negated? with
    | some n => return .number n
    | none => throw (.breakdown .numberOverflow)
  | _ => failAt t.pos (.expected "a number after '-'" t.found)

def primary : Reader Expr := do
  let t ← peek
  match t.lexeme with
  | .symbol .openParen =>
    let level ← enter inner t
    advance
    let e ← level.condition
    expectSymbol .closeParen
    return e
  | .text value => advance; return .text value
  | .number value => advance; return .number value
  | .symbol .minus => advance; negativeNumber
  | .pattern body flags =>
    advance
    patternTest fuel inner (← compiled t body flags)
  | .word => advance; named fuel inner t
  | .finish => failAt t.pos .unexpectedEnd
  | .symbol _ => failAt t.pos (.unexpected t.text)

def methodsFrom : (fuel : Nat) → Expr → Reader Expr
  | 0, e => return e
  | steps + 1, e => do
    if (← peek).isSymbol .dot then
      advance
      let name ← expectWord "a method name"
      methodsFrom steps (← method fuel inner e name)
    else return e

def operand : Reader Expr := do methodsFrom fuel inner fuel (← primary fuel inner)

def comparison : Reader Expr := do
  let left ← operand fuel inner
  let t ← peek
  match t.lexeme with
  | .symbol (.compare op) =>
    advance
    let right ← operand fuel inner
    blame t (makeComparison op left right)
  | _ => return left

def joinsFrom (kind : Join) (part : Reader Expr) : (fuel : Nat) → Expr → Reader Expr
  | 0, left => return left
  | fuel + 1, left => do
    if (← peek).isSymbol (.join kind) then
      advance
      joinsFrom kind part fuel (.join kind left (← part))
    else return left

def conjunction : Reader Expr := do
  joinsFrom .all (comparison fuel inner) fuel (← comparison fuel inner)

def disjunction : Reader Expr := do
  joinsFrom .any (conjunction fuel inner) fuel (← conjunction fuel inner)

end

section
variable [Pattern.Engine]

/-- The readers inside a bracket, when `room` more brackets may be open at once, that one
included. -/
def level (fuel : Nat) : (room : Nat) → Option Level
  | 0 => none
  | room + 1 => some ⟨disjunction fuel (level fuel room), operand fuel (level fuel room)⟩

def expectEnd : Reader Unit := do
  let t ← peek
  if t.lexeme = .finish then return () else failAt t.pos (.unexpected t.text)

def wholeCondition (fuel : Nat) : Reader Expr := do
  let t ← peek
  if t.lexeme = .finish then failAt t.pos .emptyCondition
  else
    let e ← disjunction fuel (level fuel maxNesting)
    expectEnd
    return e

def wholeOperand (fuel : Nat) : Reader Expr := do
  let e ← operand fuel (level fuel maxNesting)
  expectEnd
  return e

/-- Runs a reader on the tokens of a text without the blanks at its ends; the number of tokens
bounds all its repetitions. -/
def parseWith (reader : Nat → Reader Expr) (source : String) : Except Failure Expr :=
  Except.mapError Failure.caught do
    let ts ← tokens (Text.trim source.toList)
    return (← (reader ts.length).run ts).1

def parseCondition : String → Except Failure Expr := parseWith wholeCondition

def parseOperand : String → Except Failure Expr := parseWith wholeOperand

end

end LedgerRules.Condition
