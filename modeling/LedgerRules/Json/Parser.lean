import LedgerRules.Text.Integer
import LedgerRules.Value.Basic

/-! Reading JSON. Besides what the format allows, `NaN` and the infinities are numbers. Of members
with one name the last counts. A fault names the character at which the text stops being JSON. -/

namespace LedgerRules.Json
open Numeric

inductive Cause
  | value
  | property
  | colon
  | comma
  | openText
  | controlChar
  | badEscape
  | badUnit
  | extra
  | byteOrderMark
  | halfPair
  | tooDeep
deriving DecidableEq

def Cause.message : Cause → String
  | value => "Expecting value"
  | property => "Expecting property name enclosed in double quotes"
  | colon => "Expecting ':' delimiter"
  | comma => "Expecting ',' delimiter"
  | openText => "Unterminated string starting at"
  | controlChar => "Invalid control character at"
  | badEscape => "Invalid \\escape"
  | badUnit => "Invalid \\uXXXX escape"
  | extra => "Extra data"
  | byteOrderMark => "Unexpected UTF-8 BOM (decode using utf-8-sig)"
  | halfPair => "Half of a surrogate pair"
  | tooDeep => "Nested too deeply"

structure Fault where
  cause : Cause
  pos : Nat
deriving DecidableEq

def Fault.message (source : List Char) (f : Fault) : String :=
  let before := source.take f.pos
  let line := before.count '\n' + 1
  let column := (before.reverse.takeWhile (· ≠ '\n')).length + 1
  s!"{f.cause.message}: line {line} column {column} (char {f.pos})"

inductive Failure
  | fault (f : Fault)
  | integer (f : Text.IntegerFault)
deriving DecidableEq

structure Dialect where
  depth : Nat
  halves : Bool

structure Cursor where
  pos : Nat
  rest : List Char

namespace Cursor

def skip (n : Nat) (c : Cursor) : Cursor := ⟨c.pos + n, c.rest.drop n⟩

def isSpace (c : Char) : Bool := c = ' ' || c = '\t' || c = '\n' || c = '\r'

def skipSpace (c : Cursor) : Cursor := c.skip (c.rest.takeWhile isSpace).length

def fail {α : Type} (c : Cursor) (cause : Cause) : Except Failure α :=
  .error (.fault ⟨cause, c.pos⟩)

end Cursor

abbrev Reader (α : Type) := Cursor → Except Failure (α × Cursor)

def simpleEscape? : Char → Option Char
  | '"' => some '"'
  | '\\' => some '\\'
  | '/' => some '/'
  | 'b' => some '\x08'
  | 'f' => some '\x0c'
  | 'n' => some '\n'
  | 'r' => some '\r'
  | 't' => some '\t'
  | _ => none

def unit? (cs : List Char) : Option Nat :=
  if cs.length < 5 then none else Text.hexNumber? (cs.take 4)

def isHigh (n : Nat) : Bool := 0xD800 ≤ n && n < 0xDC00
def isLow (n : Nat) : Bool := 0xDC00 ≤ n && n < 0xE000

def joinPair (high low : Nat) : Char :=
  Char.ofNat (0x10000 + (high - 0xD800) * 0x400 + (low - 0xDC00))

def replacement : Char := Char.ofNat 0xFFFD

def lonelyHalf (d : Dialect) (start : Cursor) : Reader Char := fun next =>
  if d.halves then .ok (replacement, next) else start.fail .halfPair

def secondUnit? : List Char → Option (List Char)
  | '\\' :: 'u' :: rest => if rest.length < 5 then none else some rest
  | _ => none

def readUnit (d : Dialect) : Reader Char := fun c =>
  match unit? (c.rest.drop 1) with
  | none => c.fail .badUnit
  | some n =>
    let next := c.skip 5
    if isHigh n then
      match secondUnit? next.rest with
      | none => lonelyHalf d c next
      | some rest =>
        match unit? rest with
        | none => (next.skip 1).fail .badUnit
        | some m => if isLow m then .ok (joinPair n m, next.skip 6) else lonelyHalf d c next
    else if isLow n then lonelyHalf d c next
    else .ok (Char.ofNat n, next)

def readChars (d : Dialect) (opening : Cursor) : (fuel : Nat) → Reader (List Char)
  | 0, _ => opening.fail .openText
  | fuel + 1, c =>
    match c.rest with
    | [] => opening.fail .openText
    | '"' :: _ => .ok ([], c.skip 1)
    | ['\\'] => opening.fail .openText
    | '\\' :: 'u' :: _ => do
      let (x, next) ← readUnit d (c.skip 1)
      let (xs, last) ← readChars d opening fuel next
      return (x :: xs, last)
    | '\\' :: e :: _ =>
      match simpleEscape? e with
      | none => c.fail .badEscape
      | some x => do
        let (xs, last) ← readChars d opening fuel (c.skip 2)
        return (x :: xs, last)
    | x :: _ =>
      if x.toNat < 0x20 then c.fail .controlChar
      else do
        let (xs, last) ← readChars d opening fuel (c.skip 1)
        return (x :: xs, last)

def readText (d : Dialect) : Reader String := fun c => do
  let (cs, next) ← readChars d c c.rest.length (c.skip 1)
  return (String.ofList cs, next)

def isDigit (c : Char) : Bool := 0x30 ≤ c.toNat && c.toNat ≤ 0x39

def wholePart : List Char → Option (List Char × List Char)
  | '0' :: rest => some (['0'], rest)
  | c :: rest => if isDigit c then some ((c :: rest).span isDigit) else none
  | [] => none

def fractionPart : List Char → List Char × List Char
  | '.' :: c :: rest =>
    if isDigit c then
      let (digits, rest) := (c :: rest).span isDigit
      ('.' :: digits, rest)
    else ([], '.' :: c :: rest)
  | cs => ([], cs)

def takeSign : List Char → List Char × List Char
  | '+' :: rest => (['+'], rest)
  | '-' :: rest => (['-'], rest)
  | cs => ([], cs)

def exponentPart (cs : List Char) : List Char :=
  match cs with
  | mark :: rest =>
    if mark = 'e' || mark = 'E' then
      let (sign, rest) := takeSign rest
      let digits := rest.takeWhile isDigit
      if digits.isEmpty then [] else mark :: sign ++ digits
    else []
  | [] => []

def readNumber : Reader Value := fun c =>
  let (negative, body) := Decimal.takeSign c.rest
  match wholePart body with
  | none => c.fail .value
  | some (whole, rest) =>
    let (fraction, rest) := fractionPart rest
    let exponent := exponentPart rest
    let sign := Decimal.signText negative
    let lexeme := sign ++ whole ++ fraction ++ exponent
    let next := c.skip lexeme.length
    if fraction.isEmpty && exponent.isEmpty then
      if Text.longestInteger < whole.length then .error (.integer (.tooLong whole.length))
      else
        let n : Int := Text.digitsValue whole
        .ok (.int (if negative then -n else n), next)
    else .ok (.float ((Binary64.parse? lexeme).getD .nan), next)

def words : List (String × Value) :=
  [("null", .null), ("true", .bool true), ("false", .bool false), ("NaN", .float .nan),
    ("Infinity", .float (.infinite false)), ("-Infinity", .float (.infinite true))]

def readWord (c : Cursor) : Option (Value × Cursor) :=
  (words.find? fun w => w.1.toList.isPrefixOf c.rest).map fun w => (w.2, c.skip w.1.length)

def readLeaf : Reader Value := fun c =>
  match readWord c with
  | some found => .ok found
  | none =>
    match c.rest with
    | '+' :: _ => c.fail .value
    | _ => readNumber c

def readItems (item : Reader Value) : (fuel : Nat) → Reader (List Value)
  | 0, c => c.fail .value
  | fuel + 1, c => do
    let (v, next) ← item c
    let next := next.skipSpace
    match next.rest with
    | ']' :: _ => return ([v], next.skip 1)
    | ',' :: _ =>
      let (vs, last) ← readItems item fuel (next.skip 1).skipSpace
      return (v :: vs, last)
    | _ => next.fail .comma

def readMember (d : Dialect) (item : Reader Value) : Reader (String × Value) := fun c =>
  match c.rest with
  | '"' :: _ => do
    let (key, next) ← readText d c
    let next := next.skipSpace
    match next.rest with
    | ':' :: _ =>
      let (v, last) ← item (next.skip 1).skipSpace
      return ((key, v), last)
    | _ => next.fail .colon
  | _ => c.fail .property

def readMembers (d : Dialect) (item : Reader Value) : (fuel : Nat) → Reader Members
  | 0, c => c.fail .property
  | fuel + 1, c => do
    let (m, next) ← readMember d item c
    let next := next.skipSpace
    match next.rest with
    | '\x7d' :: _ => return ([m], next.skip 1)
    | ',' :: _ =>
      let (ms, last) ← readMembers d item fuel (next.skip 1).skipSpace
      return (m :: ms, last)
    | _ => next.fail .comma

def readValue (d : Dialect) : (room : Nat) → Reader Value
  | room, c =>
    match c.rest with
    | '"' :: _ => do
      let (s, next) ← readText d c
      return (.text s, next)
    | '[' :: _ =>
      match room with
      | 0 => c.fail .tooDeep
      | room + 1 => do
        let first := (c.skip 1).skipSpace
        match first.rest with
        | ']' :: _ => return (.list [], first.skip 1)
        | _ =>
          let (vs, next) ← readItems (readValue d room) c.rest.length first
          return (.list vs, next)
    | '\x7b' :: _ =>
      match room with
      | 0 => c.fail .tooDeep
      | room + 1 => do
        let first := (c.skip 1).skipSpace
        match first.rest with
        | '\x7d' :: _ => return (.map [], first.skip 1)
        | _ =>
          let (ms, next) ← readMembers d (readValue d room) c.rest.length first
          return (.map (Members.ofPairs ms), next)
    | _ => readLeaf c

def byteOrderMark : Char := Char.ofNat 0xFEFF

def parse (d : Dialect) (cs : List Char) : Except Failure Value :=
  if cs.head? = some byteOrderMark then .error (.fault ⟨.byteOrderMark, 0⟩)
  else do
    let (v, next) ← readValue d d.depth (Cursor.skipSpace ⟨0, cs⟩)
    let next := next.skipSpace
    if next.rest.isEmpty then return v else next.fail .extra

def parseDocument (cs : List Char) : Except Failure Value := parse ⟨cs.length, true⟩ cs

def parseRecord (cs : List Char) : Except Failure Value := parse ⟨200, false⟩ cs

end LedgerRules.Json
