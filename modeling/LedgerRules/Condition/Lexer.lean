import LedgerRules.Condition.Token
import LedgerRules.Text.Blank

/-! Cutting a condition into tokens. Blanks separate tokens and belong to none; each step reads one
token from the front of the text. -/

namespace LedgerRules.Condition
open Text

def escapeChar? : Char → Option Char
  | '"' => some '"'
  | '\'' => some '\''
  | '\\' => some '\\'
  | '/' => some '/'
  | 'n' => some '\n'
  | 't' => some '\t'
  | 'r' => some '\r'
  | _ => none

def readText (start : Nat) : (pos : Nat) → (value : List Char) → List Char →
    Except Fault (List Char × Nat × List Char)
  | _, _, [] => .error ⟨.openText, some start⟩
  | pos, value, '"' :: rest => .ok (value.reverse, pos + 1, rest)
  | _, _, ['\\'] => .error ⟨.openText, some start⟩
  | pos, value, '\\' :: c :: rest =>
    match escapeChar? c with
    | some d => readText start (pos + 2) (d :: value) rest
    | none => .error ⟨.unsupportedEscape c, some pos⟩
  | pos, value, c :: rest => readText start (pos + 1) (c :: value) rest

/-- The body of a pattern literal up to the slash that ends it. A slash in brackets or after a
backslash does not. -/
def readPatternBody : (inSet : Bool) → (body : List Char) → List Char →
    Option (List Char × List Char)
  | _, _, [] => none
  | _, _, ['\\'] => none
  | inSet, body, '\\' :: c :: rest => readPatternBody inSet (c :: '\\' :: body) rest
  | _, _, '\n' :: _ => none
  | _, body, '[' :: rest => readPatternBody true ('[' :: body) rest
  | _, body, ']' :: rest => readPatternBody false (']' :: body) rest
  | false, body, '/' :: rest => some (body.reverse, rest)
  | inSet, body, c :: rest => readPatternBody inSet (c :: body) rest

def splitNumber (cs : List Char) : List Char × List Char × List Char :=
  let whole := cs.takeWhile isDecimalDigit
  match cs.dropWhile isDecimalDigit with
  | '.' :: rest =>
    let fraction := rest.takeWhile isDecimalDigit
    if fraction.isEmpty then (whole, [], '.' :: rest)
    else (whole, fraction, rest.dropWhile isDecimalDigit)
  | rest => (whole, [], rest)

def numberValue (whole fraction : List Char) : Numeric.Decimal :=
  .finite false (digitsValue (whole ++ fraction)) (-(fraction.length : Int))

def isFlagChar (c : Char) : Bool :=
  (0x41 ≤ c.toNat && c.toNat ≤ 0x5A) || (0x61 ≤ c.toNat && c.toNat ≤ 0x7A)

def isWordStart (c : Char) : Bool := isFlagChar c || c == '_' || c == '$'

def isWordPart (c : Char) : Bool := isWordStart c || (0x30 ≤ c.toNat && c.toNat ≤ 0x39)

def takeSymbol? : List Char → Option (Symbol × List Char)
  | '=' :: '=' :: '=' :: r => some (.compare .same, r)
  | '!' :: '=' :: '=' :: r => some (.compare .different, r)
  | '>' :: '=' :: r => some (.compare .atLeast, r)
  | '<' :: '=' :: r => some (.compare .atMost, r)
  | '&' :: '&' :: r => some (.join .all, r)
  | '|' :: '|' :: r => some (.join .any, r)
  | '>' :: r => some (.compare .greater, r)
  | '<' :: r => some (.compare .less, r)
  | '(' :: r => some (.openParen, r)
  | ')' :: r => some (.closeParen, r)
  | '.' :: r => some (.dot, r)
  | ',' :: r => some (.comma, r)
  | '-' :: r => some (.minus, r)
  | _ => none

def looseOperator? : List Char → Option String
  | '=' :: '=' :: r => if r.head? = some '=' then none else some "=="
  | '!' :: '=' :: r => if r.head? = some '=' then none else some "!="
  | _ => none

def fault {α : Type} (cause : Cause) (pos : Nat) : Except Failure α :=
  .error (.fault ⟨cause, some pos⟩)

/-- The token at the front of a text that begins with `c`, which is no blank, and what follows. -/
def readToken (pos : Nat) (c : Char) (more : List Char) : Except Failure (Token × List Char) :=
  let cs := c :: more
  if c = '"' then
    match readText pos (pos + 1) [] more with
    | .ok (value, stop, rest) =>
      .ok (⟨.text (String.ofList value), String.ofList (cs.take (stop - pos)), pos⟩, rest)
    | .error f => .error (.fault f)
  else if isDigitLike c then
    if isDecimalDigit c then
      let (whole, fraction, rest) := splitNumber cs
      let point := if fraction.isEmpty then [] else ['.']
      .ok (⟨.number (numberValue whole fraction), String.ofList (whole ++ point ++ fraction), pos⟩,
        rest)
    else .error (.breakdown .strayDigit)
  else if c = '/' then
    match readPatternBody false [] more with
    | none => fault .openPattern pos
    | some ([], _) => fault .emptyPattern pos
    | some (body, rest) =>
      let flags := rest.takeWhile isFlagChar
      .ok (⟨.pattern (String.ofList body) (String.ofList flags),
        String.ofList ('/' :: body ++ '/' :: flags), pos⟩, rest.dropWhile isFlagChar)
  else if isWordStart c then
    .ok (⟨.word, String.ofList (cs.takeWhile isWordPart), pos⟩, cs.dropWhile isWordPart)
  else
    match looseOperator? cs with
    | some op => fault (.looseOperator op) pos
    | none =>
      match takeSymbol? cs with
      | some (s, rest) => .ok (⟨.symbol s, s.text, pos⟩, rest)
      | none => fault (.unexpectedChar c) pos

def tokensFrom : (fuel : Nat) → (pos : Nat) → (before : List Token) → List Char →
    Except Failure (List Token)
  | 0, pos, before, _ => .ok ((⟨.finish, "", pos⟩ :: before).reverse)
  | _ + 1, pos, before, [] => .ok ((⟨.finish, "", pos⟩ :: before).reverse)
  | fuel + 1, pos, before, c :: rest =>
    if isBlank c then tokensFrom fuel (pos + 1) before rest
    else
      match readToken pos c rest with
      | .ok (t, after) => tokensFrom fuel (pos + t.text.length) (t :: before) after
      | .error f => .error f

/-- All tokens of a text, the last one marking its end. No step leaves the text as it is, so its
length bounds their number. -/
def tokens (source : List Char) : Except Failure (List Token) :=
  tokensFrom (source.length + 1) 0 [] source

end LedgerRules.Condition
