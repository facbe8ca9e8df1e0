import LedgerRules.Settings

/-! Files of variables, one `NAME=value` to a line. Names and values may be quoted, a line may start
with `export`, `#` starts a comment, and a value may name other variables. A line that cannot be read
is passed over. What the surroundings already set stays as it is. -/

namespace LedgerRules.EnvFile
open Text

def isLineEnd (c : Char) : Bool := c = '\n' || c = '\r'

def isGap (c : Char) : Bool := isBlank c && !isLineEnd c

def dropGaps (cs : List Char) : List Char := cs.dropWhile isGap

def dropLineEnd : List Char → List Char
  | '\r' :: '\n' :: rest => rest
  | c :: rest => if isLineEnd c then rest else c :: rest
  | [] => []

def nextLine (cs : List Char) : List Char := dropLineEnd (cs.dropWhile (!isLineEnd ·))

abbrev Part (α : Type) := Except (List Char) (α × List Char)

def endLine (cs : List Char) : Part Unit :=
  let rest := match dropGaps cs with
    | '#' :: rest => rest.dropWhile (!isLineEnd ·)
    | rest => rest
  match rest with
  | [] => .ok ((), [])
  | c :: _ => if isLineEnd c then .ok ((), dropLineEnd rest) else .error cs

def dropExport (cs : List Char) : List Char :=
  match cs with
  | 'e' :: 'x' :: 'p' :: 'o' :: 'r' :: 't' :: c :: rest =>
    if isGap c then dropGaps rest else cs
  | _ => cs

def readName : List Char → Part (Option (List Char))
  | '#' :: rest => .ok (none, '#' :: rest)
  | '\'' :: rest =>
    match rest.span (· ≠ '\'') with
    | (c :: name, _ :: rest) => .ok (some (c :: name), rest)
    | _ => .error ('\'' :: rest)
  | cs =>
    match cs.span fun c => c ≠ '=' && c ≠ '#' && !isBlank c with
    | ([], _) => .error cs
    | (name, rest) => .ok (some name, rest)

/-- The length of a quoted value: up to the first quote without a backslash before it, or else up to
the last quote at all. -/
def quotedLength (quote : Char) : (before : Char) → (at_ : Nat) → (last : Option Nat) → List Char →
    Option Nat
  | _, _, last, [] => last
  | before, n, last, c :: rest =>
    if c = quote then
      if before = '\\' then quotedLength quote c (n + 1) (some n) rest else some n
    else quotedLength quote c (n + 1) last rest

def plainEscapes : List (Char × Char) := [('\\', '\\'), ('\'', '\'')]

def allEscapes : List (Char × Char) :=
  plainEscapes ++ [('"', '"'), ('a', '\x07'), ('b', '\x08'), ('f', '\x0c'), ('n', '\n'),
    ('r', '\r'), ('t', '\t'), ('v', '\x0b')]

def unescape (escapes : List (Char × Char)) : List Char → List Char
  | '\\' :: c :: rest =>
    match escapes.lookup c with
    | some d => d :: unescape escapes rest
    | none => '\\' :: unescape escapes (c :: rest)
  | c :: rest => c :: unescape escapes rest
  | [] => []
termination_by cs => cs.length

def readQuoted (quote : Char) (escapes : List (Char × Char)) (cs : List Char) :
    Part (List Char) :=
  match quotedLength quote quote 0 none cs with
  | some n => .ok (unescape escapes (cs.take n), cs.drop (n + 1))
  | none => .error (quote :: cs)

def startsComment (cs : List Char) : Bool :=
  match cs with
  | c :: _ => isBlank c && (cs.dropWhile isBlank).head? = some '#'
  | [] => false

def dropComment : List Char → List Char
  | [] => []
  | c :: rest => if startsComment (c :: rest) then [] else c :: dropComment rest

def readValue (cs : List Char) : Part (List Char) :=
  match cs with
  | '\'' :: rest => readQuoted '\'' plainEscapes rest
  | '"' :: rest => readQuoted '"' allEscapes rest
  | _ =>
    let (part, rest) := cs.span (!isLineEnd ·)
    .ok (trimEnd (dropComment part), rest)

abbrev Binding := String × Option (List Char)

def readBinding (cs : List Char) : Except (List Char) (Option Binding × List Char) := do
  let (name, rest) ← readName (dropExport cs)
  let rest := dropGaps rest
  match rest with
  | '=' :: rest =>
    let (value, rest) ← readValue (dropGaps rest)
    let (_, rest) ← endLine rest
    return (name.map fun n => (String.ofList n, some value), rest)
  | _ =>
    let (_, rest) ← endLine rest
    return (name.map fun n => (String.ofList n, none), rest)

/-- Every binding takes at least one character, so `fuel` need only be the length of the text. What
cannot be read is passed over up to the end of its line. -/
def bindingsFrom : (fuel : Nat) → List Char → List Binding
  | 0, _ => []
  | fuel + 1, cs =>
    match cs.dropWhile isBlank with
    | [] => []
    | cs =>
      match readBinding cs with
      | .ok (some b, rest) => b :: bindingsFrom fuel rest
      | .ok (none, rest) => bindingsFrom fuel rest
      | .error rest => bindingsFrom fuel (nextLine rest)

def bindings (cs : List Char) : List Binding := bindingsFrom cs.length cs

def readVariable (cs : List Char) : Option ((String × String) × List Char) :=
  match cs.span fun c => c ≠ '\x7d' && c ≠ ':' with
  | (name, '\x7d' :: rest) => some ((String.ofList name, ""), rest)
  | (name, ':' :: '-' :: rest) =>
    match rest.span (· ≠ '\x7d') with
    | (default, '\x7d' :: rest) => some ((String.ofList name, String.ofList default), rest)
    | _ => none
  | _ => none

def expandFrom (get : String → Option String) : (fuel : Nat) → List Char → List Char
  | 0, _ => []
  | _ + 1, [] => []
  | fuel + 1, '$' :: '\x7b' :: rest =>
    match readVariable rest with
    | some ((name, default), rest) =>
      ((get name).getD default).toList ++ expandFrom get fuel rest
    | none => '$' :: expandFrom get fuel ('\x7b' :: rest)
  | fuel + 1, c :: rest => c :: expandFrom get fuel rest

def expand (get : String → Option String) (cs : List Char) : String :=
  String.ofList (expandFrom get cs.length cs)

abbrev Values := List (String × Option String)

def setValue : Values → String → Option String → Values
  | [], name, v => [(name, v)]
  | (n, w) :: rest, name, v => if n = name then (n, v) :: rest else (n, w) :: setValue rest name v

def known (env : Environment) (values : Values) (name : String) : Option String :=
  match env.get? name with
  | some v => some v
  | none => (values.lookup name).map (·.getD "")

def resolve (env : Environment) (bs : List Binding) : Values :=
  bs.foldl (fun values b => setValue values b.1 (b.2.map (expand (known env values)))) []

def isSettable (name value : String) : Bool :=
  name ≠ "" && name.toList.all (fun c => c ≠ '=' && c ≠ '\x00') && value.toList.all (· ≠ '\x00')

def additions (cs : List Char) (env : Environment) : Environment :=
  (resolve env (bindings cs)).filterMap fun (name, v) =>
    match v, env.get? name with
    | some v, none => some (name, v)
    | _, _ => none

def load (cs : List Char) (env : Environment) : Option Environment :=
  let added := additions cs env
  if added.all fun (name, v) => isSettable name v then some (env ++ added) else none

end LedgerRules.EnvFile
