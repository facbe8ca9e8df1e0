import LedgerRules.Text.Integer

/-! The command line. Options may stand before and after the arguments of a command and may carry
their value after an equals sign; after `--` everything is an argument. Of an option given twice the
last counts. -/

namespace LedgerRules.CommandLine

inductive Command
  | checkRule (rule : String)
  | evaluate (rule transaction : String)
  | reapply (data databaseUrl : Option String) (write : Bool) (workers : Option Int)
  | addRule (rule : String) (databaseUrl : Option String)
deriving DecidableEq

inductive Refusal
  | help
  | usage
deriving DecidableEq

abbrev Options := List (String × Bool)

structure Parsed where
  options : List (String × String)
  arguments : List String
deriving DecidableEq

namespace Parsed

def addOption (name value : String) (p : Parsed) : Parsed :=
  { p with options := (name, value) :: p.options }

def addArgument (a : String) (p : Parsed) : Parsed := { p with arguments := a :: p.arguments }

def value? (p : Parsed) (name : String) : Option String := p.options.reverse.lookup name

def has (p : Parsed) (name : String) : Bool := (p.value? name).isSome

def lastOf (p : Parsed) (names : List String) : Option String :=
  (p.options.reverse.find? fun o => names.contains o.1).map (·.1)

end Parsed

def isOption (s : String) : Bool :=
  match s.toList with
  | '-' :: _ :: _ => true
  | _ => false

def splitOption (s : String) : String × Option String :=
  match s.toList.span (· ≠ '=') with
  | (name, _ :: value) => (String.ofList name, some (String.ofList value))
  | (name, []) => (String.ofList name, none)

def sort (known : Options) (mixed : Bool) : List String → Except Refusal Parsed
  | [] => .ok ⟨[], []⟩
  | s :: rest =>
    if s = "--" then .ok ⟨[], rest⟩
    else if isOption s then
      let (name, attached) := splitOption s
      match known.lookup name, attached with
      | none, _ => .error .usage
      | some true, some v => (sort known mixed rest).map (·.addOption name v)
      | some true, none =>
        match rest with
        | [] => .error .usage
        | v :: rest => (sort known mixed rest).map (·.addOption name v)
      | some false, some _ => .error .usage
      | some false, none => (sort known mixed rest).map (·.addOption name "")
    else if mixed then (sort known mixed rest).map (·.addArgument s)
    else .ok ⟨[], s :: rest⟩

structure Invocation where
  logLevel : Option String
  name : String
  rest : List String
deriving DecidableEq

def commandNames : List String := ["check-rule", "evaluate", "reapply", "add-rule"]

def invocation (args : List String) : Except Refusal Invocation := do
  let p ← sort [("--log-level", true), ("--help", false)] false args
  if p.has "--help" then throw .help
  match p.arguments with
  | [] => throw .usage
  | name :: rest =>
    if commandNames.contains name then return ⟨p.value? "--log-level", name, rest⟩
    else throw .usage

def oneArgument (p : Parsed) : Except Refusal String :=
  match p.arguments with
  | [a] => .ok a
  | _ => .error .usage

def checkRule (args : List String) : Except Refusal Command := do
  let p ← sort [("--help", false)] true args
  if p.has "--help" then throw .help
  return .checkRule (← oneArgument p)

def evaluate (args : List String) : Except Refusal Command := do
  let p ← sort [("--transaction", true), ("--help", false)] true args
  if p.has "--help" then throw .help
  let rule ← oneArgument p
  match p.value? "--transaction" with
  | none => throw .usage
  | some t => return .evaluate rule t

def workersOf (p : Parsed) : Except Refusal (Option Int) :=
  match p.value? "--workers" with
  | none => .ok none
  | some s =>
    match Text.integer? s with
    | some n => .ok (some n)
    | none => .error .usage

def reapply (isDirectory : String → Bool) (args : List String) : Except Refusal Command := do
  let p ← sort [("--data", true), ("--database-url", true), ("--write", false),
    ("--no-write", false), ("--workers", true), ("--help", false)] true args
  if p.has "--help" then throw .help
  let data := p.value? "--data"
  if (data.map isDirectory).getD false then throw .usage
  let workers ← workersOf p
  if !p.arguments.isEmpty then throw .usage
  return .reapply data (p.value? "--database-url")
    (p.lastOf ["--write", "--no-write"] = some "--write") workers

def addRule (args : List String) : Except Refusal Command := do
  let p ← sort [("--database-url", true), ("--help", false)] true args
  if p.has "--help" then throw .help
  return .addRule (← oneArgument p) (p.value? "--database-url")

def Invocation.command (i : Invocation) (isDirectory : String → Bool) : Except Refusal Command :=
  match i.name with
  | "check-rule" => checkRule i.rest
  | "evaluate" => evaluate i.rest
  | "reapply" => reapply isDirectory i.rest
  | _ => addRule i.rest

end LedgerRules.CommandLine
