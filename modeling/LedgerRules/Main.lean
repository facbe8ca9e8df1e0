import LedgerRules.CommandLine.Run
import LedgerRules.Pattern.Builtin
import LedgerRules.Store.Archive

/-! The program. It reads the files that the command line may need, runs the command and writes back
what has changed. -/

namespace LedgerRules.CommandLine
open scoped Pattern.Builtin

def usageLines : List String :=
  ["Usage: ledger-rules [--log-level LEVEL] COMMAND [ARGUMENTS]",
    "",
    "Commands:",
    "  check-rule RULE                       print the category that a rule assigns",
    "  evaluate RULE --transaction JSON      print whether a rule matches a transaction",
    "  reapply [--data FILE] [--database-url URL] [--write] [--workers N]",
    "                                        apply all rules to all transactions",
    "  add-rule RULE [--database-url URL]    add a rule to the database"]

def usageText : String := String.join (usageLines.map (· ++ "\n"))

def namesIn (s : String) : List String :=
  let value := ((splitOption s).2).getD s
  let names := match DatabaseUrl.parse (Text.trimmed value) with
    | .ok u => (Directory.databaseFile? u).toList
    | .error _ => [FileName.ofString value]
  names.map FileName.text

def contentOf (s : String) : Content :=
  match Database.ofArchive? s.toList with
  | some db => .database (some db)
  | none => .text s

def contentText : Content → String
  | .text s => s
  | .database none => ""
  | .database (some db) => String.ofList db.archive

def readFiles (names : List String) : IO Directory := do
  let mut files := []
  for name in names do
    match ← (IO.FS.readFile name).toBaseIO with
    | .ok s => files := files ++ [(name, contentOf s)]
    | .error _ => pure ()
  return ⟨files⟩

def writeFiles (before after : Directory) : IO Unit := do
  for (name, content) in after.files do
    let text := contentText content
    if (before.get? name).map contentText ≠ some text then IO.FS.writeFile name text

def environmentVariables : List String :=
  [Settings.budgetVariable, Settings.workersVariable, Settings.databaseVariable,
    Logging.levelVariable]

def readEnvironment : IO Environment := do
  let mut env := []
  for name in environmentVariables do
    match ← IO.getEnv name with
    | some v => env := env ++ [(name, v)]
    | none => pure ()
  return env

def reportLine (r : Report) : String :=
  let word := r.importance.word
  let padding := "".pushn ' ' (7 - word.length)
  s!"{word}{padding} {Logging.loggerName r.topic} {r.text}"

def elapsed : Numeric.Decimal := .finite false 1 (-6)

def runProgram (args : List String) : IO UInt32 := do
  let env ← readEnvironment
  let start ← readFiles [Context.envFileName]
  let known := (Context.loadEnvironment env start).getD env
  let url := (known.get? Settings.databaseVariable).getD ""
  let names := (args ++ [url]).flatMap namesIn
  let before ← readFiles (Context.envFileName :: names).eraseDups
  let first ← IO.rand 0 (Nat.pow 2 128 - 1)
  let outcome := Context.run ⟨(·.clockAfter elapsed), idsFrom first, env⟩ before args
  let stderr ← IO.getStderr
  for r in outcome.reports do
    stderr.putStrLn (reportLine r)
  match outcome.ending with
  | .done output => IO.print output
  | .help => IO.print usageText
  | .usage => stderr.putStr usageText
  | .failed c => stderr.putStrLn ("Error: " ++ c.message)
  | .stopped => stderr.putStrLn "The command could not be completed."
  writeFiles before outcome.directory
  return UInt32.ofNat outcome.ending.exitCode

end LedgerRules.CommandLine

def main (args : List String) : IO UInt32 := LedgerRules.CommandLine.runProgram args
