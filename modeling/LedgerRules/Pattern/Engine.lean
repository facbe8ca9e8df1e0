/-! What conditions ask of the engine that compiles search patterns and searches texts with them.
Everything that is said of conditions holds with any such engine. -/

namespace LedgerRules

namespace Pattern

structure Flags where
  ignoreCase : Bool := false
  lines : Bool := false
  dotAll : Bool := false
  spaced : Bool := false
deriving DecidableEq

def Flags.letters (f : Flags) : String :=
  (if f.ignoreCase then "i" else "") ++ (if f.lines then "m" else "")
    ++ (if f.dotAll then "s" else "")

end Pattern

/-- A compiled pattern: the text that it was compiled from, and the options that hold for all of it,
those that the text itself turns on included. -/
structure Pattern where
  source : String
  flags : Pattern.Flags
deriving DecidableEq

namespace Pattern

inductive Refusal
  | fault (reason : String)
  | exhausted
deriving DecidableEq

/-- An engine refuses a text that is no pattern, and says why, or one that is nested too deeply for
its stack. Whether the stack lasts is taken to depend on the pattern alone. -/
class Engine where
  compile : String → Flags → Except Refusal Pattern
  search : Pattern → String → Bool

end Pattern

end LedgerRules
