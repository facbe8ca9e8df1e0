import LedgerRules.Settings
import LedgerRules.Text.Case

/-! Levels of importance, as numbers or names. A name that is not known means the default. -/

namespace LedgerRules.Logging

inductive Level
  | number (n : Int)
  | truth (b : Bool)
deriving DecidableEq

namespace Level

def rank : Level → Int
  | number n => n
  | truth b => if b then 1 else 0

def names : List (String × Int) :=
  [("CRITICAL", 50), ("FATAL", 50), ("ERROR", 40), ("WARN", 30), ("WARNING", 30), ("INFO", 20),
    ("DEBUG", 10), ("NOTSET", 0)]

def words : List (Int × String) :=
  [(50, "CRITICAL"), (40, "ERROR"), (30, "WARNING"), (20, "INFO"), (10, "DEBUG"), (0, "NOTSET")]

def word (l : Level) : String :=
  (words.lookup l.rank).getD <|
    "Level " ++ (match l with
      | number n => toString n
      | truth b => (Value.bool b).shown)

def standard : Level := number 20

end Level

inductive LevelRequest
  | absent
  | number (n : Int)
  | truth (b : Bool)
  | text (s : String)
  | other
deriving DecidableEq

inductive LevelFault
  | integer (f : Text.IntegerFault)
  | notText
deriving DecidableEq

def levelVariable : String := "TRANSACTION_RULES_LOG_LEVEL"

def levelOfText (s : String) : Except LevelFault Level :=
  let text := Text.trim s.toList
  if !text.isEmpty && text.all Text.isDigitLike then
    match Text.readInteger (String.ofList text) with
    | .ok n => .ok (.number n)
    | .error f => .error (.integer f)
  else
    let name := String.ofList (Text.toUpper text)
    .ok (((Level.names.lookup name).map Level.number).getD .standard)

def resolveLevel (env : Environment) : LevelRequest → Except LevelFault Level
  | .absent =>
    match env.get? levelVariable with
    | none => .ok .standard
    | some "" => .ok .standard
    | some s => levelOfText s
  | .number n => .ok (.number n)
  | .truth b => .ok (.truth b)
  | .text s => levelOfText s
  | .other => .error .notText

end LedgerRules.Logging
