import LedgerRules.Logging.Layout
import LedgerRules.Logging.Level

/-! Where reports go. The reports of the whole package pass through one logger. Configuring it puts
one handler of our own in place of an earlier one, and keeps reports from the root; resetting takes
the handler away again. -/

namespace LedgerRules.Logging

def packageName : String := "transaction_rules"

def loggerName (name : String) : String :=
  if name = packageName || (packageName ++ ".").toList.isPrefixOf name.toList then name
  else packageName ++ "." ++ name

structure Entry where
  logger : String
  level : Level
  message : String
deriving DecidableEq

def fill (e : Entry) : List Char → List Char
  | '%' :: '(' :: 'n' :: 'a' :: 'm' :: 'e' :: ')' :: 's' :: rest => e.logger.toList ++ fill e rest
  | '%' :: '(' :: 'l' :: 'e' :: 'v' :: 'e' :: 'l' :: 'n' :: 'a' :: 'm' :: 'e' :: ')' :: 's' :: rest =>
    e.level.word.toList ++ fill e rest
  | '%' :: '(' :: 'm' :: 'e' :: 's' :: 's' :: 'a' :: 'g' :: 'e' :: ')' :: 's' :: rest =>
    e.message.toList ++ fill e rest
  | c :: rest => c :: fill e rest
  | [] => []

inductive Handler
  | silent
  | stream (name layout : String)
deriving DecidableEq

def Handler.isOurs : Handler → Bool
  | silent => false
  | stream .. => true

structure State where
  handlers : List Handler
  level : Level
  propagate : Bool
deriving DecidableEq

namespace State

def initial : State := ⟨[.silent], .number 0, true⟩

def dropOurs (s : State) : State := { s with handlers := s.handlers.filter (!·.isOurs) }

def reset (s : State) : State := { s.dropOurs with level := .number 0, propagate := true }

end State

inductive ConfigureFault
  | level (f : LevelFault)
  | layout (text : String)
deriving DecidableEq

def defaultLayout : String := "%(asctime)s %(levelname)-7s %(name)s %(message)s"

/-- Puts a new handler in place. The level is read first; a layout is refused only after the earlier
handler is gone. -/
def configure (env : Environment) (level : LevelRequest) (layout : Option String) (stream : String)
    (s : State) : Except ConfigureFault Handler × State :=
  match resolveLevel env level with
  | .error f => (.error (.level f), s)
  | .ok level =>
    let s := s.dropOurs
    let layout := match layout with
      | none => defaultLayout
      | some "" => defaultLayout
      | some text => text
    if isLayout layout.toList then
      let handler := Handler.stream stream layout
      (.ok handler, { handlers := s.handlers ++ [handler], level, propagate := false })
    else (.error (.layout layout), s)

def rootLevel : Int := 30

def State.threshold (s : State) : Int := if s.level.rank = 0 then rootLevel else s.level.rank

def emit (s : State) (e : Entry) : List (String × String) :=
  if e.level.rank < s.threshold || e.level.rank ≤ 0 then []
  else
    s.handlers.filterMap fun
      | .silent => none
      | .stream name layout => some (name, String.ofList (fill e layout.toList ++ ['\n']))

end LedgerRules.Logging
