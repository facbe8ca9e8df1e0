import LedgerRules.Settings

/-! Database URLs: a driver, and the file that holds the database. Only one kind of database is
served, which lives in a file or in memory and has neither host nor user. -/

namespace LedgerRules

structure DatabaseUrl where
  driver : String
  database : Option String
deriving DecidableEq

inductive UrlFault
  | notSet
  | malformed
  | unknownDriver (name : String)
deriving DecidableEq

def UrlFault.message : UrlFault → String
  | notSet => "DATABASE_URL is not set; cannot initialize database client"
  | malformed => "Could not parse the database URL"
  | unknownDriver name => s!"Can't load plugin: {name}"

namespace DatabaseUrl

def isDriverChar (c : Char) : Bool := c = '+' || c = '_' || c.isAlphanum

def splitDriver (cs : List Char) : Option (List Char × List Char) :=
  match cs.span isDriverChar with
  | ([], _) => none
  | (driver, ':' :: '/' :: '/' :: rest) => some (driver, rest)
  | _ => none

def databaseName (cs : List Char) : String := String.ofList (cs.takeWhile (· ≠ '?'))

def drivers : List String := ["sqlite", "sqlite+pysqlite"]

def parse (url : String) : Except UrlFault DatabaseUrl :=
  match splitDriver url.toList with
  | none => .error .malformed
  | some (driver, rest) =>
    let driver := String.ofList driver
    if drivers.contains driver then
      match rest with
      | [] => .ok ⟨driver, none⟩
      | '/' :: name => .ok ⟨driver, some (databaseName name)⟩
      | '?' :: _ => .ok ⟨driver, none⟩
      | _ => .error .malformed
    else .error (.unknownDriver driver)

def choose (given : Option String) (env : Environment) : Except UrlFault String :=
  match given, env.get? Settings.databaseVariable with
  | some url, other => if url = "" then fromSurroundings other else .ok url
  | none, other => fromSurroundings other
where
  fromSurroundings : Option String → Except UrlFault String
    | some url => if url = "" then .error .notSet else .ok url
    | none => .error .notSet

def isInMemory (u : DatabaseUrl) : Bool :=
  match u.database with
  | none => true
  | some name => name = "" || name = ":memory:"

end DatabaseUrl

end LedgerRules
