import LedgerRules.Store.Database
import LedgerRules.Store.Url

/-! The working directory: files by their names, each a text or a database. -/

namespace LedgerRules.CommandLine

inductive Content
  | text (s : String)
  | database (tables : Option Database)

structure Directory where
  files : List (String × Content)

structure FileName where
  fromRoot : Bool
  steps : List String
deriving DecidableEq

namespace FileName

def ofString (s : String) : FileName :=
  { fromRoot := s.toList.head? = some '/'
    steps := ((s.toList.splitOn '/').map String.ofList).filter fun step =>
      step ≠ "" && step ≠ "." }

def text (f : FileName) : String :=
  if f.fromRoot then "/" ++ "/".intercalate f.steps
  else if f.steps.isEmpty then "."
  else "/".intercalate f.steps

end FileName

inductive Target
  | file (name : String)
  | directory
  | beneathFile
  | nowhere
deriving DecidableEq

namespace Directory

def get? (d : Directory) (name : String) : Option Content := d.files.lookup name

def put (name : String) (c : Content) (d : Directory) : Directory :=
  if (d.get? name).isSome then
    ⟨d.files.map fun f => if f.1 = name then (name, c) else f⟩
  else ⟨d.files ++ [(name, c)]⟩

def remove (name : String) (d : Directory) : Directory := ⟨d.files.filter (·.1 ≠ name)⟩

def target (d : Directory) (f : FileName) : Target :=
  if (d.get? f.text).isSome then .file f.text
  else if f.fromRoot then (if f.steps.isEmpty then .directory else .nowhere)
  else
    match f.steps with
    | [] => .directory
    | [step] => if step = ".." then .directory else .file step
    | first :: _ => if (d.get? first).isSome then .beneathFile else .nowhere

def isDirectory (d : Directory) (s : String) : Bool :=
  s ≠ "" && d.target (FileName.ofString s) = .directory

def uniformLines : List Char → List Char
  | '\r' :: '\n' :: rest => '\n' :: uniformLines rest
  | '\r' :: rest => '\n' :: uniformLines rest
  | c :: rest => c :: uniformLines rest
  | [] => []

inductive Trouble
  | url (f : UrlFault)
  | cannotOpen
  | notDatabase
  | noTable (name : String)
  | fault (f : StoreFault)
deriving DecidableEq

def faultMessage : StoreFault → String
  | .takenId => "(sqlite3.IntegrityError) UNIQUE constraint failed: rc_rules.rule_id"
  | .unwritable => "the condition tree cannot be written as JSON"
  | .unreadable faults => s!"{faults.length} validation error for Transaction"
  | .pass (.breakdown .strayDigit) => ""
  | .pass (.breakdown .numberOverflow) => "[<class 'decimal.Overflow'>]"
  | .pass (.breakdown .longInteger) => Text.unwrittenMessage
  | .pass (.breakdown .stackExhausted) => "maximum recursion depth exceeded"
  | .pass .noCategory => "no category"
  | .pass .longId => Text.unwrittenMessage

def Trouble.message : Trouble → String
  | url f => f.message
  | cannotOpen => "(sqlite3.OperationalError) unable to open database file"
  | notDatabase => "(sqlite3.DatabaseError) file is not a database"
  | noTable name => s!"(sqlite3.OperationalError) no such table: {name}"
  | fault f => faultMessage f

def databaseFile? (u : DatabaseUrl) : Option FileName :=
  if u.isInMemory then none else u.database.map FileName.ofString

def openTables (d : Directory) (f : FileName) : Except Trouble (String × Option Database × Directory) :=
  match d.target f with
  | .file name =>
    match d.get? name with
    | none => .ok (name, none, d.put name (.database none))
    | some (.text "") => .ok (name, none, d)
    | some (.text _) => .error .notDatabase
    | some (.database tables) => .ok (name, tables, d)
  | _ => .error .cannotOpen

structure Session (α : Type) where
  answer : Except Trouble α
  reports : List Report
  directory : Directory

def session {α : Type} (url table : String)
    (step : Database → (Except StoreFault α × Database) × List Report) (d : Directory) : Session α :=
  match DatabaseUrl.parse url with
  | .error f => ⟨.error (.url f), [], d⟩
  | .ok u =>
    match databaseFile? u with
    | none => ⟨.error (.noTable table), [], d⟩
    | some f =>
      match d.openTables f with
      | .error t => ⟨.error t, [], d⟩
      | .ok (_, none, d) => ⟨.error (.noTable table), [], d⟩
      | .ok (name, some db, d) =>
        let (answer, after) := db.session fun db => (step db).1
        ⟨answer.mapError .fault, (step db).2, d.put name (.database (some after))⟩

def createTables (url : String) (d : Directory) : Directory :=
  match DatabaseUrl.parse url with
  | .error _ => d
  | .ok u =>
    match databaseFile? u with
    | none => d
    | some f =>
      match d.openTables f with
      | .ok (name, none, d) => d.put name (.database (some .empty))
      | .ok (_, some _, d) => d
      | .error _ => d

end Directory

end LedgerRules.CommandLine
