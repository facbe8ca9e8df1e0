import LedgerRules.CommandLine.Arguments
import LedgerRules.CommandLine.DataFile
import LedgerRules.CommandLine.EnvFile
import LedgerRules.Logging.Setup
import LedgerRules.Record.Id
import LedgerRules.Rule.Check

/-! Running a command in a working directory. A command that fails says why; one that meets something
it has no word for ends in the same way without one. -/

namespace LedgerRules.CommandLine
open Logging

inductive Complaint
  | malformedRule (reason : Malformed)
  | badCondition (e : CompileError)
  | badTransaction (faults : List RecordFault)
  | fileMissing (file : String)
  | notJson (file message : String)
  | notObject (file : String)
  | badRecord (file what : String) (faults : List RecordFault)
  | noSource
  | noDatabase
  | reapplyFailed (t : Directory.Trouble)
  | storeFailed (t : Directory.Trouble)
deriving DecidableEq

def faultLine (f : RecordFault) : String := ".".intercalate f.path ++ ": " ++ f.kind.message

def faultsText (what : String) (faults : List RecordFault) : String :=
  let word := if faults.length = 1 then "error" else "errors"
  "\n".intercalate (s!"{faults.length} validation {word} for {what}" :: faults.map faultLine)

def Complaint.message : Complaint → String
  | malformedRule reason => s!"malformed rule: {reason.message}"
  | badCondition e => s!"invalid condition: {e.message}"
  | badTransaction faults => "invalid transaction: " ++ faultsText "Transaction" faults
  | fileMissing file => s!"File not found: {file}"
  | notJson file message => s!"Failed to parse JSON in {file}: {message}"
  | notObject file => s!"{file}: expected a JSON object with 'transactions' and 'rules'"
  | badRecord file what faults => s!"{file}: invalid record: {faultsText what faults}"
  | noSource => "pass --data or set DATABASE_URL / --database-url"
  | noDatabase => "DATABASE_URL is not set; pass --database-url"
  | reapplyFailed t => s!"reapply against the database failed: {t.message}"
  | storeFailed t => s!"failed to store rule: {t.message}"

inductive Ending
  | done (output : String)
  | help
  | usage
  | failed (c : Complaint)
  | stopped
deriving DecidableEq

namespace Ending

def exitCode : Ending → Nat
  | done _ => 0
  | help => 0
  | usage => 2
  | failed _ => 1
  | stopped => 1

def ofRefusal : Refusal → Ending
  | .help => help
  | .usage => usage

end Ending

structure Outcome where
  ending : Ending
  reports : List Report
  directory : Directory

structure Context where
  clock : Budget → Clock
  ids : Nat → String
  env : Environment

section
variable [Pattern.Engine]

namespace Context

def ofCheck (d : Directory) (c : Check) (next : String → Outcome) : Outcome :=
  match c.category with
  | .ok category =>
    let o := next category
    { o with reports := c.reports ++ o.reports }
  | .error (.malformed reason) => ⟨.failed (.malformedRule reason), c.reports, d⟩
  | .error (.compile (.error e)) => ⟨.failed (.badCondition e), c.reports, d⟩
  | .error _ => ⟨.stopped, c.reports, d⟩

def checkRule (d : Directory) (rule : String) : Outcome :=
  ofCheck d (Check.text rule .empty) fun category => ⟨.done (category ++ "\n"), [], d⟩

def readTransaction (ctx : Context) (text : String) : Except RecordFailure Transaction :=
  match Json.parseRecord text.toList with
  | .ok v => Transaction.validate .json (ctx.ids 0) v
  | .error _ => .error (.invalid [⟨.badJson, []⟩])

def evaluate (ctx : Context) (d : Directory) (rule transaction : String) : Outcome :=
  match ctx.readTransaction transaction with
  | .error (.invalid faults) => ⟨.failed (.badTransaction faults), [], d⟩
  | .error _ => ⟨.stopped, [], d⟩
  | .ok t =>
    match Settings.ofEnvironment ctx.env with
    | .error _ => ⟨.stopped, [], d⟩
    | .ok settings =>
      let e := (Rule.ofText (ctx.ids 1) rule).evaluate (ctx.clock settings.evaluationBudget)
        (.transaction t) .empty
      match e.answer with
      | .error _ => ⟨.stopped, e.reports, d⟩
      | .ok answer => ⟨.done (if answer then "true\n" else "false\n"), e.reports, d⟩

def readFile (d : Directory) (file : FileName) : Except Ending (String × List Char) :=
  match d.target file with
  | .file name =>
    match d.get? name with
    | none => .error (.failed (.fileMissing file.text))
    | some (.text s) => .ok (name, Directory.uniformLines s.toList)
    | some (.database none) => .ok (name, [])
    | some (.database (some _)) => .error .stopped
  | .nowhere => .error (.failed (.fileMissing file.text))
  | .directory => .error .stopped
  | .beneathFile => .error .stopped

def dataEnding (file : String) : DataFault → Ending
  | .notJson message => .failed (.notJson file message)
  | .notObject => .failed (.notObject file)
  | .badTransaction faults => .failed (.badRecord file "Transaction" faults)
  | .badRule faults => .failed (.badRecord file "Rule" faults)
  | .notListed => .stopped
  | .dateRange => .stopped
  | .longInteger => .stopped

def draftName (name : String) : String := name ++ ".tmp"

def writeFile (name : String) (text : List Char) (d : Directory) : Directory :=
  (d.remove (draftName name)).put name (.text (String.ofList text))

def reapplyData (ctx : Context) (d : Directory) (settings : Settings) (workers : Int)
    (file : FileName) (write : Bool) : Outcome :=
  match readFile d file with
  | .error ending => ⟨ending, [], d⟩
  | .ok (name, text) =>
    match DataFile.read ctx.ids text with
    | .error fault => ⟨dataEnding file.text fault, [], d⟩
    | .ok data =>
      let clock := ctx.clock settings.evaluationBudget
      let pass := LedgerRules.reapply (fun _ _ => clock) (fun _ => "")
        (places (data.transactions.map .transaction)) (data.rules.map .rule) workers .empty
      match pass.changedIds with
      | .error _ => ⟨.stopped, pass.reports, d⟩
      | .ok ids =>
        let d := if write then writeFile name (data.withCategories pass.set).write d else d
        ⟨.done (Pass.message ids ++ "\n"), pass.reports, d⟩

def transactionTable : String := "rc_transactions"
def ruleTable : String := "rc_rules"

def reapplyDatabase (ctx : Context) (d : Directory) (settings : Settings) (workers : Int)
    (url : String) : Outcome :=
  let clock := ctx.clock settings.evaluationBudget
  let session := d.session url transactionTable fun db =>
    let a := db.reapply (fun _ _ => clock) workers .empty
    ((a.changedIds, a.database), a.reports)
  let ending := match session.answer with
    | .error t => .failed (.reapplyFailed t)
    | .ok ids => .done (Pass.message ids ++ "\n")
  ⟨ending, session.reports, session.directory⟩

def chooseUrl (given : Option String) (settings : Option String) : Option String :=
  match given with
  | some url => if url = "" then settings else some url
  | none => settings

def reapply (ctx : Context) (d : Directory) (data databaseUrl : Option String) (write : Bool)
    (workers : Option Int) : Outcome :=
  match Settings.ofEnvironment ctx.env with
  | .error _ => ⟨.stopped, [], d⟩
  | .ok settings =>
    let workers := workers.getD settings.workers
    match data with
    | some file => ctx.reapplyData d settings workers (.ofString file) write
    | none =>
      match chooseUrl databaseUrl settings.databaseUrl with
      | none => ⟨.failed .noSource, [], d⟩
      | some url => ctx.reapplyDatabase d settings workers url

def storeRule (ctx : Context) (d : Directory) (rule url : String) : Outcome :=
  let stored := Rule.ofText (ctx.ids 0) rule
  let session : Directory.Session Unit := d.session url ruleTable fun db =>
    match db.addRule stored with
    | .ok after => ((.ok (), after), [])
    | .error fault => ((.error fault, db), [])
  let ending := match session.answer with
    | .error t => .failed (.storeFailed t)
    | .ok _ => .done (stored.id ++ "\n")
  ⟨ending, session.reports, session.directory⟩

def addRule (ctx : Context) (d : Directory) (rule : String) (databaseUrl : Option String) :
    Outcome :=
  ofCheck d (Check.text rule .empty) fun _ =>
    match chooseUrl databaseUrl none with
    | some url => ctx.storeRule d rule url
    | none =>
      match Settings.ofEnvironment ctx.env with
      | .error _ => ⟨.stopped, [], d⟩
      | .ok settings =>
        match settings.databaseUrl with
        | none => ⟨.failed .noDatabase, [], d⟩
        | some url => ctx.storeRule d rule url

def perform (ctx : Context) (d : Directory) : Command → Outcome
  | .checkRule rule => checkRule d rule
  | .evaluate rule transaction => ctx.evaluate d rule transaction
  | .reapply data databaseUrl write workers => ctx.reapply d data databaseUrl write workers
  | .addRule rule databaseUrl => ctx.addRule d rule databaseUrl

def envFileName : String := ".env"

def loadEnvironment (env : Environment) (d : Directory) : Option Environment :=
  match d.get? envFileName with
  | some (.text s) => EnvFile.load (Directory.uniformLines s.toList) env
  | _ => some env

def shown (s : State) (reports : List Report) : List Report :=
  reports.filter fun r =>
    !(emit s ⟨loggerName r.topic, .number r.importance.rank, r.text⟩).isEmpty

def run (ctx : Context) (d : Directory) (args : List String) : Outcome :=
  match invocation args with
  | .error r => ⟨.ofRefusal r, [], d⟩
  | .ok i =>
    let level := match i.logLevel with
      | some s => LevelRequest.text s
      | none => .absent
    match loadEnvironment ctx.env d with
    | none => ⟨.stopped, [], d⟩
    | some env =>
      match configure env level none "stderr" .initial with
      | (.error _, _) => ⟨.stopped, [], d⟩
      | (.ok _, state) =>
        match i.command d.isDirectory with
        | .error r => ⟨.ofRefusal r, [], d⟩
        | .ok command =>
          let o := { ctx with env }.perform d command
          { o with reports := shown state o.reports }

end Context

end

end LedgerRules.CommandLine
