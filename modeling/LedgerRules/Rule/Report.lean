import LedgerRules.Condition.Eval
import LedgerRules.Rule.Basic
import LedgerRules.Tree.Compile

/-! What the engine reports while it works. A broken rule stops nothing, so a report is the only trace
it leaves. Every report has an importance, a topic and a text that starts with the event's name. -/

namespace LedgerRules

inductive Importance
  | debug
  | info
  | warning
deriving DecidableEq

namespace Importance

def rank : Importance → Nat
  | debug => 10
  | info => 20
  | warning => 30

def word : Importance → String
  | debug => "DEBUG"
  | info => "INFO"
  | warning => "WARNING"

end Importance

inductive KeyKind
  | text
  | tree
deriving DecidableEq

def KeyKind.word : KeyKind → String
  | text => "text"
  | tree => "tree"

inductive Report
  | stored (kind : KeyKind) (size : Nat) (source : String)
  | invalidRule (faults : List RecordFault)
  | malformed (rule : String) (reason : Malformed) (definition : String)
  | compileFailed (rule : String) (error : CompileError)
  | timedOut (rule transaction : String) (cause : Timeout)
  | faulted (rule transaction : String) (fault : EvalFault)
  | skipped (rule : String) (reason : Malformed) (definition : Value)
  | passDone (transactions rules usable updated workers : Nat)
  | saved (count : Nat)
  | inserted (transaction : String)
  | categoryUpdated (transaction category : String)

namespace Report

def importance : Report → Importance
  | stored .. => .debug
  | invalidRule .. => .warning
  | malformed .. => .warning
  | compileFailed .. => .warning
  | timedOut .. => .warning
  | faulted .. => .debug
  | skipped .. => .warning
  | passDone .. => .info
  | saved .. => .info
  | inserted .. => .debug
  | categoryUpdated .. => .debug

def topic : Report → String
  | stored .. => "cache"
  | invalidRule .. => "evaluator"
  | malformed .. => "evaluator"
  | compileFailed .. => "evaluator"
  | timedOut .. => "evaluator"
  | faulted .. => "evaluator"
  | skipped .. => "engine"
  | passDone .. => "engine"
  | saved .. => "api"
  | inserted .. => "persistence"
  | categoryUpdated .. => "persistence"

def event : Report → String
  | stored .. => "predicate_cache:stored"
  | invalidRule .. => "rule:invalid"
  | malformed .. => "rule:malformed"
  | compileFailed .. => "rule:compile_failed"
  | timedOut .. => "rule:timeout"
  | faulted .. => "rule:evaluation_failed"
  | skipped .. => "reapply:skip_rule"
  | passDone .. => "reapply:done"
  | saved .. => "reapply_rules:saved"
  | inserted .. => "sql_store:insert_transaction"
  | categoryUpdated .. => "sql_store:update_category"

def firstMessage : List RecordFault → String
  | [] => ""
  | fault :: _ => fault.kind.message

def details : Report → List (String × String)
  | stored kind size source =>
    [("kind", kind.word), ("size", toString size), ("source", Text.quoted source)]
  | invalidRule faults =>
    [("errors", toString faults.length), ("first", firstMessage faults)]
  | malformed rule reason definition =>
    [("id", rule), ("reason", reason.message), ("definition", Text.quoted definition)]
  | compileFailed rule error => [("id", rule), ("error", error.message)]
  | timedOut rule transaction cause =>
    [("id", rule), ("transaction", transaction), ("error", cause.message)]
  | faulted rule transaction fault =>
    [("id", rule), ("transaction", transaction), ("error", fault.message)]
  | skipped rule reason definition =>
    [("id", rule), ("reason", reason.message), ("definition", definition.shown)]
  | passDone transactions rules usable updated workers =>
    [("transactions", toString transactions), ("rules", toString rules),
      ("usable_rules", toString usable), ("updated", toString updated),
      ("workers", toString workers)]
  | saved count => [("count", toString count)]
  | inserted transaction => [("id", transaction)]
  | categoryUpdated transaction category =>
    [("id", transaction), ("category", Text.quoted category)]

def text (r : Report) : String :=
  " ".intercalate (r.event :: r.details.map fun d => s!"{d.1}={d.2}")

end Report

end LedgerRules
