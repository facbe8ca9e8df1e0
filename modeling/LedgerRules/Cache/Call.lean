import LedgerRules.Cache.Basic

/-! A lookup that shares its cache with others. The cache is locked while a call looks for its key
and while it stores what it compiled, but not in between, so that other calls may come between any
two of its steps. -/

namespace LedgerRules.Cache

/-- How far a call has come: it is to look for its key, did not find it, has compiled the condition,
or has its answer. -/
inductive Stage
  | asking
  | compiling
  | storing (e : CacheEntry)
  | answered (found : Except CompileFailure CacheEntry)

structure Call where
  key : CacheKey
  compiled : Except CompileFailure Predicate
  stage : Stage

namespace Call

def ask (key : CacheKey) (compiled : Except CompileFailure Predicate) : Call :=
  ⟨key, compiled, .asking⟩

def step (call : Call) (c : Cache) : Call × Cache :=
  match call.stage with
  | .asking =>
    match c.look call.key with
    | (some e, c) => ({ call with stage := .answered (.ok e) }, c)
    | (none, c) => ({ call with stage := .compiling }, c)
  | .compiling =>
    match call.compiled with
    | .error failure => ({ call with stage := .answered (.error failure) }, c)
    | .ok p =>
      let (e, c) := c.enroll p
      ({ call with stage := .storing e }, c)
  | .storing e =>
    let (kept, c) := c.settle call.key e
    ({ call with stage := .answered (.ok kept) }, c)
  | .answered _ => (call, c)

def hasAnswer (call : Call) : Bool :=
  match call.stage with
  | .answered _ => true
  | _ => false

end Call

structure Crowd where
  calls : List Call
  cache : Cache

namespace Crowd

def start (asks : List (CacheKey × Except CompileFailure Predicate)) : Crowd :=
  ⟨asks.map fun ask => .ask ask.1 ask.2, .empty⟩

inductive Move : Crowd → Crowd → Prop
  | step {s : Crowd} {before after : List Call} {call : Call} :
      s.calls = before ++ call :: after → call.hasAnswer = false →
      Move s ⟨before ++ (call.step s.cache).1 :: after, (call.step s.cache).2⟩

end Crowd

end LedgerRules.Cache
