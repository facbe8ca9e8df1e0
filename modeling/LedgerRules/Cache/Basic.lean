import LedgerRules.Rule.Report

/-! The cache of compiled conditions. An entry is found by the condition's text without blanks around
it, or by the key of a tree; it is never replaced. A condition that does not compile is not kept, so
it is compiled again whenever it is looked up. -/

namespace LedgerRules

structure CacheKey where
  kind : KeyKind
  text : String
deriving DecidableEq

/-- A compiled condition. Every compilation has a number of its own, so that it shows whether two
lookups gave the same entry. -/
structure CacheEntry where
  number : Nat
  predicate : Predicate
deriving DecidableEq

/-- Entries in the order in which they were stored, the lookups that found their key and those that
did not, and how many conditions were compiled in all. -/
structure Cache where
  entries : List (CacheKey × CacheEntry)
  hits : Nat
  misses : Nat
  compiled : Nat

namespace Cache

def empty : Cache := ⟨[], 0, 0, 0⟩

def find? (c : Cache) (key : CacheKey) : Option CacheEntry := c.entries.lookup key

def size (c : Cache) : Nat := c.entries.length

def clear (c : Cache) : Cache := { empty with compiled := c.compiled }

def look (c : Cache) (key : CacheKey) : Option CacheEntry × Cache :=
  match c.find? key with
  | some e => (some e, { c with hits := c.hits + 1 })
  | none => (none, { c with misses := c.misses + 1 })

def enroll (c : Cache) (p : Predicate) : CacheEntry × Cache :=
  (⟨c.compiled, p⟩, { c with compiled := c.compiled + 1 })

/-- Stores an entry unless its key has one; the entry that the key has afterwards is the answer. -/
def settle (c : Cache) (key : CacheKey) (e : CacheEntry) : CacheEntry × Cache :=
  match c.find? key with
  | some first => (first, c)
  | none => (e, { c with entries := c.entries ++ [(key, e)] })

/-- The answer to a lookup, the cache after it and what was reported. -/
structure Lookup where
  found : Except CompileFailure CacheEntry
  cache : Cache
  reports : List Report

def getOrCompile (c : Cache) (key : CacheKey) (compile : Unit → Except CompileFailure Predicate) :
    Lookup :=
  match c.look key with
  | (some e, c) => ⟨.ok e, c, []⟩
  | (none, c) =>
    match compile () with
    | .error failure => ⟨.error failure, c, []⟩
    | .ok p =>
      let (e, c) := c.enroll p
      let (kept, c) := c.settle key e
      ⟨.ok kept, c, [.stored key.kind c.size key.text]⟩

def textKey (condition : String) : CacheKey := ⟨.text, Text.trimmed condition⟩

def getText [Pattern.Engine] (c : Cache) (condition : String) : Lookup :=
  let key := textKey condition
  c.getOrCompile key fun _ => Condition.compile key.text

/-- A tree without a key is not looked up at all. -/
def getTree [Pattern.Engine] (c : Cache) (tree : Value) : Lookup :=
  match Tree.key tree with
  | .error b => ⟨.error (.breakdown b), c, []⟩
  | .ok text => c.getOrCompile ⟨.tree, text⟩ fun _ => Tree.compile tree

def contains (c : Cache) (condition : String) : Bool := (c.find? (textKey condition)).isSome

end Cache

end LedgerRules
