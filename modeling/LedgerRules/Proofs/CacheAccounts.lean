import LedgerRules.Pattern.Builtin
import LedgerRules.Proofs.CacheTransparency
import LedgerRules.Proofs.CanonicalKeys
import LedgerRules.Proofs.ConcurrentLookups

/-! What a cache keeps and counts. Each use of a cache comes to one lookup at most; the lookups
since the cache was last cleared tell its entries and its counters. One lookup keeps the account in
order and a clear begins a new one, so it is in order after any uses. -/

namespace LedgerRules
open Condition (Breakdown)

namespace Request
variable {key : CacheKey} {p : Predicate} {c : Cache}

section
variable [Pattern.Engine]

def ofText (condition : String) : Request :=
  let key := Cache.textKey condition
  .lookup key (Condition.compile key.text)

def ofTree (t : Value) : Request :=
  match Tree.key t with
  | .ok text => .lookup ⟨.tree, text⟩ (Tree.compile t)
  | .error b => .breakdown b

def ofDefinition (definition : String) : Request :=
  match Definition.split definition with
  | .ok (condition, _) => .ofText condition
  | .error _ => .nothing

end

def Sourced (r : Request) : Prop :=
  ∀ key p, r = lookup key (.ok p) → p.source = key.text

theorem nothing_sourced : nothing.Sourced := fun _ _ h => nomatch h

section
variable [Pattern.Engine]

theorem ofText_sourced (condition : String) : (ofText condition).Sourced := by
  intro key p h
  obtain ⟨rfl, hp⟩ := Request.lookup.inj h
  unfold Condition.compile at hp
  split at hp
  · obtain rfl := Except.ok.inj hp
    exact Text.trimmed_trimmed condition
  · cases hp

theorem ofTree_sourced (t : Value) : (ofTree t).Sourced := by
  intro key p h
  unfold ofTree at h
  cases hk : Tree.key t with
  | error b => simp [hk] at h
  | ok text =>
    simp only [hk, Request.lookup.injEq, Tree.compile] at h
    obtain ⟨rfl, hp⟩ := h
    cases hb : Tree.build (Condition.maxNesting + 1) [] t with
    | error f => simp [hb, Except.map] at hp
    | ok e =>
      rw [hb] at hp
      obtain rfl := Except.ok.inj hp
      rfl

theorem ofDefinition_sourced (definition : String) : (ofDefinition definition).Sourced := by
  unfold ofDefinition
  cases Definition.split definition with
  | ok parts => exact ofText_sourced parts.1
  | error reason => exact nothing_sourced

end

end Request

section
variable [Pattern.Engine]

namespace Rule
variable {r : Rule}

theorem request_eq (r : Rule) :
    r.request =
      if r.definition.isEmpty then .nothing
      else
        match r.definition with
        | .tree members => .ofTree (.map members)
        | .text definition => .ofDefinition definition := rfl

/-- Rules that ask nothing of a cache: those without a definition, malformed ones, and trees without
a key. Trees that are refused a key for their depth alone are not counted, as `Tree.key` has no limit
on it. -/
inductive Idle (r : Rule) : Prop
  | undefined : r.definition.isEmpty = true → Idle r
  | malformed {definition : String} {reason : Malformed} : r.definition = .text definition →
      Definition.split definition = .error reason → Idle r
  | keyless {members : Members} : r.definition = .tree members →
      (Value.map members).HoldsLongInteger → Idle r

theorem request_sourced (r : Rule) : r.request.Sourced := by
  rw [request_eq]
  split
  · exact Request.nothing_sourced
  · split
    · exact Request.ofTree_sourced _
    · exact Request.ofDefinition_sourced _

end Rule

end

namespace Cache
variable {c : Cache} {key : CacheKey} {compiled : Except CompileFailure Predicate}

theorem getOrCompile_cases (c : Cache) (key : CacheKey)
    (compiled : Except CompileFailure Predicate) :
    let next := (c.getOrCompile key fun _ => compiled).cache
    (∃ e, c.find? key = some e ∧ next = { c with hits := c.hits + 1 }) ∨
      (c.find? key = none ∧ ∃ f, compiled = .error f ∧ next = { c with misses := c.misses + 1 }) ∨
      (c.find? key = none ∧ ∃ p, compiled = .ok p ∧ next = c.extended key p) := by
  cases hf : c.find? key with
  | some e => exact .inl ⟨e, rfl, by rw [getOrCompile_hit hf]⟩
  | none =>
    cases compiled with
    | error f => exact .inr (.inl ⟨rfl, f, rfl, by rw [getOrCompile_fail hf rfl]⟩)
    | ok p => exact .inr (.inr ⟨rfl, p, rfl, (getOrCompile_store hf rfl).2⟩)

/-- A lookup as it was made: the cache it came to, the key, and what compiling the condition
gives. -/
structure Visit where
  cache : Cache
  key : CacheKey
  compiled : Except CompileFailure Predicate

namespace Visit
variable {v : Visit}

def after (v : Visit) : Cache := (v.cache.getOrCompile v.key fun _ => v.compiled).cache

def found (v : Visit) : Bool := (v.cache.find? v.key).isSome

def gives (key : CacheKey) (v : Visit) : Option Predicate :=
  if v.key = key then v.compiled.toOption else none

theorem predicate_after (v : Visit) (key : CacheKey) :
    (v.after.find? key).map CacheEntry.predicate =
      ((v.cache.find? key).map CacheEntry.predicate).or (v.gives key) := by
  unfold after gives
  rcases getOrCompile_cases v.cache v.key v.compiled with ⟨e, hf, hnext⟩ | ⟨hf, f, hc, hnext⟩ |
      ⟨hf, p, hc, hnext⟩
  · rw [hnext]
    split
    next hk =>
      subst hk
      show (v.cache.find? v.key).map _ = _
      rw [hf]
      rfl
    next => rw [Option.or_none]; rfl
  · rw [hnext, hc, Except.toOption, ite_self, Option.or_none]
    rfl
  · rw [hnext, find?_extended, hc]
    by_cases hk : v.key = key
    · subst hk
      rw [if_pos rfl, if_pos rfl, hf]
      rfl
    · rw [if_neg (Ne.symm hk), if_neg hk, Option.or_none, Option.or_none]

theorem counts_after (v : Visit) :
    v.after.hits = v.cache.hits + (if v.found then 1 else 0) ∧
      v.after.misses = v.cache.misses + (if v.found then 0 else 1) := by
  unfold after found
  rcases getOrCompile_cases v.cache v.key v.compiled with ⟨e, hf, hnext⟩ | ⟨hf, f, -, hnext⟩ |
      ⟨hf, p, -, hnext⟩ <;>
    rw [hnext, hf] <;> exact ⟨rfl, rfl⟩

theorem entries_after (v : Visit) : v.after.entries = v.cache.entries ∨
    v.cache.find? v.key = none ∧ ∃ p, v.compiled = .ok p ∧
      v.after.entries = v.cache.entries ++ [(v.key, ⟨v.cache.compiled, p⟩)] := by
  unfold after
  rcases getOrCompile_cases v.cache v.key v.compiled with ⟨e, -, hnext⟩ | ⟨-, f, -, hnext⟩ |
      ⟨hf, p, hc, hnext⟩
  · exact .inl (by rw [hnext])
  · exact .inl (by rw [hnext])
  · exact .inr ⟨hf, p, hc, by rw [hnext]; rfl⟩

theorem keys_after (h : (v.cache.entries.map Prod.fst).Nodup) :
    (v.after.entries.map Prod.fst).Nodup := by
  rcases v.entries_after with hsame | ⟨habsent, p, -, hadded⟩
  · rwa [hsame]
  · rw [hadded]
    exact keys_append h habsent _

def steps (v : Visit) (n : Nat) : Call × Cache :=
  Call.stepAlone^[n] (.ask v.key v.compiled, v.cache)

end Visit

/-- A cache whose entries and counters are what these visits, made one after the other, come to. No
key has two entries; a key has an entry if one of its visits compiled, and the first that did gave
the predicate; a visit counts as a hit if it found its key, and else as a miss. -/
structure Account (made : List Visit) (c : Cache) : Prop where
  keys : (c.entries.map Prod.fst).Nodup
  stored : ∀ key, (c.find? key).map CacheEntry.predicate = made.findSome? (Visit.gives key)
  source : ∀ key e, c.find? key = some e → e.predicate.source = key.text
  hits : c.hits = made.countP Visit.found
  misses : c.misses = made.countP fun v => !v.found

namespace Account
variable {made : List Visit} {v : Visit}

theorem empty : Account [] empty := ⟨.nil, fun _ => rfl, by simp [find?, Cache.empty], rfl, rfl⟩

theorem clear (c : Cache) : Account [] c.clear :=
  ⟨.nil, fun _ => rfl, by simp [find?, Cache.clear, Cache.empty], rfl, rfl⟩

theorem visit (h : Account made v.cache) (hv : ∀ p, v.compiled = .ok p → p.source = v.key.text) :
    Account (made ++ [v]) v.after := by
  obtain ⟨hhits, hmisses⟩ := v.counts_after
  refine ⟨Visit.keys_after h.keys, fun key => ?_, fun key e he => ?_, ?_, ?_⟩
  · rw [v.predicate_after, h.stored, List.findSome?_append, List.findSome?_singleton]
  · rcases find?_getOrCompile he with hold | ⟨rfl, hp⟩
    · exact h.source key e hold
    · exact hv e.predicate hp
  · rw [hhits, h.hits, List.countP_append, List.countP_singleton]
  · rw [hmisses, h.misses, List.countP_append, List.countP_singleton]
    cases v.found <;> rfl

end Account

section
variable [Pattern.Engine]

namespace Use
variable {u : Use}

def request : Use → Request
  | text condition => .ofText condition
  | tree t => .ofTree t
  | evaluate input fresh _ _ =>
    match (input.resolve fresh).1 with
    | some r => r.request
    | none => .nothing
  | check definition _ =>
    match definition with
    | .text s => .ofDefinition s
    | .map members => .ofTree (.map members)
    | _ => .nothing
  | clear => .nothing

theorem getTree_cache (c : Cache) (t : Value) :
    (c.getTree t).cache = (Request.ofTree t).after c := by
  unfold Cache.getTree Request.ofTree
  cases Tree.key t <;> rfl

theorem check_cache (definition newCategory : Value) (c : Cache) :
    (Check.definition definition newCategory c).cache =
      (check definition newCategory).request.after c := by
  cases definition with
  | text s =>
    simp only [Check.definition, Check.text, request, Request.ofDefinition]
    cases Definition.split s <;> rfl
  | map members =>
    have hcache : (Check.tree members newCategory c).cache = (c.getTree (.map members)).cache := by
      unfold Check.tree
      dsimp only
      split <;> rfl
    exact hcache.trans (getTree_cache c (.map members))
  | _ => rfl

theorem evaluate_cache (input : RuleInput) (fresh : String) (clock : Clock) (s : Subject)
    (c : Cache) : (input.evaluate fresh clock s c).cache =
      (evaluate input fresh clock s).request.after c := by
  simp only [RuleInput.evaluate, request]
  split
  next hr => rw [hr]; rfl
  next r reports hr =>
    rw [hr]
    exact (r.evaluate_request clock s c).2

theorem apply_request (hu : u ≠ .clear) : u.apply c = u.request.after c := by
  cases u with
  | text condition => rfl
  | tree t => exact getTree_cache c t
  | evaluate input fresh clock s => exact evaluate_cache input fresh clock s c
  | check definition newCategory => exact check_cache definition newCategory c
  | clear => exact absurd rfl hu

theorem request_sourced (u : Use) : u.request.Sourced := by
  cases u with
  | text condition => exact Request.ofText_sourced condition
  | tree t => exact Request.ofTree_sourced t
  | evaluate input fresh clock s =>
    rw [request]
    split
    · exact Rule.request_sourced _
    · exact Request.nothing_sourced
  | check definition newCategory =>
    cases definition with
    | text s => exact Request.ofDefinition_sourced s
    | map members => exact Request.ofTree_sourced (.map members)
    | _ => exact Request.nothing_sourced
  | clear => exact Request.nothing_sourced

/-- Uses that come to no lookup. As for rules, a tree too deep to be written is not among them. -/
inductive Idle : Use → Prop
  | tree {t : Value} : t.HoldsLongInteger → Idle (.tree t)
  | unread {input : RuleInput} {fresh : String} {clock : Clock} {s : Subject} :
      (input.resolve fresh).1 = none → Idle (.evaluate input fresh clock s)
  | rule {input : RuleInput} {fresh : String} {clock : Clock} {s : Subject} {r : Rule} :
      (input.resolve fresh).1 = some r → r.Idle → Idle (.evaluate input fresh clock s)
  | malformed {definition : String} {newCategory : Value} {reason : Malformed} :
      Definition.split definition = .error reason → Idle (.check (.text definition) newCategory)
  | keyless {members : Members} {newCategory : Value} :
      (Value.map members).HoldsLongInteger → Idle (.check (.map members) newCategory)
  | noDefinition {definition newCategory : Value} :
      (∀ s, definition ≠ .text s) → (∀ members, definition ≠ .map members) →
      Idle (.check definition newCategory)
  | clear : Idle .clear

end Use

def Use.record (c : Cache) (made : List Visit) : Use → List Visit
  | .clear => []
  | u =>
    match u.request with
    | .lookup key compiled => made ++ [⟨c, key, compiled⟩]
    | _ => made

/-- The visits that uses make of a cache, those since the last clear, after these visits. -/
def visits (c : Cache) (made : List Visit) : List Use → List Visit
  | [] => made
  | u :: later => visits (u.apply c) (u.record c made) later

theorem Account.use {made : List Visit} (h : Account made c) (u : Use) :
    Account (u.record c made) (u.apply c) := by
  by_cases hu : u = .clear
  · subst hu
    exact .clear c
  · have hrecord : u.record c made =
        match u.request with
        | .lookup key compiled => made ++ [⟨c, key, compiled⟩]
        | _ => made := by
      cases u with
      | clear => exact absurd rfl hu
      | _ => rfl
    rw [hrecord, u.apply_request hu]
    cases hr : u.request with
    | lookup key compiled =>
      exact Account.visit (v := ⟨c, key, compiled⟩) h fun p hp => u.request_sourced key p (hp ▸ hr)
    | _ => exact h

theorem Account.uses {made : List Visit} (h : Account made c) (uses : List Use) :
    Account (visits c made uses) (uses.foldl Use.apply c) := by
  induction uses generalizing c made with
  | nil => exact h
  | cons u later ih => exact ih (h.use u)

end

theorem Account.total {made : List Visit} (h : Account made c) :
    c.hits + c.misses = made.length := by
  rw [h.hits, h.misses, List.length_eq_countP_add_countP Visit.found]
  simp

end Cache

end LedgerRules
