import LedgerRules.Proofs.Scanning
import LedgerRules.Rule.Check
import LedgerRules.Rule.Match

/-! What a cache holds. Every entry is the compiled condition of its key; the key of a tree may be
that of several trees, so there it is one of them. Each operation keeps this, and as long as trees
with one key compile alike, what is looked up is what compiling it gives. -/

namespace LedgerRules
open Condition (Breakdown)

section
variable [Pattern.Engine]

theorem Condition.parseCondition_trimmed (s : String) :
    parseCondition (Text.trimmed s) = parseCondition s := by
  rw [parseCondition, parseWith, parseWith, Text.trimmed, String.toList_ofList, Text.trim_trim]

theorem Condition.compile_trimmed (s : String) :
    Condition.compile (Text.trimmed s) = Condition.compile s := by
  rw [compile, compile, parseCondition_trimmed, Text.trimmed_trimmed]

namespace Rule

def ofCompile : Except CompileFailure Predicate → Except Breakdown (Option Predicate)
  | .ok p => .ok (some p)
  | .error (.error _) => .ok none
  | .error (.breakdown b) => .error b

def compiled (r : Rule) : Except Breakdown (Option Predicate) :=
  match r.definition with
  | .tree members => ofCompile (Tree.compile (.map members))
  | .text s =>
    match Definition.split s with
    | .ok (condition, _) => ofCompile (Condition.compile condition)
    | .error _ => .ok none

def answer (r : Rule) (clock : Clock) (s : Subject) : Except Breakdown Bool :=
  if r.definition.isEmpty then .ok false
  else
    match r.compiled with
    | .error b => .error b
    | .ok none => .ok false
    | .ok (some p) => .ok (r.decide clock s p).1

end Rule

end

namespace Cache
variable {T : Value → Prop} {c : Cache}

section
variable [Pattern.Engine]

/-- What is stored under a key is the condition of the key, compiled. -/
def Means (T : Value → Prop) (key : CacheKey) (p : Predicate) : Prop :=
  match key.kind with
  | .text => Condition.compile key.text = .ok p
  | .tree => ∃ t, T t ∧ Tree.key t = .ok key.text ∧ Tree.compile t = .ok p

def Sound (T : Value → Prop) (c : Cache) : Prop :=
  ∀ key e, c.find? key = some e → Means T key e.predicate

/-- Of the trees out of `T` that have one key, all compile to one predicate or none compiles. -/
def KeysAgree (T : Value → Prop) : Prop :=
  ∀ a b, T a → T b → Tree.key a = Tree.key b → ∀ p, Tree.compile a = .ok p → Tree.compile b = .ok p

theorem sound_empty (T : Value → Prop) : Sound T empty := by
  intro key e h
  simp [find?, empty] at h

theorem sound_clear (T : Value → Prop) (c : Cache) : Sound T c.clear := by
  intro key e h
  simp [find?, clear, empty] at h

end

theorem getOrCompile_hit {key : CacheKey} {compile : Unit → Except CompileFailure Predicate}
    {e : CacheEntry} (h : c.find? key = some e) :
    c.getOrCompile key compile = ⟨.ok e, { c with hits := c.hits + 1 }, []⟩ := by
  simp [getOrCompile, look, h]

theorem getOrCompile_fail {key : CacheKey} {compile : Unit → Except CompileFailure Predicate}
    {f : CompileFailure} (h : c.find? key = none) (hc : compile () = .error f) :
    c.getOrCompile key compile = ⟨.error f, { c with misses := c.misses + 1 }, []⟩ := by
  simp [getOrCompile, look, h, hc]

def extended (c : Cache) (key : CacheKey) (p : Predicate) : Cache :=
  ⟨c.entries ++ [(key, ⟨c.compiled, p⟩)], c.hits, c.misses + 1, c.compiled + 1⟩

theorem find?_extended (c : Cache) (key key' : CacheKey) (p : Predicate) :
    (c.extended key p).find? key' =
      (c.find? key').or (if key' = key then some ⟨c.compiled, p⟩ else none) := by
  rw [extended, find?, find?, List.lookup_append, List.lookup_cons]
  by_cases hk : key' = key
  · rw [beq_iff_eq.mpr hk, if_pos hk]
  · rw [beq_eq_false_iff_ne.mpr hk, if_neg hk, List.lookup_nil]

theorem getOrCompile_store {key : CacheKey} {compile : Unit → Except CompileFailure Predicate}
    {p : Predicate} (h : c.find? key = none) (hc : compile () = .ok p) :
    (c.getOrCompile key compile).found = .ok ⟨c.compiled, p⟩ ∧
      (c.getOrCompile key compile).cache = c.extended key p := by
  have hf : c.entries.lookup key = none := h
  simp [getOrCompile, look, hc, enroll, settle, find?, hf, extended]

theorem getOrCompile_found (c : Cache) (key : CacheKey)
    (compile : Unit → Except CompileFailure Predicate) :
    (c.getOrCompile key compile).found.map CacheEntry.predicate =
      match c.find? key with
      | some e => .ok e.predicate
      | none => compile () := by
  cases hf : c.find? key with
  | some e => rw [getOrCompile_hit hf]; rfl
  | none =>
    cases hc : compile () with
    | error f => rw [getOrCompile_fail hf hc]; rfl
    | ok p => rw [(getOrCompile_store hf hc).1]; rfl

theorem find?_getOrCompile {key key' : CacheKey}
    {compile : Unit → Except CompileFailure Predicate} {e : CacheEntry}
    (h : (c.getOrCompile key compile).cache.find? key' = some e) :
    c.find? key' = some e ∨ (key' = key ∧ compile () = .ok e.predicate) := by
  cases hf : c.find? key with
  | some first =>
    rw [getOrCompile_hit hf] at h
    exact .inl h
  | none =>
    cases hc : compile () with
    | error f =>
      rw [getOrCompile_fail hf hc] at h
      exact .inl h
    | ok p =>
      rw [(getOrCompile_store hf hc).2, find?_extended, Option.or_eq_some_iff] at h
      rcases h with h | ⟨-, h⟩
      · exact .inl h
      · obtain ⟨hk, he⟩ := Option.ite_none_right_eq_some.mp h
        obtain rfl := Option.some.inj he
        exact .inr ⟨hk, rfl⟩

section
variable [Pattern.Engine]

theorem Sound.getOrCompile (hc : Sound T c) {key : CacheKey}
    {compile : Unit → Except CompileFailure Predicate}
    (h : ∀ p, compile () = .ok p → Means T key p) :
    Sound T (c.getOrCompile key compile).cache := by
  intro key' e he
  rcases find?_getOrCompile he with hold | ⟨rfl, hp⟩
  · exact hc key' e hold
  · exact h _ hp

theorem means_text {text : String} {p : Predicate} :
    Means T ⟨.text, text⟩ p ↔ Condition.compile text = .ok p := Iff.rfl

theorem Sound.getText (hc : Sound T c) (s : String) : Sound T (c.getText s).cache := by
  unfold Cache.getText
  refine hc.getOrCompile fun p hp => ?_
  rw [textKey, means_text]
  exact hp

theorem Sound.getText_found (hc : Sound T c) (s : String) :
    (c.getText s).found.map CacheEntry.predicate = Condition.compile s := by
  rw [Cache.getText, getOrCompile_found, textKey, Condition.compile_trimmed]
  split
  next e he => exact ((Condition.compile_trimmed s).symm.trans (hc _ e he)).symm
  next => rfl

theorem Sound.getTree (hc : Sound T c) {t : Value} (ht : T t) : Sound T (c.getTree t).cache := by
  unfold Cache.getTree
  split
  · exact hc
  next text hk => exact hc.getOrCompile fun p hp => ⟨t, ht, hk, hp⟩

theorem Sound.getTree_found (hc : Sound T c) (hT : KeysAgree T) {t : Value} (ht : T t) :
    (c.getTree t).found.map CacheEntry.predicate = Tree.compile t := by
  unfold Cache.getTree
  split
  next b hk => simp [Tree.compile, hk, Except.map]
  next text hk =>
    rw [getOrCompile_found]
    split
    next e he =>
      obtain ⟨u, hu, hku, hp⟩ := hc _ e he
      exact (hT u t hu ht (hku.trans hk.symm) _ hp).symm
    next => rfl

end

def RuleOver (T : Value → Prop) (r : Rule) : Prop :=
  ∀ members, r.definition = .tree members → T (.map members)

theorem ofLookup_found (rule : String) (l : Lookup) :
    (Rule.Search.ofLookup rule l).found =
      Rule.ofCompile (l.found.map CacheEntry.predicate) := by
  unfold Rule.Search.ofLookup
  split
  next e he => simp [he, Rule.ofCompile, Except.map]
  next e he => simp [he, Rule.ofCompile, Except.map]
  next b he => simp [he, Rule.ofCompile, Except.map]

theorem ofLookup_cache (rule : String) (l : Lookup) :
    (Rule.Search.ofLookup rule l).cache = l.cache := by
  unfold Rule.Search.ofLookup
  split <;> rfl

section
variable [Pattern.Engine]

theorem Sound.predicate (hc : Sound T c) (hT : KeysAgree T) {r : Rule} (hr : RuleOver T r) :
    (r.predicate c).found = r.compiled := by
  unfold Rule.predicate Rule.compiled
  cases hd : r.definition with
  | tree members => rw [ofLookup_found, hc.getTree_found hT (hr members hd)]
  | text s =>
    dsimp only
    cases Definition.split s with
    | error reason => rfl
    | ok parts => rw [ofLookup_found, hc.getText_found]

theorem Sound.predicate_cache (hc : Sound T c) {r : Rule} (hr : RuleOver T r) :
    Sound T (r.predicate c).cache := by
  unfold Rule.predicate
  split
  next members hd =>
    rw [ofLookup_cache]
    exact hc.getTree (hr members hd)
  next s hd =>
    split
    next condition category hs =>
      rw [ofLookup_cache]
      exact hc.getText condition
    next => exact hc

/-- A rule answers by its own condition, whatever was looked up before. -/
theorem Sound.evaluate (hc : Sound T c) (hT : KeysAgree T) {r : Rule} (hr : RuleOver T r)
    (clock : Clock) (s : Subject) : (r.evaluate clock s c).answer = r.answer clock s := by
  unfold Rule.evaluate Rule.answer
  split
  · rfl
  · rw [← hc.predicate hT hr]
    dsimp only
    split <;> simp_all

theorem Sound.evaluate_cache (hc : Sound T c) {r : Rule} (hr : RuleOver T r) (clock : Clock)
    (s : Subject) : Sound T (r.evaluate clock s c).cache := by
  unfold Rule.evaluate
  split
  · exact hc
  · have hp := hc.predicate_cache hr
    dsimp only
    split <;> exact hp

end

end Cache

end LedgerRules
