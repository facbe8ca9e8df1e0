import Mathlib.Logic.Function.Iterate
import LedgerRules.Proofs.BrokenRules
import LedgerRules.Rule.Workers

/-! What a rule asks of the cache decides what it answers. While rules are asked, a cache only gains
what they compile to, so that it answers each of them in the end as it did at first, whoever asked
in between. -/

namespace LedgerRules
open Condition (Breakdown)

namespace Cache
variable {c c' : Cache} {key key' : CacheKey} {compiled compiled' : Except CompileFailure Predicate}

def meaning (c : Cache) (key : CacheKey) (compiled : Except CompileFailure Predicate) :
    Except CompileFailure Predicate :=
  match c.find? key with
  | some e => .ok e.predicate
  | none => compiled

theorem meaning_of_found {e : CacheEntry} (h : c.find? key = some e)
    (compiled : Except CompileFailure Predicate) : c.meaning key compiled = .ok e.predicate := by
  rw [meaning, h]

theorem meaning_of_absent (h : c.find? key = none)
    (compiled : Except CompileFailure Predicate) : c.meaning key compiled = compiled := by
  rw [meaning, h]

theorem meaning_congr (h : c'.entries = c.entries) (key : CacheKey)
    (compiled : Except CompileFailure Predicate) :
    c'.meaning key compiled = c.meaning key compiled := by
  unfold meaning find?
  rw [h]

theorem settle_predicate {e : CacheEntry} (h : compiled = .ok e.predicate) :
    .ok (c.settle key e).1.predicate = c.meaning key compiled := by
  cases hf : c.find? key with
  | some first => simp [settle, hf, meaning_of_found hf]
  | none => simp [settle, hf, meaning_of_absent hf, h]

theorem meaning_settle {e : CacheEntry} (h : key' = key → compiled' = .ok e.predicate) :
    (c.settle key e).2.meaning key' compiled' = c.meaning key' compiled' := by
  cases hf : c.find? key with
  | some first => simp [settle, hf]
  | none =>
    have hadded : (c.settle key e).2.find? key' = (c.find? key').or ([(key, e)].lookup key') := by
      simp only [settle, hf]
      exact List.lookup_append
    unfold meaning
    rw [hadded]
    by_cases hk : key' = key
    · subst hk
      simp [hf, h rfl]
    · simp [List.lookup_cons, beq_eq_false_iff_ne.mpr hk]

namespace Call
variable {call : Call}

def Fits (answer : Except CompileFailure Predicate) (call : Call) : Prop :=
  match call.stage with
  | .asking => True
  | .compiling => answer = call.compiled
  | .storing e => answer = call.compiled ∧ call.compiled = .ok e.predicate
  | .answered found => found.map CacheEntry.predicate = answer

theorem step_asks (call : Call) (c : Cache) :
    (call.step c).1.key = call.key ∧ (call.step c).1.compiled = call.compiled := by
  unfold step
  repeat' split
  all_goals exact ⟨rfl, rfl⟩

theorem step_fits {answer : Except CompileFailure Predicate} (h : call.Fits answer)
    (hc : c.meaning call.key call.compiled = answer) : (call.step c).1.Fits answer := by
  obtain ⟨key, compiled, stage⟩ := call
  cases stage with
  | asking =>
    cases hf : c.find? key with
    | some e =>
      rw [meaning_of_found hf] at hc
      simpa [step, look, hf, Fits, Except.map] using hc
    | none =>
      rw [meaning_of_absent hf] at hc
      simpa [step, look, hf, Fits] using hc.symm
  | compiling =>
    cases compiled with
    | error failure => simpa [step, Fits, Except.map] using Eq.symm h
    | ok p => exact ⟨h, rfl⟩
  | storing e => exact (settle_predicate h.2).trans hc
  | answered found => exact h

/-- A step leaves alone what the cache means, as long as its key stands for one condition. -/
theorem step_meaning {answer : Except CompileFailure Predicate} (h : call.Fits answer)
    (hkey : key' = call.key → compiled' = call.compiled) :
    (call.step c).2.meaning key' compiled' = c.meaning key' compiled' := by
  obtain ⟨key, compiled, stage⟩ := call
  cases stage with
  | asking =>
    refine meaning_congr ?_ key' compiled'
    cases hf : c.find? key <;> simp [step, look, hf]
  | compiling =>
    refine meaning_congr ?_ key' compiled'
    cases compiled <;> rfl
  | storing e => exact meaning_settle fun hk => (hkey hk).trans h.2
  | answered found => rfl

def stepAlone (s : Call × Cache) : Call × Cache := s.1.step s.2

theorem stepAlone_three (key : CacheKey) (compiled : Except CompileFailure Predicate)
    (c : Cache) :
    let l := c.getOrCompile key fun _ => compiled
    stepAlone^[3] (ask key compiled, c) = (⟨key, compiled, .answered l.found⟩, l.cache) := by
  cases hf : c.find? key with
  | some e => simp [stepAlone, step, ask, getOrCompile, look, hf]
  | none =>
    cases compiled with
    | error failure => simp [stepAlone, step, ask, getOrCompile, look, hf]
    | ok p =>
      have hl : c.entries.lookup key = none := hf
      simp [stepAlone, step, ask, getOrCompile, look, enroll, settle, find?, hl]

theorem stepAlone_fits (key : CacheKey) (compiled : Except CompileFailure Predicate) (c : Cache)
    (n : Nat) :
    let s := stepAlone^[n] (ask key compiled, c)
    s.1.key = key ∧ s.1.compiled = compiled ∧ s.1.Fits (c.meaning key compiled) ∧
      ∀ key' compiled', (key' = key → compiled' = compiled) →
        s.2.meaning key' compiled' = c.meaning key' compiled' := by
  induction n with
  | zero => exact ⟨rfl, rfl, trivial, fun _ _ _ => rfl⟩
  | succ n ih =>
    dsimp only at ih ⊢
    rw [Function.iterate_succ_apply', stepAlone]
    obtain ⟨hkey, hcompiled, hfits, hmeans⟩ := ih
    obtain ⟨hkey', hcompiled'⟩ := step_asks (stepAlone^[n] (ask key compiled, c)).1
      (stepAlone^[n] (ask key compiled, c)).2
    refine ⟨hkey'.trans hkey, hcompiled'.trans hcompiled, step_fits hfits ?_, ?_⟩
    · rw [hkey, hcompiled, hmeans key compiled fun _ => rfl]
    · intro key' compiled' halike
      rw [step_meaning hfits, hmeans key' compiled' halike]
      rwa [hkey, hcompiled]

end Call

theorem getOrCompile_predicate (key : CacheKey) (compiled : Except CompileFailure Predicate)
    (c : Cache) :
    (c.getOrCompile key fun _ => compiled).found.map CacheEntry.predicate =
      c.meaning key compiled :=
  getOrCompile_found c key _

theorem meaning_getOrCompile (hkey : key' = key → compiled' = compiled) :
    (c.getOrCompile key fun _ => compiled).cache.meaning key' compiled' =
      c.meaning key' compiled' := by
  have hsteps := Call.stepAlone_fits key compiled c 3
  rw [Call.stepAlone_three] at hsteps
  exact hsteps.2.2.2 key' compiled' hkey

end Cache

namespace Request

def found (c : Cache) : Request → Except Breakdown (Option Predicate)
  | nothing => .ok none
  | lookup key compiled => Rule.ofCompile (c.meaning key compiled)
  | breakdown b => .error b

def after (c : Cache) : Request → Cache
  | lookup key compiled => (c.getOrCompile key fun _ => compiled).cache
  | _ => c

end Request

section
variable [Pattern.Engine]

namespace Rule
variable {r : Rule} {c : Cache}

def answerFrom (clock : Clock) (r : Rule) (s : Subject) :
    Except Breakdown (Option Predicate) → Except Breakdown Bool
  | .error b => .error b
  | .ok none => .ok false
  | .ok (some p) => .ok (r.decide clock s p).1

theorem evaluate_defined (h : r.definition.isEmpty = false) (clock : Clock) (s : Subject) :
    (r.evaluate clock s c).answer = r.answerFrom clock s (r.predicate c).found ∧
      (r.evaluate clock s c).cache = (r.predicate c).cache := by
  unfold evaluate
  rw [h, if_neg Bool.false_ne_true]
  cases hp : (r.predicate c).found with
  | error b => simp [hp, answerFrom]
  | ok found => cases found <;> simp [hp, answerFrom]

theorem evaluate_request (r : Rule) (clock : Clock) (s : Subject) (c : Cache) :
    (r.evaluate clock s c).answer = r.answerFrom clock s (r.request.found c) ∧
      (r.evaluate clock s c).cache = r.request.after c := by
  cases he : r.definition.isEmpty with
  | true => simp [evaluate, request, he, Request.found, Request.after, answerFrom]
  | false =>
    rw [(evaluate_defined he clock s).1, (evaluate_defined he clock s).2]
    unfold predicate request
    rw [he, if_neg Bool.false_ne_true]
    cases hd : r.definition with
    | tree members =>
      cases hk : Tree.key (.map members) with
      | error b => simp [Cache.getTree, hk, Search.ofLookup, Request.found, Request.after]
      | ok text =>
        dsimp only
        rw [Cache.ofLookup_found, Cache.ofLookup_cache, Cache.getTree, hk]
        exact ⟨by rw [Cache.getOrCompile_predicate, Request.found], rfl⟩
    | text definition =>
      cases hs : Definition.split definition with
      | error reason => simp [hs, Request.found, Request.after]
      | ok parts =>
        dsimp only
        rw [hs]
        dsimp only
        rw [Cache.ofLookup_found, Cache.ofLookup_cache, Cache.getText]
        exact ⟨by rw [Cache.getOrCompile_predicate, Request.found], rfl⟩

theorem evaluate_lookup {key : CacheKey} {compiled : Except CompileFailure Predicate}
    (h : r.request = .lookup key compiled) (clock : Clock) (s : Subject) :
    (r.evaluate clock s c).answer = r.answerFrom clock s (ofCompile (c.meaning key compiled)) := by
  rw [(r.evaluate_request clock s c).1, h, Request.found]

theorem evaluate_nothing (h : r.request = .nothing) (clock : Clock) (s : Subject) :
    (r.evaluate clock s c).answer = .ok false := by
  rw [(r.evaluate_request clock s c).1, h, Request.found, answerFrom]

theorem evaluate_breakdown {b : Breakdown} (h : r.request = .breakdown b) (clock : Clock)
    (s : Subject) : (r.evaluate clock s c).answer = .error b := by
  rw [(r.evaluate_request clock s c).1, h, Request.found, answerFrom]

end Rule

def KeysFit (rules : List (Rule × String)) : Prop :=
  ∀ q ∈ rules, ∀ q' ∈ rules, ∀ key compiled compiled',
    q.1.request = .lookup key compiled → q'.1.request = .lookup key compiled' →
      compiled = compiled'

theorem request_text {r : Rule} {definition : String} (hd : r.definition = .text definition)
    {key : CacheKey} {compiled : Except CompileFailure Predicate}
    (h : r.request = .lookup key compiled) : compiled = Condition.compile key.text := by
  unfold Rule.request at h
  cases hs : Definition.split definition with
  | error reason => simp [hd, hs] at h
  | ok parts =>
    cases he : r.definition.isEmpty with
    | true => simp [he] at h
    | false =>
      rw [hd] at he
      simp only [hd, hs, he, Bool.false_eq_true, if_false, Request.lookup.injEq] at h
      obtain ⟨rfl, rfl⟩ := h
      rfl

theorem keysFit_text {rules : List (Rule × String)}
    (h : ∀ q ∈ rules, ∃ definition, q.1.definition = .text definition) : KeysFit rules := by
  intro q hq q' hq' key compiled compiled' hr hr'
  obtain ⟨definition, hd⟩ := h q hq
  obtain ⟨definition', hd'⟩ := h q' hq'
  rw [request_text hd hr, request_text hd' hr']

namespace Cache
variable {rules later : List (Rule × String)} {c c' : Cache} {q : Rule × String} {clock : Clock}
  {s : Subject}

/-- The second cache means by everything that the rules ask for what the first does. -/
def Alike (rules : List (Rule × String)) (c c' : Cache) : Prop :=
  ∀ q ∈ rules, ∀ key compiled, q.1.request = .lookup key compiled →
    c'.meaning key compiled = c.meaning key compiled

theorem Alike.refl (rules : List (Rule × String)) (c : Cache) : Alike rules c c :=
  fun _ _ _ _ _ => rfl

theorem Alike.evaluate (h : Alike rules c c') (hq : q ∈ rules) (clock : Clock) (s : Subject) :
    (q.1.evaluate clock s c').answer = (q.1.evaluate clock s c).answer := by
  have hfound : q.1.request.found c' = q.1.request.found c := by
    cases hr : q.1.request with
    | lookup key compiled => rw [Request.found, Request.found, h q hq key compiled hr]
    | _ => rfl
  rw [(q.1.evaluate_request clock s c').1, (q.1.evaluate_request clock s c).1, hfound]

theorem Alike.evaluate_cache (h : Alike rules c c') (hfit : KeysFit rules) (hq : q ∈ rules)
    (clock : Clock) (s : Subject) : Alike rules c (q.1.evaluate clock s c').cache := by
  rw [(q.1.evaluate_request clock s c').2]
  cases hr : q.1.request with
  | lookup key compiled =>
    intro q' hq' key' compiled' hr'
    have hkey : key' = key → compiled' = compiled := by
      rintro rfl
      exact hfit q' hq' q hq key' compiled' compiled hr' hr
    rw [Request.after, meaning_getOrCompile hkey]
    exact h q' hq' key' compiled' hr'
  | _ => exact h

theorem Alike.scan_cache (h : Alike rules c c') (hfit : KeysFit rules) (hlater : later ⊆ rules) :
    Alike rules c (Reapply.scan (fun _ => clock) s later c').cache := by
  induction later generalizing c' with
  | nil => exact h
  | cons q rest ih =>
    rw [List.cons_subset] at hlater
    have hnext := h.evaluate_cache hfit hlater.1 clock s
    rw [Reapply.scan]
    dsimp only
    split
    · exact hnext
    · exact hnext
    · exact ih hnext hlater.2

theorem Alike.scan_target (h : Alike rules c c') (hfit : KeysFit rules) (hlater : later ⊆ rules) :
    (Reapply.scan (fun _ => clock) s later c').target =
      (Reapply.scan (fun _ => clock) s later c).target := by
  induction later generalizing c c' with
  | nil => rfl
  | cons q rest ih =>
    rw [List.cons_subset] at hlater
    have hnext : Alike rules (q.1.evaluate clock s c).cache (q.1.evaluate clock s c').cache := by
      intro q' hq' key compiled hr
      rw [h.evaluate_cache hfit hlater.1 clock s q' hq' key compiled hr,
        (Alike.refl rules c).evaluate_cache hfit hlater.1 clock s q' hq' key compiled hr]
    rw [Reapply.scan, Reapply.scan, h.evaluate hlater.1]
    dsimp only
    split
    · rfl
    · rfl
    · exact ih hnext hlater.2

theorem scan_unmatched (hfit : KeysFit rules) (hlater : q :: later ⊆ rules)
    (h : (q.1.evaluate clock s c).answer = .ok false) :
    (Reapply.scan (fun _ => clock) s (q :: later) c).target =
      (Reapply.scan (fun _ => clock) s later c).target := by
  rw [List.cons_subset] at hlater
  have hnext := (Alike.refl rules c).evaluate_cache hfit hlater.1 clock s
  rw [Reapply.scan, h]
  exact hnext.scan_target hfit hlater.2

end Cache

namespace Reapply
variable {rules : List (Rule × String)} {c c' : Cache} {clock : Clock} {set : Assignments}
  {ps : List Place}

def alone (clock : Clock) (rules : List (Rule × String)) (c : Cache) (p : Place) :
    Except PassFailure (Option String) :=
  decision (fun _ => clock) rules [] c p

theorem alone_eq (clock : Clock) (rules : List (Rule × String)) (c : Cache) (p : Place) :
    alone clock rules c p =
      ((scan (fun _ => clock) p.subject rules c).target.mapError PassFailure.breakdown).bind
        (newCategory p.subject) := rfl

theorem decision_alone (h : Cache.Alike rules c c') (hfit : KeysFit rules) {p : Place}
    (hfree : set.lookup p.number = none) :
    decision (fun _ => clock) rules set c' p = alone clock rules c p := by
  have hnow : Place.now set p = p.subject := by rw [Place.now, hfree]
  rw [alone_eq, decision, hnow, h.scan_target hfit (List.Subset.refl rules)]

/-- On places with different numbers a walk decides what is decided on each alone. -/
theorem walk_alone (hfit : KeysFit rules) (hn : (ps.map Place.number).Nodup) (c : Cache) :
    Decides (fun p decided => alone clock rules c p = decided) ps []
      (walk (fun _ _ => clock) rules ps [] c) :=
  walk_decides (Cache.Alike rules c) (fun _ _ _ h => h.scan_cache hfit (List.Subset.refl rules))
    (fun _ _ _ _ h hfree => (decision_alone h hfit hfree).symm) (Cache.Alike.refl rules c) hn
    fun _ _ => rfl

end Reapply

end

end LedgerRules
