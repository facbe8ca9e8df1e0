import Mathlib
import LedgerRules.Pattern.Builtin
import LedgerRules.Proofs.WorkerSteps

/-! Calls that look for their keys in one cache side by side. In whatever order they take their
steps, an entry that was stored stays, and every call for its key that has an answer has that
entry. -/

namespace LedgerRules.Cache

variable {c c' : Cache} {key : CacheKey} {e : CacheEntry}

theorem find?_of_prefix (h : c.entries <+: c'.entries) (he : c.find? key = some e) :
    c'.find? key = some e := by
  obtain ⟨later, hlater⟩ := h
  have he : c.entries.lookup key = some e := he
  rw [find?, ← hlater, List.lookup_append, he, Option.some_or]

theorem find?_isSome_iff (c : Cache) (key : CacheKey) :
    (c.find? key).isSome ↔ key ∈ c.entries.map Prod.fst := by
  rw [find?, List.lookup_isSome_iff]
  simp

theorem keys_append (h : (c.entries.map Prod.fst).Nodup) (habsent : c.find? key = none)
    (e : CacheEntry) : ((c.entries ++ [(key, e)]).map Prod.fst).Nodup := by
  have hnew : key ∉ c.entries.map Prod.fst := by
    rw [← find?_isSome_iff, habsent]
    exact Bool.false_ne_true
  rw [List.map_append, List.map_singleton, ← List.concat_eq_append]
  exact h.concat hnew

theorem mem_of_find? (h : c.find? key = some e) : (key, e) ∈ c.entries := by
  obtain ⟨before, after, hentries, -⟩ := List.lookup_eq_some_iff.mp h
  rw [hentries]
  exact List.mem_append_right _ List.mem_cons_self

theorem find?_settle (c : Cache) (key : CacheKey) (e : CacheEntry) :
    (c.settle key e).2.find? key = some (c.settle key e).1 := by
  cases hf : c.find? key with
  | some first => simp [settle, hf]
  | none =>
    have hentries : c.entries.lookup key = none := hf
    simp only [settle, hf]
    rw [find?, List.lookup_append, hentries]
    simp

namespace Call
variable {call : Call}

def hasLooked (call : Call) : Bool :=
  match call.stage with
  | .asking => false
  | _ => true

def holding (call : Call) : Option CacheEntry :=
  match call.stage with
  | .storing e => some e
  | _ => none

theorem step_entries (call : Call) (c : Cache) :
    (call.step c).2.entries = c.entries ∨
      ∃ e, call.stage = .storing e ∧ c.find? call.key = none ∧
        (call.step c).1 = { call with stage := .answered (.ok e) } ∧
        (call.step c).2.entries = c.entries ++ [(call.key, e)] := by
  obtain ⟨key, compiled, stage⟩ := call
  cases stage with
  | asking => cases hf : c.find? key <;> simp [step, look, hf]
  | compiling => cases compiled <;> simp [step, enroll]
  | storing e => cases hf : c.find? key <;> simp [step, settle, hf]
  | answered found => exact .inl rfl

theorem step_grows (call : Call) (c : Cache) : c.entries <+: (call.step c).2.entries := by
  rcases call.step_entries c with h | ⟨e, -, -, -, h⟩
  · exact h ▸ List.prefix_rfl
  · exact h ▸ List.prefix_append _ _

theorem step_counts (call : Call) (c : Cache) :
    (call.step c).2.hits + (call.step c).2.misses + [call].countP hasLooked =
      c.hits + c.misses + [(call.step c).1].countP hasLooked := by
  obtain ⟨key, compiled, stage⟩ := call
  cases stage with
  | asking => cases hf : c.find? key <;> simp [step, look, hf, hasLooked] <;> omega
  | compiling => cases compiled <;> simp [step, enroll, hasLooked]
  | storing e => cases hf : c.find? key <;> simp [step, settle, hf, hasLooked]
  | answered found => rfl

def Settled (c : Cache) (call : Call) : Prop :=
  match call.stage with
  | .asking => True
  | .compiling => True
  | .storing e => call.compiled = .ok e.predicate
  | .answered (.ok e) => c.find? call.key = some e
  | .answered (.error failure) => call.compiled = .error failure

theorem Settled.mono (h : call.Settled c) (hc : c.entries <+: c'.entries) : call.Settled c' := by
  obtain ⟨key, compiled, stage⟩ := call
  cases stage with
  | asking => trivial
  | compiling => trivial
  | storing e => exact h
  | answered found =>
    cases found with
    | ok e => exact find?_of_prefix hc h
    | error failure => exact h

theorem step_settled (h : call.Settled c) : (call.step c).1.Settled (call.step c).2 := by
  obtain ⟨key, compiled, stage⟩ := call
  cases stage with
  | asking =>
    cases hf : c.find? key with
    | some e =>
      have hstep : (step ⟨key, compiled, .asking⟩ c).1 = ⟨key, compiled, .answered (.ok e)⟩ := by
        simp [step, look, hf]
      rw [hstep]
      exact find?_of_prefix (step_grows _ c) hf
    | none => simp [step, look, hf, Settled]
  | compiling =>
    cases compiled with
    | ok p => simp [step, enroll, Settled]
    | error failure => simp [step, Settled]
  | storing e => exact find?_settle c key e
  | answered found => exact h

theorem step_objects (call : Call) (c : Cache) :
    (∃ p, call.holding = none ∧ (call.step c).1.holding = some ⟨c.compiled, p⟩ ∧
      (call.step c).2.entries = c.entries ∧ (call.step c).2.compiled = c.compiled + 1) ∨
    ((call.step c).2.entries.map Prod.snd ++ (call.step c).1.holding.toList).Sublist
        (c.entries.map Prod.snd ++ call.holding.toList) ∧
      (call.step c).2.compiled = c.compiled := by
  obtain ⟨key, compiled, stage⟩ := call
  cases stage with
  | asking => cases hf : c.find? key <;> simp [step, look, hf, holding]
  | compiling => cases compiled <;> simp [step, enroll, holding]
  | storing e => cases hf : c.find? key <;> simp [step, settle, hf, holding]
  | answered found => exact .inr ⟨.refl _, rfl⟩

end Call

namespace Crowd
open Relation (ReflTransGen)
variable {asks : List (CacheKey × Except CompileFailure Predicate)} {s t u v : Crowd}

def objects (s : Crowd) : List CacheEntry :=
  s.cache.entries.map Prod.snd ++ s.calls.filterMap Call.holding

structure Orderly (asks : List (CacheKey × Except CompileFailure Predicate)) (s : Crowd) :
    Prop where
  calls : s.calls.map (fun call => (call.key, call.compiled)) = asks
  settled : ∀ call ∈ s.calls, call.Settled s.cache
  stored : ∀ q ∈ s.cache.entries, ∃ call ∈ s.calls, call.key = q.1 ∧
    call.compiled = .ok q.2.predicate ∧ call.stage = .answered (.ok q.2)
  keys : (s.cache.entries.map Prod.fst).Nodup
  counts : s.cache.hits + s.cache.misses = s.calls.countP Call.hasLooked
  numbers : (s.objects.map CacheEntry.number).Nodup
  numbered : ∀ e ∈ s.objects, e.number < s.cache.compiled

theorem start_asking {call : Call} (h : call ∈ (start asks).calls) : call.stage = .asking := by
  obtain ⟨ask, -, rfl⟩ := List.mem_map.mp h
  rfl

theorem orderly_start (asks : List (CacheKey × Except CompileFailure Predicate)) :
    Orderly asks (start asks) := by
  have hnone : (start asks).objects = [] := by
    refine List.filterMap_eq_nil_iff.mpr fun call hcall => ?_
    simp [Call.holding, start_asking hcall]
  refine ⟨?_, ?_, by simp [start, empty], List.nodup_nil, ?_, ?_, ?_⟩
  · simp [start, Call.ask, Function.comp_def]
  · intro call hcall
    simp [Call.Settled, start_asking hcall]
  · refine (List.countP_eq_zero.mpr fun call hcall => ?_).symm
    simp [Call.hasLooked, start_asking hcall]
  · simp [hnone]
  · simp [hnone]

theorem objects_perm {before after : List Call} {call : Call} {c : Cache} :
    (objects ⟨before ++ call :: after, c⟩).Perm
      (c.entries.map Prod.snd ++ call.holding.toList ++
        (before ++ after).filterMap Call.holding) := by
  have hheld : (before ++ call :: after).filterMap Call.holding =
      before.filterMap Call.holding ++ (call.holding.toList ++ after.filterMap Call.holding) := by
    rw [List.filterMap_append, List.filterMap_cons]
    cases call.holding <;> rfl
  rw [objects, hheld, List.filterMap_append, List.append_assoc]
  exact (List.perm_append_comm_assoc _ _ _).append_left _

section
variable {before after : List Call} {call : Call}

theorem Orderly.settled_step (h : Orderly asks ⟨before ++ call :: after, c⟩) :
    ∀ other ∈ before ++ (call.step c).1 :: after, other.Settled (call.step c).2 := by
  have hgrows := call.step_grows c
  intro other hother
  rcases List.mem_append.mp hother with hbefore | hother
  · exact (h.settled other (List.mem_append_left _ hbefore)).mono hgrows
  · rcases List.mem_cons.mp hother with rfl | hafter
    · exact Call.step_settled (h.settled call (by simp))
    · exact (h.settled other (by simp [hafter])).mono hgrows

theorem Orderly.stored_step (h : Orderly asks ⟨before ++ call :: after, c⟩)
    (hopen : call.hasAnswer = false) :
    ∀ q ∈ (call.step c).2.entries, ∃ other ∈ before ++ (call.step c).1 :: after,
      other.key = q.1 ∧ other.compiled = .ok q.2.predicate ∧
        other.stage = .answered (.ok q.2) := by
  have hold : ∀ q ∈ c.entries, ∃ other ∈ before ++ (call.step c).1 :: after,
      other.key = q.1 ∧ other.compiled = .ok q.2.predicate ∧
        other.stage = .answered (.ok q.2) := by
    intro q hq
    obtain ⟨other, hother, hkey, hcompiled, hstage⟩ := h.stored q hq
    have hne : other ≠ call := by
      rintro rfl
      simp [Call.hasAnswer, hstage] at hopen
    refine ⟨other, ?_, hkey, hcompiled, hstage⟩
    have hothers : other ∈ before ∨ other ∈ after := by simpa [hne] using hother
    rcases hothers with hbefore | hafter
    · simp [hbefore]
    · simp [hafter]
  rcases call.step_entries c with hsame | ⟨e, hstage, -, hanswered, hadded⟩
  · rwa [hsame]
  · intro q hq
    rw [hadded, List.mem_append, List.mem_singleton] at hq
    rcases hq with hq | rfl
    · exact hold q hq
    · have hcompiled := h.settled call (by simp)
      rw [Call.Settled, hstage] at hcompiled
      exact ⟨(call.step c).1, by simp, by simp [hanswered], by simp [hanswered, hcompiled],
        by simp [hanswered]⟩

theorem Orderly.keys_step (h : Orderly asks ⟨before ++ call :: after, c⟩) :
    ((call.step c).2.entries.map Prod.fst).Nodup := by
  rcases call.step_entries c with hsame | ⟨e, -, habsent, -, hadded⟩
  · rw [hsame]
    exact h.keys
  · rw [hadded]
    exact keys_append h.keys habsent e

theorem Orderly.numbers_step (h : Orderly asks ⟨before ++ call :: after, c⟩) :
    let next : Crowd := ⟨before ++ (call.step c).1 :: after, (call.step c).2⟩
    (next.objects.map CacheEntry.number).Nodup ∧
      ∀ e ∈ next.objects, e.number < next.cache.compiled := by
  intro next
  have hnow : (objects ⟨before ++ call :: after, c⟩).Perm _ := objects_perm
  have hnext : next.objects.Perm _ := objects_perm
  rcases call.step_objects c with ⟨p, hbefore, hafter, hentries, hcompiled⟩ | ⟨hkept, hcompiled⟩
  · -- The new number is above all that were given before.
    have hadded : next.objects.Perm
        (⟨c.compiled, p⟩ :: objects ⟨before ++ call :: after, c⟩) := by
      refine hnext.trans (.trans ?_ (hnow.symm.cons _))
      rw [hentries, hafter, hbefore]
      simp [List.perm_middle]
    have hfresh : c.compiled ∉ (objects ⟨before ++ call :: after, c⟩).map CacheEntry.number := by
      intro hmem
      obtain ⟨e, he, hnumber⟩ := List.mem_map.mp hmem
      exact (h.numbered e he).ne hnumber
    refine ⟨(hadded.map _).nodup_iff.mpr (List.nodup_cons.mpr ⟨hfresh, h.numbers⟩), ?_⟩
    intro e he
    have hbound : next.cache.compiled = c.compiled + 1 := hcompiled
    rw [hbound]
    rcases List.mem_cons.mp (hadded.mem_iff.mp he) with rfl | hold
    · exact Nat.lt_succ_self _
    · exact Nat.lt_succ_of_lt (h.numbered e hold)
  · have hsub := hkept.append_right ((before ++ after).filterMap Call.holding)
    constructor
    · refine (hnext.map _).nodup_iff.mpr (.sublist (hsub.map _) ?_)
      exact (hnow.map _).nodup_iff.mp h.numbers
    · intro e he
      have hbound : next.cache.compiled = c.compiled := hcompiled
      rw [hbound]
      exact h.numbered e (hnow.mem_iff.mpr (hsub.subset (hnext.mem_iff.mp he)))

end

theorem Orderly.move (h : Orderly asks s) (hmove : Move s t) : Orderly asks t := by
  cases hmove with
  | @step before after call hcalls hopen =>
    obtain ⟨calls, c⟩ := s
    obtain rfl : calls = before ++ call :: after := hcalls
    obtain ⟨hkey, hcompiled⟩ := call.step_asks c
    refine ⟨?_, h.settled_step, h.stored_step hopen, h.keys_step, ?_, h.numbers_step.1,
      h.numbers_step.2⟩
    · rw [← h.calls]
      simp [hkey, hcompiled]
    · have hcounts := call.step_counts c
      have hbefore := h.counts
      simp only [List.countP_append, List.countP_cons, List.countP_nil] at hcounts hbefore ⊢
      omega

theorem orderly_of_run (h : ReflTransGen Move (start asks) s) : Orderly asks s := by
  induction h with
  | refl => exact orderly_start asks
  | tail _ hmove ih => exact ih.move hmove

theorem Move.grows (h : Move s t) : s.cache.entries <+: t.cache.entries := by
  cases h with
  | step _ _ => exact Call.step_grows _ _

theorem grows_of_run (h : ReflTransGen Move s t) : s.cache.entries <+: t.cache.entries := by
  induction h with
  | refl => exact List.prefix_rfl
  | tail _ hmove ih => exact ih.trans hmove.grows

def rank (s : Crowd) : Nat := (s.calls.map Reapply.callRank).sum

theorem Move.rank_lt (h : Move s t) : t.rank < s.rank := by
  cases h with
  | @step before after call hcalls hopen =>
    have hleft : 0 < Reapply.callRank call := by
      obtain ⟨key, compiled, stage⟩ := call
      cases stage with
      | answered found => exact nomatch hopen
      | _ => exact Nat.succ_pos _
    have hstep := Reapply.callRank_step call s.cache hleft
    simp only [rank, hcalls, List.map_append, List.map_cons, List.sum_append, List.sum_cons]
    omega

theorem exists_end (s : Crowd) :
    ∃ t, ReflTransGen Move s t ∧ ∀ call ∈ t.calls, call.hasAnswer = true := by
  induction s using (measure rank).wf.induction with
  | h s ih =>
    by_cases hall : ∀ call ∈ s.calls, call.hasAnswer = true
    · exact ⟨s, .refl, hall⟩
    · obtain ⟨call, hcall, hopen⟩ := not_forall₂.mp hall
      obtain ⟨before, after, hcalls⟩ := List.append_of_mem hcall
      have hmove := Move.step hcalls (Bool.not_eq_true _ ▸ hopen)
      obtain ⟨t, hrun, hend⟩ := ih _ hmove.rank_lt
      exact ⟨t, hrun.head hmove, hend⟩

/-- Calls that share a cache, for whatever keys, in whatever order they take their steps. Once the
cache has an entry for a key it has that entry for good, it is what one of the calls for the key
compiled, and all calls for the key that are answered with an entry, before and after, have this
one; entries that were compiled apart have different numbers. Every lookup is counted once, and the
keys are those for which a call was answered with an entry. -/
theorem lookups_converge (hs : ReflTransGen Move (start asks) s) (ht : ReflTransGen Move s t) :
    t.calls.map (fun call => (call.key, call.compiled)) = asks ∧
    s.cache.entries <+: t.cache.entries ∧ (t.cache.entries.map Prod.fst).Nodup ∧
    (∀ key e, s.cache.find? key = some e →
      t.cache.find? key = some e ∧ (key, .ok e.predicate) ∈ asks ∧
        ∀ call ∈ t.calls, call.key = key → ∀ e', call.stage = .answered (.ok e') → e' = e) ∧
    (∀ call ∈ t.calls, ∀ e, call.stage = .answered (.ok e) → t.cache.find? call.key = some e) ∧
    (∀ call ∈ t.calls, ∀ failure, call.stage = .answered (.error failure) →
      call.compiled = .error failure) ∧
    (t.objects.map CacheEntry.number).Nodup ∧
    t.cache.hits + t.cache.misses = t.calls.countP Call.hasLooked ∧
    ∀ key, key ∈ t.cache.entries.map Prod.fst ↔
      ∃ call ∈ t.calls, call.key = key ∧ ∃ e, call.stage = .answered (.ok e) := by
  have hfirst := orderly_of_run hs
  have hlast := orderly_of_run (hs.trans ht)
  have hgrows := grows_of_run ht
  have hanswer : ∀ call ∈ t.calls, ∀ e, call.stage = .answered (.ok e) →
      t.cache.find? call.key = some e := by
    intro call hcall e hstage
    have hsettled := hlast.settled call hcall
    rwa [Call.Settled, hstage] at hsettled
  refine ⟨hlast.calls, hgrows, hlast.keys, ?_, hanswer, ?_, hlast.numbers, hlast.counts, ?_⟩
  · intro key e he
    have hkept := find?_of_prefix hgrows he
    obtain ⟨call, hcall, hkey, hcompiled, -⟩ := hfirst.stored _ (mem_of_find? he)
    refine ⟨hkept, ?_, ?_⟩
    · rw [← hfirst.calls]
      exact List.mem_map.mpr ⟨call, hcall, Prod.ext hkey hcompiled⟩
    · rintro other hother rfl e' hstage
      exact Option.some.inj ((hanswer other hother e' hstage).symm.trans hkept)
  · intro call hcall failure hstage
    have hsettled := hlast.settled call hcall
    rwa [Call.Settled, hstage] at hsettled
  · intro key
    constructor
    · intro hkey
      obtain ⟨q, hq, rfl⟩ := List.mem_map.mp hkey
      obtain ⟨call, hcall, hkey, -, hstage⟩ := hlast.stored q hq
      exact ⟨call, hcall, hkey, q.2, hstage⟩
    · rintro ⟨call, hcall, rfl, e, hstage⟩
      rw [← find?_isSome_iff, hanswer call hcall e hstage]
      rfl

open scoped Pattern.Builtin in
theorem lookups_converge_amount :
    let condition := "transaction.amount > 1"
    ∃ t, ReflTransGen Move
        (start (List.replicate 3 (textKey condition, Condition.compile condition))) t ∧
      ∃ e, t.cache.find? (textKey condition) = some e ∧ t.calls.length = 3 ∧
        ∀ call ∈ t.calls, call.stage = .answered (.ok e) := by
  intro condition
  obtain ⟨p, hp⟩ : ∃ p, Condition.compile condition = .ok p := by
    have hok : (Condition.compile condition).isOk = true := by decide +kernel
    cases hc : Condition.compile condition with
    | ok p => exact ⟨p, rfl⟩
    | error failure => exact nomatch hc ▸ hok
  obtain ⟨t, hrun, hend⟩ := exists_end
    (start (List.replicate 3 (textKey condition, Condition.compile condition)))
  obtain ⟨hcalls, -, -, -, hfound, hfailed, -⟩ := lookups_converge hrun .refl
  have hask : ∀ call ∈ t.calls, call.key = textKey condition ∧ call.compiled = .ok p := by
    intro call hcall
    have hmem := List.mem_map_of_mem (f := fun call => (call.key, call.compiled)) hcall
    rw [hcalls, hp] at hmem
    exact Prod.mk.inj (List.eq_of_mem_replicate hmem)
  have hlength : t.calls.length = 3 := by simpa using congrArg List.length hcalls
  have hanswered : ∀ call ∈ t.calls, ∃ e, call.stage = .answered (.ok e) ∧
      t.cache.find? (textKey condition) = some e := by
    intro call hcall
    have hanswer := hend call hcall
    unfold Call.hasAnswer at hanswer
    split at hanswer
    next found hstage =>
      cases found with
      | ok e => exact ⟨e, hstage, (hask call hcall).1 ▸ hfound call hcall e hstage⟩
      | error failure => exact nomatch (hask call hcall).2.symm.trans (hfailed call hcall _ hstage)
    next => exact nomatch hanswer
  obtain ⟨first, hfirst⟩ := List.exists_mem_of_length_pos (show 0 < t.calls.length by omega)
  obtain ⟨e, -, he⟩ := hanswered first hfirst
  refine ⟨t, hrun, e, he, hlength, fun call hcall => ?_⟩
  obtain ⟨e', hstage, he'⟩ := hanswered call hcall
  rw [hstage, Option.some.inj (he'.symm.trans he)]

end Crowd

end LedgerRules.Cache
