import LedgerRules.Proofs.RuleRequests

/-! What a worker does in one step. Whatever the others do in between, it stays on the course that
it would take alone, it leaves the cache meaning what it meant, and it comes nearer to its end. -/

namespace LedgerRules.Reapply
open Cache (Alike)

variable {clock : Clock} {rules later : List (Rule × String)} {c : Cache} {q : Rule × String}
  {p : Place}

section
variable [Pattern.Engine]

structure Finds (clock : Clock) (rules : List (Rule × String)) (c : Cache) (p : Place)
    (later : List (Rule × String)) : Prop where
  among : later ⊆ rules
  target : (scan (fun _ => clock) p.subject later c).target =
    (scan (fun _ => clock) p.subject rules c).target

/-- How a worker stands to what is decided on its place alone; `given` is the category that was set
there. -/
inductive OnCourse (clock : Clock) (rules : List (Rule × String)) (c : Cache) (p : Place) :
    (given : Option String) → Activity → Prop
  | scanning {later : List (Rule × String)} :
      Finds clock rules c p later → OnCourse clock rules c p none (.scanning later)
  | looking {r : Rule} {category : String} {call : Cache.Call} {later : List (Rule × String)} :
      Finds clock rules c p ((r, category) :: later) →
      r.request = .lookup call.key call.compiled →
      call.Fits (c.meaning call.key call.compiled) →
      OnCourse clock rules c p none (.looking r category call later)
  | applying {r : Rule} {category : String} {predicate : Predicate}
      {later : List (Rule × String)} :
      Finds clock rules c p ((r, category) :: later) →
      (r.evaluate clock p.subject c).answer = .ok (r.decide clock p.subject predicate).1 →
      OnCourse clock rules c p none (.applying r category predicate later)
  | assigning {category : String} :
      alone clock rules c p = newCategory p.subject (some category) →
      OnCourse clock rules c p none (.assigning category)
  | failed {f : PassFailure} :
      alone clock rules c p = .error f → OnCourse clock rules c p none (.ended (.error f))
  | ended {given : Option String} :
      alone clock rules c p = .ok given →
      OnCourse clock rules c p given (.ended (.ok given.isSome))

namespace Finds

theorem all (clock : Clock) (rules : List (Rule × String)) (c : Cache) (p : Place) :
    Finds clock rules c p rules := ⟨List.Subset.refl rules, rfl⟩

theorem alone_of_target (h : Finds clock rules c p later)
    (target : Except Condition.Breakdown (Option String))
    (ht : (scan (fun _ => clock) p.subject later c).target = target) :
    alone clock rules c p =
      (target.mapError PassFailure.breakdown).bind (newCategory p.subject) := by
  rw [alone_eq, ← h.target, ht]

theorem unmatched (h : Finds clock rules c p (q :: later)) (hfit : KeysFit rules)
    (ha : (q.1.evaluate clock p.subject c).answer = .ok false) : Finds clock rules c p later := by
  refine ⟨(List.cons_subset.mp h.among).2, ?_⟩
  rw [← h.target, Cache.scan_unmatched hfit h.among ha]

theorem matched (h : Finds clock rules c p (q :: later))
    (ha : (q.1.evaluate clock p.subject c).answer = .ok true) :
    alone clock rules c p = newCategory p.subject (some q.2) :=
  h.alone_of_target (.ok (some q.2)) (by rw [scan, ha])

theorem broken (h : Finds clock rules c p (q :: later)) {b : Condition.Breakdown}
    (ha : (q.1.evaluate clock p.subject c).answer = .error b) :
    alone clock rules c p = .error (.breakdown b) :=
  h.alone_of_target (.error b) (by rw [scan, ha])

theorem exhausted (h : Finds clock rules c p []) : alone clock rules c p = .ok none :=
  h.alone_of_target (.ok none) rfl

end Finds

namespace Worker
variable {s : Shared}

def Fine (clock : Clock) (rules : List (Rule × String)) (c : Cache) (set : Assignments)
    (w : Worker) : Prop :=
  OnCourse clock rules c w.place (set.lookup w.place.number) w.activity

def Goes (clock : Clock) (rules : List (Rule × String)) (c : Cache) (next : Worker × Shared) :
    Prop :=
  next.1.Fine clock rules c next.2.set ∧ Alike rules c next.2.cache

theorem goes_on (hc : Alike rules c s.cache) (hset : s.set.lookup p.number = none) {a : Activity}
    (h : OnCourse clock rules c p none a) : Goes clock rules c (⟨p, a⟩, s) := by
  refine ⟨?_, hc⟩
  rw [Fine, hset]
  exact h

theorem step_scanning (hfit : KeysFit rules) (hc : Alike rules c s.cache)
    (hset : s.set.lookup p.number = none) (h : Finds clock rules c p later) :
    Goes clock rules c ((Worker.mk p (.scanning later)).step clock s) := by
  cases later with
  | nil => exact goes_on hc hset (.ended h.exhausted)
  | cons q rest =>
    unfold step
    dsimp only
    cases hr : q.1.request with
    | nothing =>
      have ha := Rule.evaluate_nothing (c := c) hr clock p.subject
      exact goes_on hc hset (.scanning (h.unmatched hfit ha))
    | breakdown b =>
      have ha := Rule.evaluate_breakdown (c := c) hr clock p.subject
      exact goes_on hc hset (.failed (h.broken ha))
    | lookup key compiled => exact goes_on hc hset (.looking h hr trivial)

theorem step_looking (hfit : KeysFit rules) (hc : Alike rules c s.cache)
    (hset : s.set.lookup p.number = none) {r : Rule} {category : String} {call : Cache.Call}
    (h : Finds clock rules c p ((r, category) :: later))
    (hr : r.request = .lookup call.key call.compiled)
    (hcall : call.Fits (c.meaning call.key call.compiled)) :
    Goes clock rules c ((Worker.mk p (.looking r category call later)).step clock s) := by
  have ha := Rule.evaluate_lookup (c := c) hr clock p.subject
  have hmember : (r, category) ∈ rules := h.among List.mem_cons_self
  have hasked : Goes clock rules c
      (⟨p, .looking r category (call.step s.cache).1 later⟩,
        { s with cache := (call.step s.cache).2 }) := by
    obtain ⟨hkey, hcompiled⟩ := call.step_asks s.cache
    refine goes_on (s := { s with cache := (call.step s.cache).2 }) ?_ hset (.looking h ?_ ?_)
    · intro q hq key compiled hq'
      rw [Cache.Call.step_meaning hcall, hc q hq key compiled hq']
      rintro rfl
      exact hfit q hq (r, category) hmember _ _ _ hq' hr
    · rw [hkey, hcompiled]
      exact hr
    · rw [hkey, hcompiled]
      exact Cache.Call.step_fits hcall (hc (r, category) hmember _ _ hr)
  obtain ⟨key, compiled, stage⟩ := call
  cases stage with
  | asking => exact hasked
  | compiling => exact hasked
  | storing e => exact hasked
  | answered found =>
    -- The answer is what the first cache means by the key.
    rw [← show found.map CacheEntry.predicate = c.meaning key compiled from hcall] at ha
    cases found with
    | ok e => exact goes_on hc hset (.applying h ha)
    | error failure =>
      cases failure with
      | error e => exact goes_on hc hset (.scanning (h.unmatched hfit ha))
      | breakdown b => exact goes_on hc hset (.failed (h.broken ha))

theorem step_applying (hfit : KeysFit rules) (hc : Alike rules c s.cache)
    (hset : s.set.lookup p.number = none) {r : Rule} {category : String} {predicate : Predicate}
    (h : Finds clock rules c p ((r, category) :: later))
    (ha : (r.evaluate clock p.subject c).answer = .ok (r.decide clock p.subject predicate).1) :
    Goes clock rules c ((Worker.mk p (.applying r category predicate later)).step clock s) := by
  have hnow : Place.now s.set p = p.subject := by rw [Place.now, hset]
  unfold step
  dsimp only
  rw [hnow]
  cases hd : (r.decide clock p.subject predicate).1 with
  | true => exact goes_on hc hset (.assigning (h.matched (ha.trans (congrArg _ hd))))
  | false => exact goes_on hc hset (.scanning (h.unmatched hfit (ha.trans (congrArg _ hd))))

theorem step_assigning (hc : Alike rules c s.cache) (hset : s.set.lookup p.number = none)
    {category : String} (h : alone clock rules c p = newCategory p.subject (some category)) :
    Goes clock rules c ((Worker.mk p (.assigning category)).step clock s) := by
  have hnow : Place.now s.set p = p.subject := by rw [Place.now, hset]
  unfold step
  dsimp only
  rw [hnow]
  cases hg : newCategory p.subject (some category) with
  | error f => exact goes_on hc hset (.failed (h.trans hg))
  | ok given =>
    cases given with
    | none => exact goes_on hc hset (.ended (h.trans hg))
    | some g =>
      have hself : ((p.number, g) :: s.set).lookup p.number = some g :=
        lookup_assign_self hset (some g)
      refine ⟨?_, hc⟩
      change OnCourse clock rules c p (((p.number, g) :: s.set).lookup p.number) (.ended (.ok true))
      rw [hself]
      exact .ended (h.trans hg)

/-- A worker stays on its course, and the cache goes on meaning the same. -/
theorem step_fine (hfit : KeysFit rules) (hc : Alike rules c s.cache) {w : Worker}
    (h : w.Fine clock rules c s.set) : Goes clock rules c (w.step clock s) := by
  obtain ⟨p, activity⟩ := w
  unfold Fine at h
  dsimp only at h
  generalize hset : s.set.lookup p.number = given at h
  cases h with
  | scanning hfinds => exact step_scanning hfit hc hset hfinds
  | looking hfinds hr hcall => exact step_looking hfit hc hset hfinds hr hcall
  | applying hfinds ha => exact step_applying hfit hc hset hfinds ha
  | assigning hg => exact step_assigning hc hset hg
  | failed hf => exact goes_on hc hset (.failed hf)
  | ended hg =>
    subst hset
    exact ⟨.ended hg, hc⟩

theorem Fine.changed {set : Assignments} {w : Worker} {flag : Bool}
    (h : w.Fine clock rules c set) (hended : w.hasEnded = true) (hflag : w.changed = .ok flag) :
    alone clock rules c w.place = .ok (set.lookup w.place.number) ∧
      flag = (set.lookup w.place.number).isSome := by
  obtain ⟨p, activity⟩ := w
  unfold Worker.Fine at h
  dsimp only at h ⊢
  generalize set.lookup p.number = given at h ⊢
  cases h with
  | ended hg => exact ⟨hg, (Except.ok.inj hflag).symm⟩
  | failed hf => exact nomatch hflag
  | _ => exact nomatch hended

theorem step_place (clock : Clock) (w : Worker) (s : Shared) :
    (w.step clock s).1.place = w.place := by
  unfold step turnTo
  dsimp only
  repeat' split
  all_goals rfl

theorem step_elsewhere (clock : Clock) (w : Worker) (s : Shared) {n : Nat}
    (h : n ≠ w.place.number) : (w.step clock s).2.set.lookup n = s.set.lookup n := by
  unfold step turnTo
  dsimp only
  repeat' split
  all_goals first | rfl | exact lookup_assign_other h (some _)

end Worker

end

def callRank (call : Cache.Call) : Nat :=
  match call.stage with
  | .asking => 3
  | .compiling => 2
  | .storing _ => 1
  | .answered _ => 0

def Activity.rank : Activity → Nat
  | .scanning rules => 7 * rules.length + 2
  | .looking _ _ call later => 7 * later.length + 4 + callRank call
  | .applying _ _ _ later => 7 * later.length + 3
  | .assigning _ => 1
  | .ended _ => 0

theorem callRank_step (call : Cache.Call) (c : Cache) (h : 0 < callRank call) :
    callRank (call.step c).1 < callRank call := by
  obtain ⟨key, compiled, stage⟩ := call
  cases stage with
  | asking =>
    cases hf : c.find? key <;> simp [Cache.Call.step, Cache.look, hf, callRank]
  | compiling => cases compiled <;> simp [Cache.Call.step, callRank]
  | storing e => simp [Cache.Call.step, callRank]
  | answered found => exact absurd h (Nat.lt_irrefl 0)

theorem Worker.step_rank [Pattern.Engine] (clock : Clock) {w : Worker} (s : Shared)
    (h : w.hasEnded = false) : (w.step clock s).1.activity.rank < w.activity.rank := by
  obtain ⟨p, activity⟩ := w
  cases activity with
  | ended changed => exact nomatch h
  | scanning later =>
    cases later with
    | nil => exact Nat.zero_lt_two
    | cons q rest =>
      cases hr : q.1.request with
      | nothing => simp [step, hr, turnTo, Activity.rank]
      | breakdown b => simp [step, hr, turnTo, Activity.rank]
      | lookup key compiled =>
        simp only [step, hr, turnTo, Activity.rank, callRank, Cache.Call.ask, List.length_cons]
        omega
  | assigning category =>
    unfold step
    dsimp only
    split <;> exact Nat.zero_lt_one
  | applying r category predicate later =>
    unfold step
    dsimp only
    split <;> simp [turnTo, Activity.rank]
  | looking r category call later =>
    have hasked := callRank_step call s.cache
    obtain ⟨key, compiled, stage⟩ := call
    cases stage with
    | asking => simpa [step, turnTo, Activity.rank] using hasked (Nat.succ_pos _)
    | compiling => simpa [step, turnTo, Activity.rank] using hasked (Nat.succ_pos _)
    | storing e => simpa [step, turnTo, Activity.rank] using hasked (Nat.succ_pos _)
    | answered found =>
      cases found with
      | ok e => simp [step, turnTo, Activity.rank, callRank]
      | error failure => cases failure <;> simp [step, turnTo, Activity.rank, callRank]

end LedgerRules.Reapply
