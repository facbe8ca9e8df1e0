import Mathlib
import LedgerRules.Pattern.Builtin
import LedgerRules.Proofs.MapProgress
import LedgerRules.Proofs.WorkerSteps

/-! A pass on several workers. Whatever happens next at every point, it comes to an end; unless a
rule broke down, it then names the same ids and has set the same categories as a pass that goes
through the transactions one after the other. -/

namespace LedgerRules.Reapply
open ParallelMap (Progress)
open Cache (Alike)

namespace Crew
variable {clock : Clock} {rules : List (Rule × String)} {c : Cache} {ps : List Place} {s t : Crew}

def rank (s : Crew) : Nat :=
  ((s.progress.waiting ++ s.progress.pending).map fun q => q.1.activity.rank + 1).sum

theorem rank_gather {done : List Nat} {progress : Progress Worker Bool} (hdone : done ≠ [])
    (hended : ∀ position ∈ done, ∃ w, (w, position) ∈ s.progress.pending ∧ w.hasEnded = true)
    (h : s.progress.collectAll Worker.changed done = .ok progress) :
    rank ⟨progress.handOut done.length, s.shared⟩ < s.rank := by
  obtain ⟨hwaiting, hpending⟩ := Progress.collectAll_pending h
  let cost (q : Worker × Nat) : Nat := q.1.activity.rank + 1
  have hhanded : rank ⟨progress.handOut done.length, s.shared⟩ =
      (progress.waiting.map cost).sum + (progress.pending.map cost).sum := by
    rw [rank, ((Progress.items_handOut done.length progress).map cost).sum_eq, List.map_append,
      List.sum_append]
  have hbefore : s.rank =
      (s.progress.waiting.map cost).sum + (s.progress.pending.map cost).sum := by
    rw [rank, List.map_append, List.sum_append]
  have hparts := List.filter_append_perm (fun q => decide (q.2 ∉ done)) s.progress.pending
  have hsplit := (hparts.map cost).sum_eq
  rw [List.map_append, List.sum_append] at hsplit
  -- At least one worker is gathered, and gathering it costs something.
  obtain ⟨position, hposition⟩ := List.exists_mem_of_ne_nil done hdone
  obtain ⟨w, hw, -⟩ := hended position hposition
  have hgathered : (w, position) ∈ s.progress.pending.filter fun q => !decide (q.2 ∉ done) := by
    simpa [hw] using hposition
  have hcost := List.le_sum_of_mem (List.mem_map_of_mem (f := cost) hgathered)
  have hpositive : 0 < cost (w, position) := Nat.succ_pos _
  rw [hhanded, hbefore, hwaiting, hpending]
  omega

section
variable [Pattern.Engine]

theorem Move.rank_lt (h : Move clock s t) : t.rank < s.rank := by
  cases h with
  | @work before after w position hpending hw =>
    have hstep := Worker.step_rank clock s.shared hw
    simp only [rank, hpending, List.map_append, List.map_cons, List.sum_append, List.sum_cons]
    omega
  | gather hdone _ hended hcollect => exact rank_gather hdone hended hcollect

theorem Move.wellFounded (clock : Clock) : WellFounded fun t s => Move clock s t :=
  Subrelation.wf Move.rank_lt (measure rank).wf

theorem exists_end (clock : Clock) (s : Crew) :
    ∃ t, Relation.ReflTransGen (Move clock) s t ∧ ∀ u, ¬Move clock t u := by
  induction s using (Move.wellFounded clock).induction with
  | h s ih =>
    by_cases hmove : ∃ t, Move clock s t
    · obtain ⟨t, hmove⟩ := hmove
      obtain ⟨u, hrun, hend⟩ := ih t hmove
      exact ⟨u, hrun.head hmove, hend⟩
    · exact ⟨s, .refl, not_exists.mp hmove⟩

structure Steady (clock : Clock) (rules : List (Rule × String)) (c : Cache) (ps : List Place)
    (s : Crew) : Prop where
  cache : Alike rules c s.shared.cache
  positions : s.progress.positions.Perm (List.range ps.length)
  workers : ∀ q ∈ s.progress.waiting ++ s.progress.pending,
    ps[q.2]? = some q.1.place ∧ q.1.Fine clock rules c s.shared.set
  results : ∀ r ∈ s.progress.results, ∃ p, ps[r.1]? = some p ∧
    alone clock rules c p = .ok (s.shared.set.lookup p.number) ∧
      r.2 = (s.shared.set.lookup p.number).isSome

theorem Steady.handOut {progress : Progress Worker Bool} {shared : Shared}
    (h : Steady clock rules c ps ⟨progress, shared⟩) (count : Nat) :
    Steady clock rules c ps ⟨progress.handOut count, shared⟩ := by
  refine ⟨h.cache, (Progress.positions_handOut count progress).trans h.positions, ?_, h.results⟩
  intro q hq
  exact h.workers q ((Progress.items_handOut count progress).mem_iff.mp hq)

theorem steady_start (concurrency : Nat) (clock : Clock) (rules : List (Rule × String))
    (ps : List Place) (c : Cache) : Steady clock rules c ps (start concurrency rules ps c) := by
  refine Steady.handOut ⟨Alike.refl rules c, ?_, ?_, by simp [Progress.start]⟩ concurrency
  · rw [Progress.positions_start, List.length_map]
  · intro q hq
    have hat : (ps.map (Worker.start rules))[q.2]? = some q.1 := by
      simpa [Progress.start, List.mem_zipIdx_iff_getElem?] using hq
    rw [List.getElem?_map, Option.map_eq_some_iff] at hat
    obtain ⟨p, hp, hw⟩ := hat
    rw [← hw]
    exact ⟨hp, .scanning (.all clock rules c p)⟩

theorem now_elsewhere (hn : (ps.map Place.number).Nodup) {w : Worker} {p : Place} {i j : Nat}
    (hw : ps[i]? = some w.place) (hp : ps[j]? = some p) (hij : j ≠ i) (clock : Clock)
    (shared : Shared) :
    (w.step clock shared).2.set.lookup p.number = shared.set.lookup p.number := by
  refine Worker.step_elsewhere clock w shared fun heq => hij ?_
  have hj : j < (ps.map Place.number).length := by
    rw [List.length_map]
    exact (List.getElem?_eq_some_iff.mp hp).1
  refine (List.getElem?_inj hj hn).mp ?_
  rw [List.getElem?_map, List.getElem?_map, hw, hp, Option.map_some, Option.map_some, heq]

theorem Steady.work (hfit : KeysFit rules) (hn : (ps.map Place.number).Nodup)
    (h : Steady clock rules c ps s) {before after : List (Worker × Nat)} {w : Worker}
    {position : Nat} (hpending : s.progress.pending = before ++ (w, position) :: after) :
    Steady clock rules c ps
      ⟨{ s.progress with pending := before ++ ((w.step clock s.shared).1, position) :: after },
        (w.step clock s.shared).2⟩ := by
  obtain ⟨⟨waiting, pending, results⟩, shared⟩ := s
  dsimp only at hpending
  subst hpending
  have hmember : (w, position) ∈ waiting ++ (before ++ (w, position) :: after) := by simp
  obtain ⟨hplace, hfine⟩ := h.workers (w, position) hmember
  obtain ⟨hfine', hcache'⟩ := Worker.step_fine hfit h.cache hfine
  -- No other worker or result has the position of this one.
  obtain ⟨hothers, hresults⟩ :=
    Progress.position_once (h.positions.symm.nodup List.nodup_range) rfl
  refine ⟨hcache', ?_, ?_, ?_⟩
  · simpa [Progress.positions] using h.positions
  · intro q hq
    have hcases : q = ((w.step clock shared).1, position) ∨ q ∈ waiting ++ (before ++ after) := by
      simp only [List.mem_append, List.mem_cons] at hq ⊢
      tauto
    rcases hcases with rfl | hq
    · exact ⟨by rw [Worker.step_place]; exact hplace, hfine'⟩
    · have hold : q ∈ waiting ++ (before ++ (w, position) :: after) := by
        simp only [List.mem_append, List.mem_cons] at hq ⊢
        tauto
      obtain ⟨hplace', hfine'⟩ := h.workers q hold
      refine ⟨hplace', ?_⟩
      unfold Worker.Fine
      rw [now_elsewhere hn hplace hplace' (hothers q hq)]
      exact hfine'
  · intro r hr
    obtain ⟨p, hp, hdecided, hflag⟩ := h.results r hr
    refine ⟨p, hp, ?_⟩
    dsimp only
    rw [now_elsewhere hn hplace hp (hresults r hr)]
    exact ⟨hdecided, hflag⟩

theorem Steady.collect {progress progress' : Progress Worker Bool} {shared : Shared}
    {position : Nat} (h : Steady clock rules c ps ⟨progress, shared⟩)
    (hended : ∀ w, (w, position) ∈ progress.pending → w.hasEnded = true)
    (hcollect : progress.collect Worker.changed position = .ok progress') :
    Steady clock rules c ps ⟨progress', shared⟩ := by
  rcases Progress.collect_eq_ok hcollect with ⟨-, rfl⟩ | ⟨w, flag, hw, hflag, rfl⟩
  · exact h
  · have hpositions :=
      Progress.positions_collect (h.positions.symm.nodup List.nodup_range) hcollect
    refine ⟨h.cache, hpositions.trans h.positions, ?_, ?_⟩
    · intro q hq
      refine h.workers q (List.mem_append.mpr ((List.mem_append.mp hq).imp_right ?_))
      exact fun hq => List.mem_of_mem_filter hq
    · intro r hr
      rcases List.mem_append.mp hr with hr | hr
      · exact h.results r hr
      · obtain rfl := List.mem_singleton.mp hr
        obtain ⟨hplace, hfine⟩ := h.workers _ (List.mem_append_right _ hw)
        exact ⟨w.place, hplace, hfine.changed (hended w hw) hflag⟩

theorem Steady.gather {done : List Nat} {progress : Progress Worker Bool}
    (h : Steady clock rules c ps s)
    (hended : ∀ position ∈ done, ∃ w, (w, position) ∈ s.progress.pending ∧ w.hasEnded = true)
    (hcollect : s.progress.collectAll Worker.changed done = .ok progress) :
    Steady clock rules c ps ⟨progress.handOut done.length, s.shared⟩ := by
  refine Steady.handOut ?_ done.length
  have honce := Progress.pending_nodup (h.positions.symm.nodup List.nodup_range)
  -- What is still to be collected was under way before, where its position stands for one worker.
  refine And.left (Progress.collectAll_keeps (I := fun progress =>
    Steady clock rules c ps ⟨progress, s.shared⟩ ∧ progress.pending ⊆ s.progress.pending)
    ?_ ⟨h, List.Subset.refl _⟩ hcollect)
  intro progress progress' position ⟨hsteady, hsubset⟩ hposition hstep
  refine ⟨hsteady.collect ?_ hstep, ?_⟩
  · intro w hw
    obtain ⟨w', hw', hwended⟩ := hended position hposition
    obtain ⟨rfl, -⟩ := Prod.mk.inj (List.inj_on_of_nodup_map honce (hsubset hw) hw' rfl)
    exact hwended
  · rw [(Progress.collect_pending hstep).2]
    exact fun q hq => hsubset (List.mem_of_mem_filter hq)

theorem Steady.move (hfit : KeysFit rules) (hn : (ps.map Place.number).Nodup)
    (h : Steady clock rules c ps s) (hmove : Move clock s t) : Steady clock rules c ps t := by
  cases hmove with
  | work hpending _ => exact h.work hfit hn hpending
  | gather _ _ hended hcollect => exact h.gather hended hcollect

end

def Busy (s : Crew) : Prop := s.progress.waiting ≠ [] → s.progress.pending ≠ []

theorem busy_handOut {progress : Progress Worker Bool} {count : Nat} (h : count ≠ 0)
    (shared : Shared) : Busy ⟨progress.handOut count, shared⟩ := by
  exact fun hwaiting hpending => hwaiting (Progress.handOut_idle h hpending)

section
variable [Pattern.Engine]

theorem busy_move (h : Move clock s t) : Busy t := by
  cases h with
  | work _ _ => exact fun _ => by simp
  | gather hdone _ _ _ => exact busy_handOut (by simpa using hdone) s.shared

theorem pending_eq_nil (hstop : ∀ t, ¬Move clock s t) (hok : ¬s.Failed) :
    s.progress.pending = [] := by
  by_contra hne
  obtain ⟨⟨w, position⟩, after, hpending⟩ := List.exists_cons_of_ne_nil hne
  have hmember : (w, position) ∈ s.progress.pending := by
    rw [hpending]
    exact List.mem_cons_self
  cases hw : w.hasEnded with
  | false => exact hstop _ (@Move.work _ clock s [] after w position hpending hw)
  | true =>
    obtain ⟨p, activity⟩ := w
    cases activity with
    | ended changed =>
      cases changed with
      | error f => exact hok ⟨_, hmember, f, rfl⟩
      | ok flag =>
        have hcollected : ∃ progress,
            s.progress.collectAll Worker.changed [position] = .ok progress := by
          simp [Progress.collectAll, Progress.collect, hpending, Worker.changed]
        obtain ⟨progress, hprogress⟩ := hcollected
        refine hstop _ (.gather (by simp) (List.nodup_singleton position) ?_ hprogress)
        intro k hk
        obtain rfl := List.mem_singleton.mp hk
        exact ⟨_, hmember, hw⟩
    | _ => exact nomatch hw

theorem Steady.gathered (h : Steady clock rules c ps s) (hbusy : Busy s)
    (hpending : s.progress.pending = []) :
    (∀ p ∈ ps, alone clock rules c p = .ok (s.shared.set.lookup p.number)) ∧
      s.progress.ordered = ps.map fun p => (s.shared.set.lookup p.number).isSome := by
  have hwaiting : s.progress.waiting = [] := by
    by_contra hne
    exact hbusy hne hpending
  have hpositions : (s.progress.results.map (·.1)).Perm (List.range ps.length) := by
    simpa [Progress.positions, hwaiting, hpending] using h.positions
  constructor
  · intro p hp
    obtain ⟨k, hk⟩ := List.mem_iff_getElem?.mp hp
    have hrange : k ∈ List.range ps.length := List.mem_range.mpr (List.getElem?_eq_some_iff.mp hk).1
    obtain ⟨r, hr, rfl⟩ := List.mem_map.mp (hpositions.mem_iff.mpr hrange)
    obtain ⟨p', hp', hdecided, -⟩ := h.results r hr
    obtain rfl := Option.some.inj (hk.symm.trans hp')
    exact hdecided
  · refine Progress.ordered_eq (by simpa using hpositions) fun r hr => ?_
    obtain ⟨p, hp, -, hflag⟩ := h.results r hr
    rw [List.getElem?_map, hp, Option.map_some, hflag]

theorem Steady.failed (h : Steady clock rules c ps s) (hfailed : s.Failed) :
    ∃ p ∈ ps, ∃ f, alone clock rules c p = .error f := by
  obtain ⟨⟨⟨p, activity⟩, position⟩, hq, f, hf⟩ := hfailed
  obtain ⟨hplace, hfine⟩ := h.workers _ (List.mem_append_right _ hq)
  dsimp only at hf hplace
  subst hf
  refine ⟨p, List.mem_of_getElem? hplace, f, ?_⟩
  unfold Worker.Fine at hfine
  dsimp only at hfine
  generalize s.shared.set.lookup p.number = given at hfine
  cases hfine with
  | failed halone => exact halone

end

end Crew

section
variable {rules : List RuleInput} {ps : List Place}

theorem prepare_keysFit [Pattern.Engine] (hr : ∀ input ∈ rules, input.TextOnly)
    (ids : Nat → String) :
    KeysFit (prepare ids rules).rules := by
  refine keysFit_text fun q hq => ?_
  obtain ⟨-, input, hi, hbody⟩ := mem_prepare hq
  cases hd : q.1.definition with
  | text definition => exact ⟨definition, rfl⟩
  | tree members => exact absurd (hbody.trans (congrArg some hd)) (hr input hi members)

theorem workersFor_pos (requested : Option Int) (items : Int) :
    (workersFor requested items).toNat ≠ 0 := by
  have h : 1 ≤ workersFor requested items := by
    unfold workersFor
    exact le_max_left _ _
  omega

/-- Workers that share a cache and take their steps in any order come to an end. Unless a rule broke
down for one of them, they then name the ids that a pass through one transaction after the other
names, and leave every transaction as that leaves it; if one did, there is no such pass either. -/
theorem parallel_pass_eq [Pattern.Engine] (hr : ∀ input ∈ rules, input.TextOnly)
    (hn : (ps.map Place.number).Nodup) (requested : Int) (ids : Nat → String) (c : Cache) :
    let start := Crew.start (workersFor (some requested) ps.length).toNat (prepare ids rules).rules
      ps c
    let pass := reapply (fun _ _ => Clock.unlimited) ids ps rules 1 c
    Acc (fun t s => Crew.Move Clock.unlimited s t) start ∧
      ∀ s, Relation.ReflTransGen (Crew.Move Clock.unlimited) start s →
        (s.Failed → ∃ f, pass.changedIds = .error f) ∧
        (¬s.Failed → (∀ t, ¬Crew.Move Clock.unlimited s t) →
          s.progress.pending = [] ∧ s.changedIds ps = pass.changedIds ∧
            s.subjects ps = pass.subjects ps) := by
  intro start pass
  have hfit := prepare_keysFit hr ids
  refine ⟨(Crew.Move.wellFounded Clock.unlimited).apply start, fun s hrun => ?_⟩
  have hsteady : Crew.Steady Clock.unlimited (prepare ids rules).rules c ps s := by
    induction hrun with
    | refl => exact Crew.steady_start _ _ _ ps c
    | tail _ hmove ih => exact ih.move hfit hn hmove
  have hbusy : s.Busy := by
    rcases hrun.cases_tail with rfl | ⟨before, -, hmove⟩
    · exact Crew.busy_handOut (workersFor_pos _ _) _
    · exact Crew.busy_move hmove
  let w := walk (fun _ _ => Clock.unlimited) (prepare ids rules).rules ps [] c
  have hwalk : Decides _ ps [] w := walk_alone hfit hn c
  have hids : pass.changedIds = w.changed.bind (changedIds ps) := rfl
  constructor
  · intro hfailed
    obtain ⟨p, hp, f, hf⟩ := hsteady.failed hfailed
    cases hw : w.changed with
    | error f' => exact ⟨f', by rw [hids, hw]; rfl⟩
    | ok flags => exact nomatch hf.symm.trans (hwalk.here flags hw p hp)
  · intro hok hstop
    have hpending := Crew.pending_eq_nil hstop hok
    obtain ⟨halone, hordered⟩ := hsteady.gathered hbusy hpending
    cases hw : w.changed with
    | error f =>
      obtain ⟨p, hp, hf⟩ := hwalk.stopped f hw
      exact nomatch (halone p hp).symm.trans hf
    | ok flags =>
      have hset : ∀ p ∈ ps, s.shared.set.lookup p.number = w.set.lookup p.number := by
        intro p hp
        exact Except.ok.inj ((halone p hp).symm.trans (hwalk.here flags hw p hp))
      have hflags : s.progress.ordered = flags := by
        rw [hordered, hwalk.flags flags hw]
        exact List.map_congr_left fun p hp => by rw [hset p hp]
      refine ⟨hpending, ?_, ?_⟩
      · rw [hids, hw, Crew.changedIds, hflags]
        rfl
      · refine List.map_congr_left fun p hp => ?_
        have hpass : pass.set = w.set := rfl
        rw [Place.now, Place.now, hpass, hset p hp]

end

open scoped Pattern.Builtin in
theorem parallel_pass_eq_shop :
    let rules : List RuleInput :=
      [.record (.map [("ruleDefinition", .text "transaction.merchant === \"Shop\" -> \"Food\"")]),
        .record (.map [("ruleDefinition", .text "transaction.amount > 9 -> \"Large\"")])]
    let ps := places
      [.record (.map [("id", .text "1"), ("merchant", .text "Bus"), ("amount", .int 3)]),
        .record (.map [("id", .text "2"), ("merchant", .text "Bus"), ("amount", .int 10)]),
        .record (.map [("id", .text "3"), ("merchant", .text "Shop"), ("amount", .int 20)])]
    let start := Crew.start 2 (prepare (fun _ => "") rules).rules ps .empty
    ∃ s, Relation.ReflTransGen (Crew.Move Clock.unlimited) start s ∧
      (∀ t, ¬Crew.Move Clock.unlimited s t) ∧ ¬s.Failed ∧ s.changedIds ps = .ok ["2", "3"] := by
  intro rules ps start
  have hpass : (reapply (fun _ _ => Clock.unlimited) (fun _ => "") ps rules 1 .empty).changedIds =
      .ok ["2", "3"] := by decide +kernel
  have hrules : ∀ input ∈ rules, input.TextOnly := by
    intro input hi members
    have hi : input = rules[0] ∨ input = rules[1] := by simpa [rules] using hi
    rcases hi with rfl | rfl <;> exact fun h => nomatch h
  obtain ⟨-, hruns⟩ := parallel_pass_eq hrules (show (ps.map Place.number).Nodup by decide) 2
    (fun _ => "") .empty
  obtain ⟨s, hrun, hend⟩ := Crew.exists_end Clock.unlimited start
  obtain ⟨hfailed, hsame⟩ := hruns s hrun
  have hok : ¬s.Failed := by
    intro hs
    obtain ⟨f, hf⟩ := hfailed hs
    exact nomatch hpass.symm.trans hf
  exact ⟨s, hrun, hend, hok, (hsame hok hend).2.1.trans hpass⟩

end LedgerRules.Reapply
