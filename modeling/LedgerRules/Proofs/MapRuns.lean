import Mathlib.Data.List.Infix
import Mathlib.Data.Set.List
import LedgerRules.Proofs.MapProgress

/-! What happens in the course of a parallel map, event by event: an item is handed out, an item is
collected. Whatever the schedule, items are handed out in order and only so many are under way at
once. The map ends with what its function makes of every item, in the order of the items, or with
the failure of one that was collected. -/

namespace LedgerRules.ParallelMap
variable {α β ε : Type}

inductive Event
  | handOut (position : Nat)
  | collect (position : Nat)
deriving DecidableEq

def Event.handedOut? : Event → Option Nat
  | .handOut position => some position
  | .collect _ => none

def Event.collected? : Event → Option Nat
  | .handOut _ => none
  | .collect position => some position

def Event.apply (pending : List Nat) : Event → List Nat
  | .handOut position => pending ++ [position]
  | .collect position => pending.filter (· ≠ position)

def handedOut (log : List Event) : List Nat := log.filterMap Event.handedOut?

def collected (log : List Event) : List Nat := log.filterMap Event.collected?

def underWay (log : List Event) : List Nat := log.foldl Event.apply []

@[simp] theorem handedOut_handOut (log : List Event) (position : Nat) :
    handedOut (log ++ [.handOut position]) = handedOut log ++ [position] := by
  simp [handedOut, Event.handedOut?]

@[simp] theorem handedOut_collect (log : List Event) (position : Nat) :
    handedOut (log ++ [.collect position]) = handedOut log := by
  simp [handedOut, Event.handedOut?]

@[simp] theorem collected_handOut (log : List Event) (position : Nat) :
    collected (log ++ [.handOut position]) = collected log := by
  simp [collected, Event.collected?]

@[simp] theorem collected_collect (log : List Event) (position : Nat) :
    collected (log ++ [.collect position]) = collected log ++ [position] := by
  simp [collected, Event.collected?]

@[simp] theorem underWay_append (log : List Event) (event : Event) :
    underWay (log ++ [event]) = event.apply (underWay log) := by
  simp [underWay]

def Within (limit : Nat) (log : List Event) : Prop :=
  ∀ before, before <+: log → (underWay before).length ≤ limit

theorem Within.append {limit : Nat} {log : List Event} {event : Event} (h : Within limit log)
    (hevent : (event.apply (underWay log)).length ≤ limit) : Within limit (log ++ [event]) := by
  intro before hbefore
  rcases List.prefix_concat_iff.mp hbefore with rfl | hbefore
  · rw [underWay_append]
    exact hevent
  · exact h before hbefore

theorem Within.collect {limit : Nat} {log : List Event} (h : Within limit log) (position : Nat) :
    Within limit (log ++ [.collect position]) :=
  h.append ((List.length_filter_le _ _).trans (h log (List.prefix_refl log)))

namespace Progress

def handOutLog (count : Nat) (p : Progress α β) : List Event :=
  (p.waiting.take count).map (.handOut ·.2)

def collectLog (f : α → Except ε β) : List Nat → Progress α β → List Event
  | [], _ => []
  | position :: done, p =>
    .collect position ::
      match p.collect f position with
      | .error _ => []
      | .ok p => p.collectLog f done

end Progress

def record (f : α → Except ε β) (schedule : Schedule) :
    (fuel : Nat) → List Event → Progress α β → List Event × Except (Failure ε) (List β)
  | 0, log, p => (log, if p.pending.isEmpty then .ok p.ordered else .error .stalled)
  | fuel + 1, log, p =>
    if p.pending.isEmpty then (log, .ok p.ordered)
    else
      let done := schedule fuel (p.pending.map (·.2))
      let log := log ++ p.collectLog f done
      match p.collectAll f done with
      | .error e => (log, .error (.item e))
      | .ok p => record f schedule fuel (log ++ p.handOutLog done.length) (p.handOut done.length)

def recorded (f : α → Except ε β) (schedule : Schedule) (concurrency : Int) (items : List α) :
    List Event × Except (Failure ε) (List β) :=
  if concurrency < 1 then ([], .error .concurrency)
  else
    let p := Progress.start items
    record f schedule items.length (p.handOutLog concurrency.toNat) (p.handOut concurrency.toNat)

theorem record_outcome (f : α → Except ε β) (schedule : Schedule) (fuel : Nat) (log : List Event)
    (p : Progress α β) : (record f schedule fuel log p).2 = rounds f schedule fuel p := by
  induction fuel generalizing log p with
  | zero => rfl
  | succ fuel ih =>
    unfold record rounds
    split
    · rfl
    · dsimp only
      cases p.collectAll f (schedule fuel (p.pending.map (·.2))) with
      | error e => rfl
      | ok p => exact ih _ _

theorem recorded_outcome (f : α → Except ε β) (schedule : Schedule) (concurrency : Int)
    (items : List α) :
    (recorded f schedule concurrency items).2 = run f schedule concurrency items := by
  unfold recorded run
  split
  · rfl
  · exact record_outcome ..

variable {f : α → Except ε β} {schedule : Schedule} {items : List α} {limit count position : Nat}
  {log : List Event} {p p' : Progress α β} {done : List Nat}

/-- The progress of a map is what its events tell. -/
structure Told (f : α → Except ε β) (items : List α) (limit : Nat) (log : List Event)
    (p : Progress α β) : Prop where
  handedOut : handedOut log ++ p.waiting.map (·.2) = List.range items.length
  underWay : underWay log = p.pending.map (·.2)
  collected : collected log = p.results.map (·.1)
  within : Within limit log
  positions : p.positions.Perm (List.range items.length)
  carried : ∀ q ∈ p.waiting ++ p.pending, items[q.2]? = some q.1
  results : ∀ r ∈ p.results, ∃ a, items[r.1]? = some a ∧ f a = .ok r.2

namespace Told

theorem start (f : α → Except ε β) (items : List α) (limit : Nat) :
    Told f items limit [] (Progress.start items) where
  handedOut := by simp [Progress.start, ParallelMap.handedOut, List.range_eq_range']
  underWay := rfl
  collected := rfl
  within := by
    intro before hbefore
    rw [List.prefix_nil.mp hbefore]
    exact Nat.zero_le limit
  positions := by rw [Progress.positions_start]
  carried := by
    intro q hq
    simpa [Progress.start, List.mem_zipIdx_iff_getElem?] using hq
  results := by simp [Progress.start]

theorem pending_nodup (h : Told f items limit log p) : (p.pending.map (·.2)).Nodup :=
  Progress.pending_nodup (h.positions.symm.nodup List.nodup_range)

theorem pending_length (h : Told f items limit log p) : p.pending.length ≤ limit := by
  have hlog := h.within log (List.prefix_refl log)
  rwa [h.underWay, List.length_map] at hlog

theorem handOne {waiting pending : List (α × Nat)} {results : List (Nat × β)} {q : α × Nat}
    (h : Told f items limit log ⟨q :: waiting, pending, results⟩)
    (hroom : pending.length < limit) :
    Told f items limit (log ++ [.handOut q.2]) ⟨waiting, pending ++ [q], results⟩ where
  handedOut := by simpa using h.handedOut
  underWay := by simp [Event.apply, h.underWay]
  collected := by simpa using h.collected
  within := by
    refine h.within.append ?_
    simpa [Event.apply, h.underWay] using Nat.succ_le_of_lt hroom
  positions := by
    refine List.Perm.trans ?_ h.positions
    exact Progress.positions_handOut 1 ⟨q :: waiting, pending, results⟩
  carried := by
    intro r hr
    exact h.carried r ((Progress.items_handOut 1 ⟨q :: waiting, pending, results⟩).mem_iff.mp hr)
  results := h.results

theorem handOut (h : Told f items limit log p) (hroom : p.pending.length + count ≤ limit) :
    Told f items limit (log ++ p.handOutLog count) (p.handOut count) := by
  induction count generalizing log p with
  | zero => simpa [Progress.handOutLog, Progress.handOut_zero] using h
  | succ count ih =>
    obtain ⟨_ | ⟨q, waiting⟩, pending, results⟩ := p
    · simpa [Progress.handOutLog, Progress.handOut] using h
    · dsimp only at hroom
      have hone := h.handOne (by omega)
      have hrest := ih hone (by rw [List.length_append, List.length_singleton]; omega)
      simpa [Progress.handOutLog, Progress.handOut] using hrest

theorem collect (h : Told f items limit log p) (hposition : position ∈ p.pending.map (·.2))
    (hcollect : p.collect f position = .ok p') :
    Told f items limit (log ++ [.collect position]) p' := by
  have hpositions := Progress.positions_collect (h.positions.symm.nodup List.nodup_range) hcollect
  rcases Progress.collect_eq_ok hcollect with ⟨hnone, rfl⟩ | ⟨a, b, ha, hb, rfl⟩
  · obtain ⟨q, hq, hqposition⟩ := List.mem_map.mp hposition
    exact absurd hqposition (hnone q hq)
  · exact {
      handedOut := by simpa using h.handedOut
      underWay := by
        rw [underWay_append, h.underWay, Event.apply, List.filter_map]
        rfl
      collected := by simp [h.collected]
      within := h.within.collect position
      positions := hpositions.trans h.positions
      carried := by
        intro q hq
        refine h.carried q (List.mem_append.mpr ((List.mem_append.mp hq).imp_right ?_))
        exact fun hq => List.mem_of_mem_filter hq
      results := by
        intro r hr
        rcases List.mem_append.mp hr with hr | hr
        · exact h.results r hr
        · obtain rfl := List.mem_singleton.mp hr
          exact ⟨a, h.carried (a, position) (List.mem_append_right _ ha), hb⟩ }

end Told

inductive Ended (f : α → Except ε β) (items : List α) (limit : Nat) :
    List Event → Except (Failure ε) (List β) → Prop
  | collected {log : List Event} {p : Progress α β} (told : Told f items limit log p)
      (waiting : p.waiting = []) (pending : p.pending = []) :
      Ended f items limit log (.ok p.ordered)
  | failed {log : List Event} {p : Progress α β} {a : α} {position : Nat} {e : ε}
      (told : Told f items limit log p) (pending : (a, position) ∈ p.pending)
      (failure : f a = .error e) :
      Ended f items limit (log ++ [.collect position]) (.error (.item e))

namespace Told

theorem collectAll (h : Told f items limit log p) (hdone : done.Nodup)
    (hpending : done ⊆ p.pending.map (·.2)) :
    (∃ p', p.collectAll f done = .ok p' ∧ Told f items limit (log ++ p.collectLog f done) p' ∧
      p'.pending.length + done.length = p.pending.length) ∨
    ∃ e, p.collectAll f done = .error e ∧
      Ended f items limit (log ++ p.collectLog f done) (.error (.item e)) := by
  induction done generalizing log p with
  | nil => exact .inl ⟨p, rfl, by simpa [Progress.collectLog] using h, rfl⟩
  | cons position done ih =>
    obtain ⟨hnot, hrest⟩ := List.nodup_cons.mp hdone
    have hposition := hpending List.mem_cons_self
    simp only [Progress.collectAll, List.foldlM_cons, Progress.collectLog]
    cases hcollect : p.collect f position with
    | error e =>
      obtain ⟨a, ha, he⟩ := Progress.collect_eq_error hcollect
      exact .inr ⟨e, rfl, .failed h ha he⟩
    | ok q =>
      have hleft : q.pending.map (·.2) = (p.pending.map (·.2)).erase position := by
        rw [(Progress.collect_pending hcollect).2, Progress.filter_pending h.pending_nodup]
      have hlength : q.pending.length + 1 = p.pending.length := by
        have := List.length_erase_add_one hposition
        rwa [← hleft, List.length_map, List.length_map] at this
      have hsubset : done ⊆ q.pending.map (·.2) := by
        intro k hk
        rw [hleft, h.pending_nodup.mem_erase_iff]
        exact ⟨fun heq => hnot (heq ▸ hk), hpending (List.mem_cons_of_mem position hk)⟩
      have hstep := ih (h.collect hposition hcollect) hrest hsubset
      rw [List.append_assoc, List.singleton_append] at hstep
      refine hstep.imp_left ?_
      rintro ⟨p', hp', htold, hcount⟩
      exact ⟨p', hp', htold, by rw [List.length_cons]; omega⟩

end Told

/-- Every round reports some of what is under way, in any order. -/
def Schedule.Reports (schedule : Schedule) : Prop :=
  ∀ round pending, pending ≠ [] → pending.Nodup →
    schedule round pending ≠ [] ∧ (schedule round pending).Nodup ∧
      schedule round pending ⊆ pending

theorem reverse_reports : Schedule.Reports fun _ pending => pending.reverse := by
  intro _ pending hne hnodup
  exact ⟨by simpa using hne, List.nodup_reverse.mpr hnodup, by simp⟩

theorem Told.record (h : Told f items limit log p) (hschedule : schedule.Reports) {fuel : Nat}
    (hfuel : (p.waiting ++ p.pending).length ≤ fuel) (hbusy : p.pending = [] → p.waiting = []) :
    Ended f items limit (record f schedule fuel log p).1 (record f schedule fuel log p).2 := by
  induction fuel generalizing log p with
  | zero =>
    obtain ⟨hwaiting, hpending⟩ := List.append_eq_nil_iff.mp (List.length_eq_zero_iff.mp
      (Nat.le_zero.mp hfuel))
    simpa [ParallelMap.record, hpending] using Ended.collected h hwaiting hpending
  | succ fuel ih =>
    unfold ParallelMap.record
    split
    next hidle =>
      have hpending := List.isEmpty_iff.mp hidle
      exact .collected h (hbusy hpending) hpending
    next hidle =>
      have hsome : p.pending.map (·.2) ≠ [] := by simpa using hidle
      obtain ⟨hne, hnodup, hsubset⟩ := hschedule fuel _ hsome h.pending_nodup
      have hreported := List.length_pos_iff.mpr hne
      dsimp only
      rcases h.collectAll hnodup hsubset with ⟨p', hp', htold, hcount⟩ | ⟨e, he, hended⟩
      · rw [hp']
        have hroom := h.pending_length
        have hwaiting := (Progress.collectAll_pending hp').1
        refine ih (htold.handOut (by omega)) ?_ (Progress.handOut_idle hreported.ne')
        rw [(Progress.items_handOut _ p').length_eq, List.length_append, hwaiting]
        rw [List.length_append] at hfuel
        omega
      · rw [he]
        exact hended

theorem recorded_ended (f : α → Except ε β) (hschedule : schedule.Reports) {concurrency : Int}
    (hconcurrency : 1 ≤ concurrency) (items : List α) :
    Ended f items concurrency.toNat (recorded f schedule concurrency items).1
      (recorded f schedule concurrency items).2 := by
  have hcount : concurrency.toNat ≠ 0 := by omega
  have hroom : (Progress.start (β := β) items).pending.length + concurrency.toNat ≤
      concurrency.toNat := by simp [Progress.start]
  have htold := (Told.start f items concurrency.toNat).handOut hroom
  unfold recorded
  rw [if_neg (by omega)]
  refine htold.record hschedule ?_ (Progress.handOut_idle hcount)
  rw [(Progress.items_handOut _ _).length_eq]
  simp [Progress.start]

namespace Told

theorem handedOut_prefix (h : Told f items limit log p) :
    ParallelMap.handedOut log <+: List.range items.length := ⟨_, h.handedOut⟩

theorem collected_ok (h : Told f items limit log p)
    (hposition : position ∈ ParallelMap.collected log) {a : α}
    (ha : items[position]? = some a) : ∃ b, f a = .ok b := by
  rw [h.collected] at hposition
  obtain ⟨r, hr, rfl⟩ := List.mem_map.mp hposition
  obtain ⟨a', ha', hb⟩ := h.results r hr
  obtain rfl := Option.some.inj (ha.symm.trans ha')
  exact ⟨r.2, hb⟩

theorem collected_perm (h : Told f items limit log p) (hwaiting : p.waiting = [])
    (hpending : p.pending = []) :
    (ParallelMap.collected log).Perm (List.range items.length) := by
  have hpositions := h.positions
  rw [h.collected]
  simpa [Progress.positions, hwaiting, hpending] using hpositions

theorem map_eq_ordered (h : Told f items limit log p) (hwaiting : p.waiting = [])
    (hpending : p.pending = []) : items.map f = p.ordered.map .ok := by
  have hcollected := h.collected_perm hwaiting hpending
  have hall : ∀ x ∈ items.map f, x ∈ Set.range (Except.ok (ε := ε) (α := β)) := by
    intro x hx
    obtain ⟨a, ha, rfl⟩ := List.mem_map.mp hx
    obtain ⟨position, hposition⟩ := List.mem_iff_getElem?.mp ha
    have hlt := (List.getElem?_eq_some_iff.mp hposition).1
    have hmember := hcollected.mem_iff.mpr (List.mem_range.mpr hlt)
    obtain ⟨b, hb⟩ := h.collected_ok hmember hposition
    exact ⟨b, hb.symm⟩
  have hvalues : items.map f ∈ Set.range (List.map Except.ok) := by
    rw [Set.range_list_map]
    exact hall
  obtain ⟨bs, hbs⟩ := hvalues
  have hordered : p.ordered = bs := by
    refine Progress.ordered_eq ?_ ?_
    · have hlength : bs.length = items.length := by simpa using congrArg List.length hbs
      rw [← h.collected, hlength]
      exact hcollected
    · intro r hr
      obtain ⟨a, ha, hb⟩ := h.results r hr
      have hat : (bs.map (Except.ok (ε := ε)))[r.1]? = some (.ok r.2) := by
        rw [hbs, List.getElem?_map, ha, Option.map_some, hb]
      rw [List.getElem?_map, Option.map_eq_some_iff] at hat
      obtain ⟨b, hbat, hok⟩ := hat
      rw [hbat, Except.ok.inj hok]
  rw [hordered, hbs]

end Told

/-- What a map answers for: items go out in order and none twice, few enough at any time; it returns
what its function makes of each of them, in their order, or fails as one of them did. -/
structure Orderly (f : α → Except ε β) (concurrency : Int) (items : List α) (log : List Event)
    (outcome : Except (Failure ε) (List β)) : Prop where
  inOrder : handedOut log <+: List.range items.length
  bounded : ∀ before, before <+: log → ((underWay before).length : Int) ≤ concurrency
  returns : ∀ bs, outcome = .ok bs ↔ items.map f = bs.map .ok
  once : ∀ bs, outcome = .ok bs → handedOut log = List.range items.length ∧
    (collected log).Perm (List.range items.length)
  fails : ∀ position a e, position ∈ collected log → items[position]? = some a →
    f a = .error e → outcome = .error (.item e)
  failed : ∀ failure, outcome = .error failure → ∃ position a e, position ∈ collected log ∧
    items[position]? = some a ∧ f a = .error e ∧ failure = .item e

theorem Orderly.of_collected {concurrency : Int} (hconcurrency : 1 ≤ concurrency)
    (h : Told f items concurrency.toNat log p) (hwaiting : p.waiting = [])
    (hpending : p.pending = []) : Orderly f concurrency items log (.ok p.ordered) where
  inOrder := h.handedOut_prefix
  bounded before hbefore := by
    have hwithin := h.within before hbefore
    omega
  returns bs := by
    rw [h.map_eq_ordered hwaiting hpending, Except.ok.injEq]
    exact (List.map_injective_iff.mpr fun _ _ => Except.ok.inj).eq_iff.symm
  once bs _ := by
    refine ⟨?_, h.collected_perm hwaiting hpending⟩
    simpa [hwaiting] using h.handedOut
  fails position a e hposition ha he := by
    obtain ⟨b, hb⟩ := h.collected_ok hposition ha
    exact nomatch he.symm.trans hb
  failed failure hfailure := nomatch hfailure

theorem Orderly.of_failed {concurrency : Int} (hconcurrency : 1 ≤ concurrency)
    (h : Told f items concurrency.toNat log p) {a : α} {e : ε}
    (hpending : (a, position) ∈ p.pending) (he : f a = .error e) :
    Orderly f concurrency items (log ++ [.collect position]) (.error (.item e)) := by
  have ha := h.carried (a, position) (List.mem_append_right _ hpending)
  have hlast : position ∈ collected (log ++ [.collect position]) := by simp
  exact {
    inOrder := by
      rw [handedOut_collect]
      exact h.handedOut_prefix
    bounded := by
      intro before hbefore
      have := h.within.collect position before hbefore
      omega
    returns := by
      intro bs
      refine iff_of_false (fun hok => nomatch hok) fun hbs => ?_
      have hat := congrArg (·[position]?) hbs
      simp [ha, he] at hat
    once := fun bs hok => nomatch hok
    fails := by
      intro k a' e' hk ha' he'
      rw [collected_collect, List.mem_append, List.mem_singleton] at hk
      rcases hk with hk | rfl
      · obtain ⟨b, hb⟩ := h.collected_ok hk ha'
        exact nomatch he'.symm.trans hb
      · obtain rfl := Option.some.inj (ha.symm.trans ha')
        rw [Except.error.inj (he.symm.trans he')]
    failed := by
      intro failure hfailure
      exact ⟨position, a, e, hlast, ha, he, (Except.error.inj hfailure).symm⟩ }

theorem Ended.orderly {concurrency : Int} (hconcurrency : 1 ≤ concurrency)
    {outcome : Except (Failure ε) (List β)} (h : Ended f items concurrency.toNat log outcome) :
    Orderly f concurrency items log outcome := by
  cases h with
  | collected told waiting pending => exact .of_collected hconcurrency told waiting pending
  | failed told pending failure => exact .of_failed hconcurrency told pending failure

/-- A map over items is orderly whatever the schedule, and always ends. -/
theorem orderly_run (f : α → Except ε β) (hschedule : schedule.Reports) {concurrency : Int}
    (hconcurrency : 1 ≤ concurrency) (items : List α) :
    ∃ log, recorded f schedule concurrency items = (log, run f schedule concurrency items) ∧
      Orderly f concurrency items log (run f schedule concurrency items) := by
  have horderly := (recorded_ended f hschedule hconcurrency items).orderly hconcurrency
  rw [recorded_outcome] at horderly
  exact ⟨_, Prod.ext rfl (recorded_outcome ..), horderly⟩

theorem orderly_run_latest_first :
    Schedule.Reports (fun _ pending => pending.reverse) ∧ (1 : Int) ≤ 2 ∧
      ∃ log, recorded (fun n : Nat => if n = 3 then .error "three" else .ok (n * n))
          (fun _ pending => pending.reverse) 2 [2, 5, 3, 7] = (log, .error (.item "three")) ∧
        Orderly (fun n : Nat => if n = 3 then .error "three" else .ok (n * n)) 2 [2, 5, 3, 7] log
          (.error (.item "three")) :=
  ⟨reverse_reports, by decide,
    orderly_run (fun n : Nat => if n = 3 then .error "three" else .ok (n * n)) reverse_reports
      (by decide) [2, 5, 3, 7]⟩

end LedgerRules.ParallelMap
