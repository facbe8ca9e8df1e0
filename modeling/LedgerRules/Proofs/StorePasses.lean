import LedgerRules.Pattern.Builtin
import LedgerRules.Proofs.BrokenRules
import LedgerRules.Proofs.RepeatedPasses
import LedgerRules.Proofs.StoreSaving

/-! A pass over a store. It sets categories where the transactions are held, so that they show
before anything is saved: a pass that ends early leaves what was set up to there. What a pass that
ends saves shows already, unless ids are shared. -/

namespace LedgerRules
open Reapply (transactionPlaces)

namespace Reapply
variable {clocks : Nat → Nat → Clock} {rules : List (Rule × String)} {before : List Place}
  {p : Place} {set : Assignments} {c : Cache} {flags : List Bool} {f : PassFailure}

theorem walk_stopped [Pattern.Engine]
    (hbefore : (walk clocks rules before set c).changed = .ok flags)
    (hp : decision (clocks before.length) rules (walk clocks rules before set c).set
      (walk clocks rules before set c).cache p = .error f) (later : List Place) :
    (walk clocks rules (before ++ p :: later) set c).set =
      (walk clocks rules before set c).set := by
  induction before generalizing clocks set c flags with
  | nil =>
    unfold decision at hp
    dsimp only [walk, List.length_nil] at hp
    rw [List.nil_append, walk, walk, hp]
  | cons q rest ih =>
    cases hd : decision (clocks 0) rules set c q with
    | error f' => simp [walk_cons_error clocks hd] at hbefore
    | ok category =>
      obtain ⟨hchanged, hset, hcache⟩ := walk_cons_ok clocks hd rest
      rw [hchanged] at hbefore
      rw [hset, hcache] at hp
      obtain ⟨flags, hrest, -⟩ := map_eq_ok.mp hbefore
      rw [List.cons_append, (walk_cons_ok clocks hd _).2.1, hset]
      exact ih hrest hp

end Reapply

namespace MemoryStore
variable {s : MemoryStore} {clocks : Nat → Nat → Clock} {workers : Int} {c : Cache}
  {ids : List String} {f : PassFailure}

section
variable [Pattern.Engine]

theorem reapply_changedIds (clocks : Nat → Nat → Clock) (workers : Int) (s : MemoryStore)
    (c : Cache) :
    (s.reapply clocks workers c).changedIds = (s.pass clocks workers c).changedIds := by
  unfold reapply
  cases h : (s.pass clocks workers c).changedIds <;> simp only [h]

theorem reapply_ended (h : (s.pass clocks workers c).changedIds = .ok ids) :
    let shown := s.showCategories (s.pass clocks workers c).set
    (s.reapply clocks workers c).store = shown.saveChanged ids ∧
      (s.reapply clocks workers c).saved = (shown.toSave ids).map (·.2) := by
  simp only [reapply, h, and_self]

theorem reapply_stopped (h : (s.pass clocks workers c).changedIds = .error f) :
    (s.reapply clocks workers c).store = s.showCategories (s.pass clocks workers c).set ∧
      (s.reapply clocks workers c).saved = [] := by
  simp only [reapply, h, and_self]

end

theorem subjects_showCategories (set : Reapply.Assignments) (s : MemoryStore) :
    (s.showCategories set).transactions.map .transaction =
      s.listing.map (Reapply.Place.now set) := by
  rw [transactions, showCategories_places, List.map_map, List.map_map, listing, List.map_map]
  refine List.map_congr_left fun p _ => ?_
  simp only [Function.comp_apply, shown, Reapply.Place.now]
  cases set.lookup p.1 <;> rfl

/-- What a pass that ends sets, where no two transactions have one id: it names those on which it
set a category, which was another than they had. -/
structure Sets (s : MemoryStore) (set : Reapply.Assignments) (ids : List String) : Prop where
  named : ids = (s.places.filter fun p => (set.lookup p.1).isSome).map (·.2.id)
  moved : ∀ p ∈ s.places, ∀ g, set.lookup p.1 = some g → p.2.category ≠ g
  elsewhere : ∀ n, n ∉ s.places.map (·.1) → set.lookup n = none

def Moves (p : Place) (decided : Except PassFailure (Option String)) : Prop :=
  ∀ t, p.subject = .transaction t → ∀ g, decided = .ok (some g) → t.category ≠ g

theorem decision_moves [Pattern.Engine] (clocks : Nat → Clock) (rules : List (Rule × String))
    (c : Cache) {set : Reapply.Assignments} {p : Place} (hfree : set.lookup p.number = none) :
    Moves p (Reapply.decision clocks rules set c p) := by
  intro t ht g hd
  have hnow : Reapply.Place.now set p = .transaction t := by rw [Reapply.Place.now, hfree, ht]
  obtain ⟨target, -, hg⟩ := Reapply.decision_eq_ok hd
  rw [hnow] at hg
  cases target with
  | none => simp [Reapply.newCategory] at hg
  | some target =>
    rw [Reapply.newCategory_transaction, Except.ok.injEq] at hg
    by_cases hsame : t.category = target
    · simp [hsame] at hg
    · rw [if_neg hsame] at hg
      exact Option.some.inj hg ▸ hsame

theorem pass_sets [Pattern.Engine] (hs : s.WellNumbered) (hid : (s.transactions.map (·.id)).Nodup)
    (h : (s.pass clocks workers c).changedIds = .ok ids) :
    Sets s (s.pass clocks workers c).set ids := by
  let rules := (Reapply.prepare (fun _ => "") (s.rules.map .rule)).rules
  let w := Reapply.walk clocks rules s.listing [] c
  have hnumbers : s.listing.map Place.number = s.places.map (·.1) := by
    rw [listing, List.map_map]
    rfl
  have hdecides : Reapply.Decides Moves s.listing [] w :=
    Reapply.walk_decides (fun _ => True) (fun _ _ _ _ => trivial)
      (fun n c _ _ _ hfree => decision_moves (clocks n) rules c hfree) trivial
      (hnumbers ▸ hs.numbers_nodup hid) fun _ _ => rfl
  cases hw : w.changed with
  | error f =>
    have herror : (s.pass clocks workers c).changedIds = .error f :=
      Reapply.reapply_eq_error_iff_walk.mpr hw
    exact nomatch herror.symm.trans h
  | ok flags =>
    have hids : Reapply.changedIds s.listing flags = .ok ids := by
      rw [← h]
      change _ = w.changed.bind (Reapply.changedIds s.listing)
      rw [hw]
      rfl
    refine ⟨?_, ?_, fun n hn => hdecides.elsewhere flags hw n (hnumbers ▸ hn)⟩
    · rw [hdecides.flags flags hw] at hids
      have hsome := Reapply.changedIds_flags hids
      rw [listing, List.filter_map, List.map_map] at hsome
      refine List.map_injective_iff.mpr (fun _ _ => Option.some.inj) ?_
      rw [hsome, List.map_map]
      rfl
    · intro p hp g hg
      refine hdecides.here flags hw ⟨p.1, .transaction p.2⟩ (List.mem_map_of_mem hp) p.2 rfl g ?_
      exact congrArg Except.ok hg

namespace Sets
variable {set : Reapply.Assignments}

theorem shown_eq_iff (h : Sets s set ids) {p : Nat × Transaction} (hp : p ∈ s.places) :
    (shown set p).2 = p.2 ↔ set.lookup p.1 = none := by
  unfold shown
  cases hg : set.lookup p.1 with
  | none => simp
  | some g =>
    refine iff_of_false (fun heq => h.moved p hp g hg ?_) (by simp)
    exact (congrArg Transaction.category heq).symm

theorem shown_category_iff (h : Sets s set ids) {p : Nat × Transaction} (hp : p ∈ s.places) :
    p.2.category ≠ (shown set p).2.category ↔ (set.lookup p.1).isSome = true := by
  unfold shown
  cases hg : set.lookup p.1 with
  | none => simp
  | some g => simpa using h.moved p hp g hg

theorem transactions_same_iff (h : Sets s set ids) :
    (s.showCategories set).transactions = s.transactions ↔ ids = [] := by
  have hshown : (s.showCategories set).transactions = s.transactions ↔
      ∀ p ∈ s.places, (shown set p).2 = p.2 := by
    rw [transactions, showCategories_places, List.map_map, transactions, List.map_inj_left]
    rfl
  rw [hshown, h.named, List.map_eq_nil_iff, List.filter_eq_nil_iff]
  refine forall₂_congr fun p hp => ?_
  rw [h.shown_eq_iff hp, Option.not_isSome_iff_eq_none]

theorem toSave_eq (h : Sets s set ids) (hid : (s.transactions.map (·.id)).Nodup) :
    (s.showCategories set).toSave ids =
      (s.places.filter fun p => (set.lookup p.1).isSome).map (shown set) := by
  rw [transactions, List.map_map] at hid
  rw [toSave, showCategories_places, List.filter_map]
  refine congrArg _ (List.filter_congr fun p hp => ?_)
  rw [Function.comp_apply, shown_id, Bool.eq_iff_iff, List.contains_iff_mem, h.named, List.mem_map]
  constructor
  · rintro ⟨q, hq, heq⟩
    obtain ⟨hq, hset⟩ := List.mem_filter.mp hq
    obtain rfl := List.inj_on_of_nodup_map hid hq hp heq
    exact hset
  · intro hset
    exact ⟨p, List.mem_filter.mpr ⟨hp, hset⟩, rfl⟩

theorem saved_eq (h : Sets s set ids) (hid : (s.transactions.map (·.id)).Nodup) :
    ((s.showCategories set).toSave ids).map (·.2) =
      ((s.transactions.zip (s.showCategories set).transactions).filter fun p =>
        p.1.category ≠ p.2.category).map (·.2) := by
  rw [h.toSave_eq hid, transactions, transactions, showCategories_places, List.map_map,
    List.map_map, List.zip_map', List.filter_map, List.map_map]
  refine congrArg _ (List.filter_congr fun p hp => ?_)
  rw [Bool.eq_iff_iff, Function.comp_apply, decide_eq_true_iff]
  exact (h.shown_category_iff hp).symm

end Sets

theorem sameButCategory (set : Reapply.Assignments) (s : MemoryStore) :
    List.Forall₂ (fun t u => u = { t with category := u.category }) s.transactions
      (s.showCategories set).transactions := by
  rw [transactions, transactions, showCategories_places, List.map_map, List.forall₂_map_left_iff,
    List.forall₂_map_right_iff, List.forall₂_same]
  intro p _
  rw [Function.comp_apply, shown]
  split <;> rfl

theorem transactions_ids (set : Reapply.Assignments) (s : MemoryStore) :
    (s.showCategories set).transactions.map (·.id) = s.transactions.map (·.id) := by
  rw [transactions, transactions, showCategories_places, List.map_map, List.map_map, List.map_map]
  exact List.map_congr_left fun p _ => shown_id set p

/-- A pass that ends keeps the rules and every id at its position, and the store then shows what the
pass made of its transactions exactly where, of those with an id that was named, the first and the
last have become equal. With different ids that is so: only categories are others than before, and
what is saved are the transactions whose category is, once each and in their order. -/
theorem ended_pass_shows [Pattern.Engine] (hs : s.WellNumbered)
    (h : (s.reapply clocks workers c).changedIds = .ok ids) :
    let after := s.reapply clocks workers c
    let pass := s.pass clocks workers c
    let shown := (s.showCategories pass.set).transactions
    (after.store.rules = s.rules ∧
      after.store.transactions.map (·.id) = s.transactions.map (·.id)) ∧
    (after.store.transactions.map .transaction = pass.subjects s.listing ↔
      ∀ id ∈ ids, (withId id shown).head? = (withId id shown).getLast?) ∧
    ((s.transactions.map (·.id)).Nodup →
      after.store.transactions.map .transaction = pass.subjects s.listing ∧
      List.Forall₂ (fun t u => u = { t with category := u.category }) s.transactions
        after.store.transactions ∧
      after.saved = ((s.transactions.zip after.store.transactions).filter fun p =>
        p.1.category ≠ p.2.category).map (·.2)) := by
  intro after pass shown
  rw [reapply_changedIds] at h
  obtain ⟨hstore, hsaved⟩ := reapply_ended h
  have hsubjects : shown.map .transaction = pass.subjects s.listing :=
    subjects_showCategories pass.set s
  have hids : shown.map (·.id) = s.transactions.map (·.id) := transactions_ids pass.set s
  refine ⟨⟨?_, ?_⟩, ?_, ?_⟩
  · rw [hstore]
    rfl
  · rw [hstore, saveChanged_ids, hids]
  · rw [← hsubjects, ← saveChanged_same_iff, hstore]
    refine List.map_inj_right ?_
    intro t u htu
    exact Subject.transaction.inj htu
  · intro hid
    have hsame : after.store = s.showCategories pass.set := by
      rw [hstore]
      exact saveChanged_nodup (hids ▸ hid) ids
    rw [hsame, hsaved]
    exact ⟨hsubjects, sameButCategory pass.set s, (pass_sets hs hid h).saved_eq hid⟩

def busTicket : Transaction := { Reapply.shopPurchase with id := "2", merchant := "Bus" }

def travelling : MemoryStore :=
  ofLists [Reapply.shopPurchase, busTicket]
    [Rule.ofText "r" "transaction.merchant === \"Bus\" -> \"Travel\""]

open scoped Pattern.Builtin in
theorem ended_pass_shows_bus :
    let after := travelling.reapply (fun _ _ => Clock.unlimited) 1 .empty
    after.changedIds = .ok ["2"] ∧
      after.store.transactions.map (·.category) = [defaultCategory, "Travel"] ∧
      List.Forall₂ (fun t u => u = { t with category := u.category }) travelling.transactions
        after.store.transactions ∧
      after.saved = ((travelling.transactions.zip after.store.transactions).filter fun p =>
        p.1.category ≠ p.2.category).map (·.2) := by
  have hend : (travelling.reapply (fun _ _ => Clock.unlimited) 1 .empty).changedIds =
      .ok ["2"] := by decide +kernel
  have hnumbered : travelling.WellNumbered := wellNumbered_ofLists _ _
  have hids : (travelling.transactions.map (·.id)).Nodup := by decide +kernel
  obtain ⟨-, -, hdistinct⟩ := ended_pass_shows hnumbered hend
  obtain ⟨-, hfields, hsaved⟩ := hdistinct hids
  exact ⟨hend, by decide +kernel, hfields, hsaved⟩

open scoped Pattern.Builtin in
/-- Of two transactions with one id the second is saved over the first. -/
theorem shared_id_loses :
    let rules := [Rule.ofText "r" "transaction.merchant === \"Bus\" -> \"Travel\""]
    let s := ofLists [Reapply.shopPurchase, { busTicket with id := "1" }] rules
    let after := s.reapply (fun _ _ => Clock.unlimited) 1 .empty
    after.changedIds = .ok ["1"] ∧ s.transactions.map (·.merchant) = ["Shop", "Bus"] ∧
      after.store.transactions.map (·.merchant) = ["Bus", "Bus"] ∧
      after.saved.map (·.merchant) = ["Shop", "Bus"] := by
  decide +kernel

/-- The store as it would be with these places only. -/
def only (places : List (Nat × Transaction)) (s : MemoryStore) : MemoryStore := { s with places }

theorem WellNumbered.only (hs : s.WellNumbered) {places : List (Nat × Transaction)}
    (h : places ⊆ s.places) : (s.only places).WellNumbered :=
  ⟨fun p hp q hq => hs.shared p (h hp) q (h hq), fun p hp => hs.fresh p (h hp)⟩

theorem pass_stopped [Pattern.Engine] (h : (s.pass clocks 1 c).changedIds = .error f) :
    ∃ before p later ids, s.places = before ++ p :: later ∧
      ((s.only before).pass clocks 1 c).changedIds = .ok ids ∧
      ((s.only (before ++ [p])).pass clocks 1 c).changedIds = .error f ∧
      (s.pass clocks 1 c).set = ((s.only before).pass clocks 1 c).set := by
  have hwalk := Reapply.reapply_eq_error_iff_walk.mp h
  obtain ⟨places, place, rest, hsplit, ⟨flags, hflags⟩, hdecision⟩ :=
    Reapply.walk_eq_error_iff.mp hwalk
  obtain ⟨before, others, hplaces, rfl, hothers⟩ := List.map_eq_append_iff.mp hsplit
  obtain ⟨p, later, rfl, rfl, rfl⟩ := List.map_eq_cons_iff.mp hothers
  cases hbefore : ((s.only before).pass clocks 1 c).changedIds with
  | error f' =>
    have hstuck := Reapply.reapply_eq_error_iff_walk.mp hbefore
    exact nomatch hstuck.symm.trans hflags
  | ok ids =>
    refine ⟨before, p, later, ids, hplaces, hbefore, ?_, ?_⟩
    · refine Reapply.reapply_eq_error_iff_walk.mpr (Reapply.walk_eq_error_iff.mpr ?_)
      exact ⟨_, _, [], List.map_append, ⟨flags, hflags⟩, hdecision⟩
    · have hset := Reapply.walk_stopped hflags hdecision
        (later.map fun t => (⟨t.1, .transaction t.2⟩ : Place))
      rw [← List.map_cons (f := fun t : Nat × Transaction => (⟨t.1, .transaction t.2⟩ : Place)),
        ← List.map_append, ← hplaces] at hset
      exact hset

/-- A pass that stops saves nothing and keeps the rules, but the store then shows what a pass over
the transactions before the one where it stops would have made of them; only categories are others,
and the store shows what it did exactly where that pass would have named nothing. -/
theorem stopped_pass_shows [Pattern.Engine] (hs : s.WellNumbered)
    (hid : (s.transactions.map (·.id)).Nodup) (h : (s.reapply clocks 1 c).changedIds = .error f) :
    let after := s.reapply clocks 1 c
    ∃ before p later ids, s.places = before ++ p :: later ∧
      let started := (s.only before).reapply clocks 1 c
      started.changedIds = .ok ids ∧
      ((s.only (before ++ [p])).reapply clocks 1 c).changedIds = .error f ∧
      after.store.transactions =
        started.store.transactions ++ p.2 :: later.map (·.2) ∧
      List.Forall₂ (fun t u => u = { t with category := u.category }) s.transactions
        after.store.transactions ∧
      after.store.rules = s.rules ∧ after.saved = [] ∧
      (after.store.transactions = s.transactions ↔ ids = []) := by
  intro after
  rw [reapply_changedIds] at h
  obtain ⟨hstore, hsaved⟩ := reapply_stopped h
  obtain ⟨before, p, later, ids, hplaces, hbefore, hstop, hset⟩ := pass_stopped h
  have hsubset : before ⊆ s.places := hplaces ▸ List.subset_append_left _ _
  have hid' : ((s.only before).transactions.map (·.id)).Nodup := by
    rw [transactions, hplaces, List.map_append, List.map_append] at hid
    exact (List.nodup_append.mp hid).1
  have hsets := pass_sets (hs.only hsubset) hid' hbefore
  obtain ⟨hstarted, -⟩ := reapply_ended hbefore
  rw [saveChanged_nodup (by rw [transactions_ids]; exact hid')] at hstarted
  -- Nothing was set where the pass did not come.
  have hrest : (p :: later).map (shown (s.pass clocks 1 c).set) = p :: later := by
    have hnumbers := hs.numbers_nodup hid
    rw [hplaces, List.map_append, List.nodup_append] at hnumbers
    rw [List.map_congr_left (g := id), List.map_id]
    intro q hq
    have hunset : (s.pass clocks 1 c).set.lookup q.1 = none := by
      rw [hset]
      refine hsets.elsewhere q.1 fun hmember => ?_
      exact hnumbers.2.2 q.1 hmember q.1 (List.mem_map_of_mem hq) rfl
    rw [shown, hunset]
    rfl
  have hafter : after.store.transactions =
      ((s.only before).showCategories (s.pass clocks 1 c).set).transactions ++
        p.2 :: later.map (·.2) := by
    rw [hstore, transactions, showCategories_places, hplaces, List.map_append, hrest,
      List.map_append]
    rfl
  refine ⟨before, p, later, ids, hplaces, ?_, ?_, ?_, ?_, ?_, hsaved, ?_⟩
  · rw [reapply_changedIds, hbefore]
  · rw [reapply_changedIds, hstop]
  · rw [hafter, hstarted, hset]
  · rw [hstore]
    exact sameButCategory _ s
  · rw [hstore]
    rfl
  · have hold : s.transactions = (s.only before).transactions ++ p.2 :: later.map (·.2) := by
      rw [transactions, hplaces, List.map_append]
      rfl
    rw [hafter, hold, List.append_left_inj, hset]
    exact hsets.transactions_same_iff

def stopping : MemoryStore :=
  ofLists [Reapply.shopPurchase, busTicket]
    [Rule.ofText "r1" "transaction.merchant === \"Shop\" -> \"Food\"",
      Rule.ofText "r2" "² -> \"B\""]

open scoped Pattern.Builtin in
theorem stopped_pass_shows_food :
    let after := stopping.reapply (fun _ _ => Clock.unlimited) 1 .empty
    after.changedIds = .error (.breakdown .strayDigit) ∧
      ∃ before p later ids, stopping.places = before ++ p :: later ∧
        let started := (stopping.only before).reapply (fun _ _ => Clock.unlimited) 1 .empty
        started.changedIds = .ok ids ∧
        after.store.transactions = started.store.transactions ++ p.2 :: later.map (·.2) ∧
        after.store.rules = stopping.rules ∧ after.saved = [] := by
  have hstop : (stopping.reapply (fun _ _ => Clock.unlimited) 1 .empty).changedIds =
      .error (.breakdown .strayDigit) := by decide +kernel
  have hnumbered : stopping.WellNumbered := wellNumbered_ofLists _ _
  have hdistinct : (stopping.transactions.map (·.id)).Nodup := by decide +kernel
  obtain ⟨before, p, later, ids, hplaces, hids, -, hshows, -, hrules, hsaved, -⟩ :=
    stopped_pass_shows hnumbered hdistinct hstop
  exact ⟨hstop, before, p, later, ids, hplaces, hids, hshows, hrules, hsaved⟩

open scoped Pattern.Builtin in
/-- The first purchase shows its new category although the pass has no result. -/
theorem stopped_pass_marks :
    let after := stopping.reapply (fun _ _ => Clock.unlimited) 1 .empty
    (stopping.transactions.map (·.id)).Nodup ∧
      after.changedIds = .error (.breakdown .strayDigit) ∧
      stopping.transactions.map (·.category) = [defaultCategory, defaultCategory] ∧
      after.store.transactions.map (·.category) = ["Food", defaultCategory] := by
  decide +kernel

end MemoryStore

end LedgerRules
