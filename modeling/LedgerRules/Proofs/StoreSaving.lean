import Mathlib.Data.List.Nodup
import LedgerRules.Store.Memory

/-! What saving does to a store. Every position keeps its id, but where several transactions have
one id the first of them gives way to what is saved last. Numbers stay with their transactions. -/

namespace LedgerRules.MemoryStore

variable {s : MemoryStore} {p q : Nat × Transaction} {us ps : List (Nat × Transaction)}

theorem mem_place (h : q ∈ place p ps) : q = p ∨ q ∈ ps := by
  induction ps with
  | nil => exact .inl (List.mem_singleton.mp h)
  | cons r rest ih =>
    unfold place at h
    split at h
    · exact (List.mem_cons.mp h).imp_right (List.mem_cons_of_mem r)
    · rcases List.mem_cons.mp h with rfl | h
      · exact .inr List.mem_cons_self
      · exact (ih h).imp_right (List.mem_cons_of_mem r)

theorem place_ids (h : p.2.id ∈ ps.map (·.2.id)) :
    (place p ps).map (·.2.id) = ps.map (·.2.id) := by
  induction ps with
  | nil => exact nomatch h
  | cons r rest ih =>
    unfold place
    split
    next hr => rw [List.map_cons, List.map_cons, hr]
    next hr =>
      rw [List.map_cons, List.map_cons, ih ((List.mem_cons.mp h).resolve_left (Ne.symm hr))]

theorem place_self (hid : (ps.map (·.2.id)).Nodup) (h : p ∈ ps) : place p ps = ps := by
  induction ps with
  | nil => exact nomatch h
  | cons r rest ih =>
    rw [List.map_cons, List.nodup_cons] at hid
    unfold place
    rcases List.mem_cons.mp h with rfl | h
    · rw [if_pos rfl]
    · have hr : r.2.id ≠ p.2.id := fun heq => hid.1 (heq ▸ List.mem_map_of_mem h)
      rw [if_neg hr, ih hid.2 h]

theorem mem_placeAll (h : q ∈ placeAll us ps) : q ∈ us ∨ q ∈ ps := by
  induction us generalizing ps with
  | nil => exact .inr h
  | cons u us ih =>
    rcases ih h with hus | hplace
    · exact .inl (List.mem_cons_of_mem u hus)
    · rcases mem_place hplace with rfl | hps
      · exact .inl List.mem_cons_self
      · exact .inr hps

theorem placeAll_ids (h : ∀ u ∈ us, u.2.id ∈ ps.map (·.2.id)) :
    (placeAll us ps).map (·.2.id) = ps.map (·.2.id) := by
  induction us generalizing ps with
  | nil => rfl
  | cons u us ih =>
    rw [List.forall_mem_cons] at h
    have hu := place_ids h.1
    rw [placeAll, List.foldl_cons, ← placeAll, ih (by rw [hu]; exact h.2), hu]

theorem placeAll_self (hid : (ps.map (·.2.id)).Nodup) (h : us ⊆ ps) : placeAll us ps = ps := by
  induction us with
  | nil => rfl
  | cons u us ih =>
    rw [List.cons_subset] at h
    rw [placeAll, List.foldl_cons, place_self hid h.1]
    exact ih h.2

theorem placeAll_cons (us : List (Nat × Transaction)) (q : Nat × Transaction)
    (ps : List (Nat × Transaction)) :
    placeAll us (q :: ps) =
      (us.filter (·.2.id = q.2.id)).getLast?.getD q ::
        placeAll (us.filter (·.2.id ≠ q.2.id)) ps := by
  induction us generalizing q ps with
  | nil => rfl
  | cons u us ih =>
    rw [placeAll, List.foldl_cons, ← placeAll, place]
    by_cases hu : q.2.id = u.2.id
    · rw [if_pos hu, ih, hu]
      simp [List.getLast?_cons]
    · have hu' : u.2.id ≠ q.2.id := Ne.symm hu
      rw [if_neg hu, ih]
      simp [hu', placeAll]

def withId (id : String) (ts : List Transaction) : List Transaction := ts.filter (·.id = id)

theorem withId_cons_self (t : Transaction) (ts : List Transaction) :
    withId t.id (t :: ts) = t :: withId t.id ts := by
  simp [withId]

theorem withId_cons_other {id : String} {t : Transaction} (h : t.id ≠ id) (ts : List Transaction) :
    withId id (t :: ts) = withId id ts := by
  simp [withId, h]

theorem withId_map (id : String) (us : List (Nat × Transaction)) :
    withId id (us.map (·.2)) = (us.filter (·.2.id = id)).map (·.2) := by
  rw [withId, List.filter_map]
  rfl

def SavesFirst (us ps : List (Nat × Transaction)) (id : String) : Prop :=
  (withId id (us.map (·.2))).getLast? = (withId id (ps.map (·.2))).head?

theorem savesFirst_cons_self (us : List (Nat × Transaction)) (q : Nat × Transaction)
    (ps : List (Nat × Transaction)) :
    SavesFirst us (q :: ps) q.2.id ↔
      (us.filter (·.2.id = q.2.id)).getLast?.map (·.2) = some q.2 := by
  rw [SavesFirst, List.map_cons, withId_cons_self, withId_map, List.getLast?_map]
  rfl

theorem savesFirst_cons_other {id : String} (h : id ≠ q.2.id) :
    SavesFirst us (q :: ps) id ↔ SavesFirst (us.filter (·.2.id ≠ q.2.id)) ps id := by
  have hrest : (us.filter (·.2.id ≠ q.2.id)).filter (·.2.id = id) = us.filter (·.2.id = id) := by
    rw [List.filter_filter]
    refine List.filter_congr fun u _ => ?_
    by_cases hu : u.2.id = id <;> simp [hu, h]
  rw [SavesFirst, SavesFirst, List.map_cons, withId_cons_other (Ne.symm h), withId_map id us,
    withId_map id (us.filter _), hrest]

/-- Saving leaves the transactions as they are exactly where the last one of each id that is saved
equals the first one there was. -/
theorem placeAll_same_iff (h : ∀ u ∈ us, u.2.id ∈ ps.map (·.2.id)) :
    (placeAll us ps).map (·.2) = ps.map (·.2) ↔ ∀ u ∈ us, SavesFirst us ps u.2.id := by
  induction ps generalizing us with
  | nil =>
    cases us with
    | nil => simp [placeAll]
    | cons u us => exact nomatch h u List.mem_cons_self
  | cons q ps ih =>
    have hrest : ∀ u ∈ us.filter (·.2.id ≠ q.2.id), u.2.id ∈ ps.map (·.2.id) := by
      intro u hu
      obtain ⟨hu, hne⟩ := List.mem_filter.mp hu
      exact (List.mem_cons.mp (h u hu)).resolve_left (of_decide_eq_true hne)
    have hfirst : ((us.filter (·.2.id = q.2.id)).getLast?.getD q).2 = q.2 ↔
        ∀ u ∈ us, u.2.id = q.2.id → SavesFirst us (q :: ps) u.2.id := by
      cases hlast : (us.filter (·.2.id = q.2.id)).getLast? with
      | none =>
        have hnone : ∀ u ∈ us, u.2.id ≠ q.2.id := by simpa using List.getLast?_eq_none_iff.mp hlast
        exact iff_of_true rfl fun u hu heq => absurd heq (hnone u hu)
      | some last =>
        obtain ⟨hmember, hid⟩ := List.mem_filter.mp (List.mem_of_getLast? hlast)
        have hself : SavesFirst us (q :: ps) q.2.id ↔ last.2 = q.2 := by
          rw [savesFirst_cons_self, hlast]
          simp
        constructor
        · intro heq u _ hu
          rw [hu]
          exact hself.mpr heq
        · intro hall
          have hlastFirst := hall last hmember (of_decide_eq_true hid)
          rw [of_decide_eq_true hid] at hlastFirst
          exact hself.mp hlastFirst
    rw [placeAll_cons, List.map_cons, List.map_cons, List.cons.injEq, ih hrest, hfirst]
    constructor
    · rintro ⟨hsame, hothers⟩ u hu
      by_cases hq : u.2.id = q.2.id
      · exact hsame u hu hq
      · refine (savesFirst_cons_other hq).mpr (hothers u (List.mem_filter.mpr ⟨hu, ?_⟩))
        exact decide_eq_true hq
    · intro hall
      refine ⟨fun u hu _ => hall u hu, fun u hu => ?_⟩
      obtain ⟨hu, hq⟩ := List.mem_filter.mp hu
      exact (savesFirst_cons_other (of_decide_eq_true hq)).mp (hall u hu)

theorem toSave_listed {ids : List String} {u : Nat × Transaction} (h : u ∈ s.toSave ids) :
    u.2.id ∈ s.places.map (·.2.id) :=
  List.mem_map_of_mem (f := (·.2.id)) (List.mem_of_mem_filter h)

theorem saveChanged_ids (s : MemoryStore) (ids : List String) :
    (s.saveChanged ids).transactions.map (·.id) = s.transactions.map (·.id) := by
  rw [transactions, transactions, List.map_map, List.map_map]
  exact placeAll_ids fun _ => toSave_listed

theorem saveChanged_nodup (hid : (s.transactions.map (·.id)).Nodup) (ids : List String) :
    s.saveChanged ids = s := by
  rw [transactions, List.map_map] at hid
  have hall : placeAll (s.toSave ids) s.places = s.places :=
    placeAll_self hid (List.filter_subset_self _)
  rw [saveChanged, hall]

theorem savesFirst_toSave {id : String} {ids : List String} (h : id ∈ ids) (s : MemoryStore) :
    SavesFirst (s.toSave ids) s.places id ↔
      (withId id s.transactions).head? = (withId id s.transactions).getLast? := by
  have hsaved : (s.toSave ids).filter (·.2.id = id) = s.places.filter (·.2.id = id) := by
    rw [toSave, List.filter_filter]
    refine List.filter_congr fun u _ => ?_
    by_cases hu : u.2.id = id <;> simp [hu, h]
  rw [SavesFirst, withId_map, hsaved, ← withId_map, eq_comm]
  rfl

theorem saveChanged_same_iff {ids : List String} (s : MemoryStore) :
    (s.saveChanged ids).transactions = s.transactions ↔
      ∀ id ∈ ids, (withId id s.transactions).head? = (withId id s.transactions).getLast? := by
  have hsame : (s.saveChanged ids).transactions = s.transactions ↔
      ∀ u ∈ s.toSave ids, SavesFirst (s.toSave ids) s.places u.2.id :=
    placeAll_same_iff fun _ => toSave_listed
  rw [hsame]
  constructor
  · intro hall id hid
    cases hwith : withId id s.transactions with
    | nil => rfl
    | cons t ts =>
      have ht : t ∈ withId id s.transactions := hwith ▸ List.mem_cons_self
      obtain ⟨hmember, hname⟩ := List.mem_filter.mp ht
      obtain ⟨u, hu, rfl⟩ := List.mem_map.mp hmember
      obtain rfl : u.2.id = id := of_decide_eq_true hname
      rw [← hwith]
      refine (savesFirst_toSave hid s).mp (hall u (List.mem_filter.mpr ⟨hu, ?_⟩))
      exact List.contains_iff_mem.mpr hid
  · intro hall u hu
    have hid : u.2.id ∈ ids := by simpa using (List.mem_filter.mp hu).2
    exact (savesFirst_toSave hid s).mpr (hall u.2.id hid)

/-- Places with one number show one transaction, and the next number is a new one. -/
structure WellNumbered (s : MemoryStore) : Prop where
  shared : ∀ p ∈ s.places, ∀ q ∈ s.places, p.1 = q.1 → p.2 = q.2
  fresh : ∀ p ∈ s.places, p.1 < s.numbered

theorem wellNumbered_ofLists (ts : List Transaction) (rules : List Rule) :
    (ofLists ts rules).WellNumbered := by
  constructor
  · intro p hp q hq heq
    obtain ⟨a, ha, rfl⟩ := List.mem_map.mp hp
    obtain ⟨b, hb, rfl⟩ := List.mem_map.mp hq
    have hat := List.mem_zipIdx_iff_getElem?.mp ha
    have hbt := List.mem_zipIdx_iff_getElem?.mp hb
    dsimp only at heq ⊢
    rw [heq, hbt] at hat
    exact (Option.some.inj hat).symm
  · intro p hp
    obtain ⟨a, ha, rfl⟩ := List.mem_map.mp hp
    exact (List.getElem?_eq_some_iff.mp (List.mem_zipIdx_iff_getElem?.mp ha)).1

theorem WellNumbered.save (h : s.WellNumbered) (t : Transaction) : (s.save t).WellNumbered := by
  -- The number of what is saved is no other's.
  have hcases : ∀ p ∈ (s.save t).places, p = (s.numbered, t) ∨ p ∈ s.places := fun p => mem_place
  constructor
  · intro p hp q hq heq
    rcases hcases p hp with rfl | hp <;> rcases hcases q hq with rfl | hq
    · rfl
    · exact absurd heq.symm (Nat.ne_of_lt (h.fresh q hq))
    · exact absurd heq (Nat.ne_of_lt (h.fresh p hp))
    · exact h.shared p hp q hq heq
  · intro p hp
    rcases hcases p hp with rfl | hp
    · exact Nat.lt_succ_self _
    · exact Nat.lt_succ_of_lt (h.fresh p hp)

theorem WellNumbered.addRule (h : s.WellNumbered) (r : Rule) : (s.addRule r).WellNumbered :=
  ⟨h.shared, h.fresh⟩

def shown (set : Reapply.Assignments) (p : Nat × Transaction) : Nat × Transaction :=
  match set.lookup p.1 with
  | some category => (p.1, { p.2 with category })
  | none => p

theorem shown_number (set : Reapply.Assignments) (p : Nat × Transaction) :
    (shown set p).1 = p.1 := by
  unfold shown
  split <;> rfl

theorem shown_id (set : Reapply.Assignments) (p : Nat × Transaction) :
    (shown set p).2.id = p.2.id := by
  unfold shown
  split <;> rfl

theorem showCategories_places (set : Reapply.Assignments) (s : MemoryStore) :
    (s.showCategories set).places = s.places.map (shown set) := rfl

theorem WellNumbered.showCategories (h : s.WellNumbered) (set : Reapply.Assignments) :
    (s.showCategories set).WellNumbered := by
  constructor
  · intro p' hp' q' hq' heq
    obtain ⟨p, hp, rfl⟩ := List.mem_map.mp hp'
    obtain ⟨q, hq, rfl⟩ := List.mem_map.mp hq'
    have hnumber : (shown set p).1 = (shown set q).1 := heq
    rw [shown_number, shown_number] at hnumber
    obtain rfl : p = q := Prod.ext hnumber (h.shared p hp q hq hnumber)
    rfl
  · intro p' hp'
    obtain ⟨p, hp, rfl⟩ := List.mem_map.mp hp'
    exact (shown_number set p).symm ▸ h.fresh p hp

theorem WellNumbered.saveChanged (h : s.WellNumbered) (ids : List String) :
    (s.saveChanged ids).WellNumbered := by
  have hold : ∀ p ∈ (s.saveChanged ids).places, p ∈ s.places := by
    intro p hp
    exact (mem_placeAll hp).elim List.mem_of_mem_filter id
  exact ⟨fun p hp q hq => h.shared p (hold p hp) q (hold q hq), fun p hp => h.fresh p (hold p hp)⟩

theorem WellNumbered.reapply [Pattern.Engine] (h : s.WellNumbered) (clocks : Nat → Nat → Clock)
    (workers : Int) (c : Cache) : (s.reapply clocks workers c).store.WellNumbered := by
  unfold MemoryStore.reapply
  dsimp only
  split
  · exact h.showCategories _
  · exact (h.showCategories _).saveChanged _

theorem WellNumbered.numbers_nodup (h : s.WellNumbered)
    (hid : (s.transactions.map (·.id)).Nodup) : (s.places.map (·.1)).Nodup := by
  rw [transactions, List.map_map, List.nodup_iff_pairwise_ne, List.pairwise_map] at hid
  rw [List.nodup_iff_pairwise_ne, List.pairwise_map]
  refine hid.imp_of_mem fun {p q} hp hq hne heq => hne ?_
  exact congrArg Transaction.id (h.shared p hp q hq heq)

end LedgerRules.MemoryStore
