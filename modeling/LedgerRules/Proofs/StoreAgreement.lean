import LedgerRules.Pattern.Builtin
import LedgerRules.Proofs.AmountDigits
import LedgerRules.Proofs.DatabaseHistory
import LedgerRules.Proofs.StorePasses
import LedgerRules.Store.Step

/-! The two stores taken through the same steps. The rows of the tables are those that the listed
transactions and rules in memory make, and what is read back from a row is the same for every rule;
so a pass names the same ids on both and leaves them alike. -/

namespace LedgerRules
open Cache (Sound RuleOver)
open Numeric

namespace Rule

theorem stored_definition (r : Rule) : r.stored.definition = r.definition := by
  unfold stored
  split <;> rfl

theorem stored_target (r : Rule) : r.stored.targetCategory = r.targetCategory := by
  unfold stored
  split
  next s hd => rw [targetCategory, targetCategory, hd]
  next => rfl

theorem stored_usable (r : Rule) : r.stored.usable? = r.usable? := by
  rw [usable?, usable?, r.stored_target, r.stored_definition]

end Rule

namespace Transaction

def ReadsBack (t : Transaction) : Prop :=
  ∃ a, Database.readAmount (Database.keptAmount t.amount) = .ok a ∧ t.amount.Same a

def asRead (t : Transaction) : Transaction :=
  match Database.readAmount (Database.keptAmount t.amount) with
  | .ok amount => { t with amount }
  | .error _ => t

variable {t : Transaction}

theorem asRead_id (t : Transaction) : t.asRead.id = t.id := by
  unfold asRead
  split <;> rfl

theorem ReadsBack.read (h : t.ReadsBack) (hdate : t.date.offset = some 0) :
    Database.TransactionRow.read (Database.TransactionRow.ofTransaction t) = .ok t.asRead := by
  obtain ⟨a, ha, -⟩ := h
  simp [Database.TransactionRow.read, Database.TransactionRow.ofTransaction, asRead, ha,
    Database.readDate_keptDate hdate]

theorem ReadsBack.like (h : t.ReadsBack) : t.Like t.asRead := by
  obtain ⟨a, ha, hsame⟩ := h
  have hread : t.asRead = { t with amount := a } := by rw [asRead, ha]
  rw [hread]
  exact ⟨rfl, hsame⟩

end Transaction

section
variable [Pattern.Engine]

namespace Reapply
variable {rules : List Rule} {c : Cache} {ids : List String}

def moved (rules : List Rule) (t : Transaction) : Option String :=
  (firstCategory (rules.map .rule) (.transaction t)).filter (· ≠ t.category)

theorem newCategory_first (rules : List Rule) (t : Transaction) :
    newCategory (.transaction t) (firstCategory (rules.map .rule) (.transaction t)) =
      .ok (moved rules t) := by
  unfold moved
  cases firstCategory (rules.map .rule) (.transaction t) with
  | none => rfl
  | some g =>
    rw [newCategory_transaction]
    by_cases hsame : t.category = g
    · simp [Option.filter, hsame]
    · simp [Option.filter, hsame, Ne.symm hsame]

theorem moved_stored {t u : Transaction} (h : t.Like u) (rules : List Rule) :
    moved (rules.map Rule.stored) u = moved rules t := by
  have husable : usable ((rules.map Rule.stored).map .rule) = usable (rules.map .rule) := by
    rw [usable, usable, List.map_map, List.filterMap_map, List.filterMap_map]
    exact List.filterMap_congr fun r _ => r.stored_usable
  have hcategory : u.category = t.category := by rw [h.same]
  rw [moved, moved, hcategory, h.firstCategory, firstCategory, husable]
  rfl

theorem pass_moves {ps : List (Nat × Transaction)} {workers : Int} (hc : Sound Value.Plain c)
    (hr : ∀ r ∈ rules, RuleOver Value.Plain r) (hn : (ps.map (·.1)).Nodup) :
    let pass := reapply (fun _ _ => Clock.unlimited) (fun _ => "") (transactionPlaces ps)
      (rules.map .rule) workers c
    pass.changedIds = .ok ids →
      (∀ p ∈ ps, pass.set.lookup p.1 = moved rules p.2) ∧
        ids = (ps.filter fun p => (moved rules p.2).isSome).map (·.2.id) := by
  intro pass h
  have hplain : TreesOver Value.Plain (rules.map .rule) := by
    intro input hinput members hbody
    obtain ⟨r, hrule, rfl⟩ := List.mem_map.mp hinput
    exact hr r hrule members (Option.some.inj hbody)
  have hnumbers : ((transactionPlaces ps).map Place.number).Nodup := by
    rwa [transactionPlaces, List.map_map]
  cases hw : (walk (fun _ _ => Clock.unlimited) (prepare (fun _ => "") (rules.map .rule)).rules
      (transactionPlaces ps) [] c).changed with
  | error failure => simp [pass, reapply, hw, Except.bind] at h
  | ok flags =>
    have hids : changedIds (transactionPlaces ps) flags = .ok ids := by
      simpa [pass, reapply, hw, Except.bind] using h
    have hwalked := walk_walked hc Cache.keysAgree_plain (prepare_over hplain _) hnumbers
      (fun _ _ => rfl) hw
    have hset : ∀ p ∈ ps, pass.set.lookup p.1 = moved rules p.2 := by
      intro p hp
      have hhere := hwalked.here ⟨p.1, .transaction p.2⟩ (List.mem_map_of_mem hp)
      rw [firstAnswer_eq, newCategory_first] at hhere
      exact (Except.ok.inj hhere).symm
    refine ⟨hset, ?_⟩
    rw [hwalked.flags] at hids
    have hnamed := changedIds_flags hids
    rw [transactionPlaces, List.filter_map, List.map_map] at hnamed
    refine List.map_injective_iff.mpr (fun _ _ => Option.some.inj) ?_
    rw [hnamed, List.map_map]
    have hsame : (ps.filter ((fun p : Place => (pass.set.lookup p.number).isSome) ∘
        fun t => ⟨t.1, .transaction t.2⟩)) = ps.filter fun p => (moved rules p.2).isSome :=
      List.filter_congr fun p hp => congrArg Option.isSome (hset p hp)
    exact congrArg _ hsame

end Reapply

end

namespace Database
variable {db db' : Database} {ts : List Transaction}

def recolor (f : Transaction → Option String) (t : Transaction) : Transaction :=
  { t with category := (f t).getD t.category }

theorem find?_saved {F : Transaction → Option Transaction} {u : Transaction}
    (hF : ∀ u v, F u = some v → v.id = u.id) (hn : (ts.map (·.id)).Nodup) (hu : u ∈ ts) :
    (ts.filterMap F).find? (·.id = u.id) = F u := by
  induction ts with
  | nil => exact nomatch hu
  | cons t ts ih =>
    rw [List.map_cons, List.nodup_cons] at hn
    rcases List.mem_cons.mp hu with rfl | hu
    · cases hv : F u with
      | some v => simp [hv, hF u v hv]
      | none =>
        rw [List.filterMap_cons_none hv, List.find?_eq_none]
        intro v hv' hid
        obtain ⟨t, ht, hv'⟩ := List.mem_filterMap.mp hv'
        have hsame : t.id = u.id := (hF t v hv').symm.trans (of_decide_eq_true hid)
        exact hn.1 (hsame ▸ List.mem_map_of_mem ht)
    · have hne : t.id ≠ u.id := fun heq => hn.1 (heq ▸ List.mem_map_of_mem hu)
      rw [← ih hn.2 hu]
      cases hv : F t with
      | none => rw [List.filterMap_cons_none hv]
      | some v =>
        rw [List.filterMap_cons_some hv, List.find?_cons_of_neg]
        simpa [hF t v hv] using hne

theorem saved_ids {F : Transaction → Option Transaction}
    (hF : ∀ u v, F u = some v → v.id = u.id) (ts : List Transaction) :
    ((ts.filterMap F).map (·.id)).Sublist (ts.map (·.id)) := by
  induction ts with
  | nil => exact .slnil
  | cons t ts ih =>
    cases hv : F t with
    | none =>
      rw [List.filterMap_cons_none hv]
      exact ih.cons _
    | some v =>
      rw [List.filterMap_cons_some hv, List.map_cons, List.map_cons, hF t v hv]
      exact ih.cons_cons _

theorem saveAll_known {us : List Transaction} (hn : (us.map (·.id)).Nodup)
    (hknown : ∀ u ∈ us, u.id ∈ db.transactions.map (·.id)) :
    (saveAll us db).1.transactions = db.transactions.map fun row =>
      { row with category := ((us.find? (·.id = row.id)).map (·.category)).getD row.category } := by
  induction us generalizing db with
  | nil => simp [saveAll]
  | cons u us ih =>
    rw [List.map_cons, List.nodup_cons] at hn
    obtain ⟨hu, hknown⟩ := List.forall_mem_cons.mp hknown
    rw [saveAll_cons, ih hn.2 (fun v hv => by rw [save_known_ids hu]; exact hknown v hv),
      save_known hu, List.map_map]
    refine List.map_congr_left fun row _ => ?_
    dsimp only [Function.comp_apply]
    by_cases hid : row.id = u.id
    · have hnone : us.find? (·.id = u.id) = none := by
        refine List.find?_eq_none.mpr fun v hv heq => hn.1 ?_
        exact of_decide_eq_true heq ▸ List.mem_map_of_mem hv
      simp [hid, hnone]
    · simp [hid, Ne.symm hid]

theorem reapply_moves [Pattern.Engine] {rs : List Rule} {c : Cache} {ids : List String}
    {workers : Int} (hts : db.listTransactions = .ok ts) (hrs : db.listRules = .ok rs)
    (hn : (ts.map (·.id)).Nodup) (hc : Sound Value.Plain c)
    (hr : ∀ r ∈ rs, RuleOver Value.Plain r) :
    let applied := db.reapply (fun _ _ => Clock.unlimited) workers c
    applied.changedIds = .ok ids →
      ids = (ts.filter fun u => (Reapply.moved rs u).isSome).map (·.id) ∧
        applied.database = (saveAll (ts.filterMap fun u =>
          (Reapply.moved rs u).map fun g => { u with category := g }) db).1 := by
  intro applied h
  let ps : List (Nat × Transaction) := ts.zipIdx.map fun p => (p.2, p.1)
  have hps : places (ts.map .transaction) = Reapply.transactionPlaces ps := by
    rw [places, List.zipIdx_map, List.map_map, Reapply.transactionPlaces, List.map_map]
    rfl
  have hsecond : ps.map (·.2) = ts := by
    rw [List.map_map]
    exact List.zipIdx_map_fst 0 ts
  have hnumbers : (ps.map (·.1)).Nodup := by
    have hrange : ps.map (·.1) = List.range' 0 ts.length := by
      rw [List.map_map]
      exact List.zipIdx_map_snd 0 ts
    rw [hrange]
    exact List.nodup_range'
  let pass := LedgerRules.reapply (fun _ _ => Clock.unlimited) (fun _ => "")
    (Reapply.transactionPlaces ps) (rs.map .rule) workers c
  cases hpass : pass.changedIds with
  | error failure => simp [applied, reapply, hts, hrs, hps, pass, hpass] at h
  | ok named =>
    have hends : applied.changedIds = .ok named ∧
        applied.database = (saveAll (toSave named pass.set ts) db).1 := by
      simp [applied, reapply, hts, hrs, hps, pass, hpass]
    obtain rfl := Except.ok.inj (hends.1.symm.trans h)
    obtain ⟨hset, hnamed⟩ := Reapply.pass_moves hc hr hnumbers hpass
    have hids : named = (ts.filter fun u => (Reapply.moved rs u).isSome).map (·.id) := by
      conv_rhs => rw [← hsecond, List.filter_map, List.map_map]
      exact hnamed
    refine ⟨hids, ?_⟩
    -- What is named is what moves, as no two transactions have one id.
    have hsaved : toSave named pass.set ts = ts.filterMap fun u =>
        (Reapply.moved rs u).map fun g => { u with category := g } := by
      conv_rhs => rw [← List.zipIdx_map_fst 0 ts, List.filterMap_map]
      refine List.filterMap_congr fun q hq => ?_
      obtain ⟨u, n⟩ := q
      have hu : u ∈ ts := List.fst_mem_of_mem_zipIdx hq
      have hmoved : pass.set.lookup n = Reapply.moved rs u :=
        hset (n, u) (List.mem_map.mpr ⟨(u, n), hq, rfl⟩)
      have hcontains : named.contains u.id = (Reapply.moved rs u).isSome := by
        rw [Bool.eq_iff_iff, List.contains_iff_mem, hids, List.mem_map]
        constructor
        · rintro ⟨v, hv, heq⟩
          obtain ⟨hv, hsome⟩ := List.mem_filter.mp hv
          obtain rfl := List.inj_on_of_nodup_map hn hv hu heq
          exact hsome
        · intro hsome
          exact ⟨u, List.mem_filter.mpr ⟨hu, hsome⟩, rfl⟩
      dsimp only [Function.comp_apply]
      rw [hcontains, hmoved]
      cases Reapply.moved rs u <;> rfl
    rw [hends.2, hsaved]

end Database

namespace MemoryStore
variable {s s' : MemoryStore} {t : Transaction} {category : String}

theorem reapply_moves [Pattern.Engine] {c : Cache} {ids : List String} {workers : Int}
    (hs : s.WellNumbered) (hn : (s.transactions.map (·.id)).Nodup) (hc : Sound Value.Plain c)
    (hr : ∀ r ∈ s.rules, RuleOver Value.Plain r)
    (h : (s.reapply (fun _ _ => Clock.unlimited) workers c).changedIds = .ok ids) :
    let after := (s.reapply (fun _ _ => Clock.unlimited) workers c).store
    ids = (s.transactions.filter fun u => (Reapply.moved s.rules u).isSome).map (·.id) ∧
      after.transactions = s.transactions.map (Database.recolor (Reapply.moved s.rules)) ∧
      after.rules = s.rules := by
  intro after
  rw [reapply_changedIds] at h
  obtain ⟨hset, hnamed⟩ := Reapply.pass_moves hc hr (hs.numbers_nodup hn) h
  have hstore : after = _ := (reapply_ended h).1
  rw [saveChanged_nodup (by rw [transactions_ids]; exact hn)] at hstore
  refine ⟨?_, ?_, by rw [hstore]; rfl⟩
  · rw [hnamed, transactions, List.filter_map, List.map_map]
    rfl
  · rw [hstore, transactions, showCategories_places, transactions, List.map_map, List.map_map]
    refine List.map_congr_left fun p hp => ?_
    have hmoved : (s.pass (fun _ _ => Clock.unlimited) workers c).set.lookup p.1 =
        Reapply.moved s.rules p.2 := hset p hp
    rw [Function.comp_apply, Function.comp_apply, shown, hmoved, Database.recolor]
    cases Reapply.moved s.rules p.2 <;> rfl

def setCategory (id category : String) (t : Transaction) : Transaction :=
  if t.id = id then { t with category } else t

theorem setCategory_id (id category : String) (t : Transaction) :
    (setCategory id category t).id = t.id := by
  unfold setCategory
  split <;> rfl

theorem transactions_place {ps : List (Nat × Transaction)} {q p : Nat × Transaction}
    (hn : (ps.map (·.2.id)).Nodup) (hp : p ∈ ps) (hq : q.2 = { p.2 with category }) :
    (place q ps).map (·.2) = (ps.map (·.2)).map (setCategory p.2.id category) := by
  have hid : q.2.id = p.2.id := by rw [hq]
  induction ps with
  | nil => exact nomatch hp
  | cons r rest ih =>
    rw [List.map_cons, List.nodup_cons] at hn
    unfold place
    rw [hid, List.map_cons, List.map_cons]
    rcases List.mem_cons.mp hp with rfl | hp
    · have hrest : (rest.map (·.2)).map (setCategory p.2.id category) = rest.map (·.2) := by
        rw [List.map_map]
        refine List.map_congr_left fun u hu => ?_
        have hne : u.2.id ≠ p.2.id := fun heq => hn.1 (heq ▸ List.mem_map_of_mem hu)
        rw [Function.comp_apply, setCategory, if_neg hne]
      rw [if_pos rfl, List.map_cons, hrest, hq, setCategory, if_pos rfl]
    · have hne : r.2.id ≠ p.2.id := fun heq => hn.1 (heq ▸ List.mem_map_of_mem hp)
      rw [if_neg hne, List.map_cons, ih hn.2 hp, setCategory, if_neg hne]

theorem transactions_recategorize {p : Nat × Transaction} (hs : s.WellNumbered)
    (hn : (s.transactions.map (·.id)).Nodup) (hp : p ∈ s.places) (copied : Bool)
    (category : String) :
    (s.recategorize copied p category).transactions =
      s.transactions.map (setCategory p.2.id category) := by
  have hids : (s.places.map (·.2.id)).Nodup := by rwa [transactions, List.map_map] at hn
  cases copied with
  | true => exact transactions_place hids hp rfl
  | false =>
    have hshown : (s.showCategories [(p.1, category)]).places =
        s.places.map fun q => (q.1, setCategory p.2.id category q.2) := by
      rw [showCategories_places]
      refine List.map_congr_left fun q hq => ?_
      by_cases hnumber : q.1 = p.1
      · have hsame := hs.shared q hq p hp hnumber
        simp [shown, setCategory, hnumber, hsame]
      · have hne : q.2.id ≠ p.2.id := by
          intro heq
          exact hnumber (congrArg Prod.fst (List.inj_on_of_nodup_map hids hq hp heq))
        simp [shown, setCategory, hne, List.lookup_cons, beq_eq_false_iff_ne.mpr hnumber]
    have hkept : place (p.1, { p.2 with category }) (s.showCategories [(p.1, category)]).places =
        (s.showCategories [(p.1, category)]).places := by
      rw [hshown]
      refine place_self ?_ (List.mem_map.mpr ⟨p, hp, by simp [setCategory]⟩)
      rw [List.map_map]
      simpa [Function.comp_def, setCategory_id] using hids
    have hstore : (s.recategorize false p category).places =
        (s.showCategories [(p.1, category)]).places := hkept
    rw [transactions, hstore, hshown, transactions, List.map_map, List.map_map]
    rfl

theorem WellNumbered.recategorize {p : Nat × Transaction} (hs : s.WellNumbered) (hp : p ∈ s.places)
    (copied : Bool) (category : String) : (s.recategorize copied p category).WellNumbered := by
  cases copied with
  | true => exact hs.save _
  | false =>
    have hshown := hs.showCategories [(p.1, category)]
    have hmember : (p.1, { p.2 with category }) ∈ (s.showCategories [(p.1, category)]).places :=
      List.mem_map.mpr ⟨p, hp, by simp⟩
    have hold : ∀ q ∈ (s.recategorize false p category).places,
        q ∈ (s.showCategories [(p.1, category)]).places := by
      intro q hq
      rcases mem_place hq with rfl | hq
      · exact hmember
      · exact hq
    exact ⟨fun a ha b hb => hshown.shared a (hold a ha) b (hold b hb),
      fun a ha => hshown.fresh a (hold a ha)⟩

end MemoryStore

/-- A step that the stores are to take alike: what is saved is valid, is new and has an amount that
is read back, trees are JSON, and the caches were used for such only. -/
def StoreStep.Fits [Pattern.Engine] (s : MemoryStore) : StoreStep → Prop
  | .save t => t.Valid ∧ t.ReadsBack ∧ t.id ∉ s.transactions.map (·.id)
  | .recategorize .. => True
  | .addRule r => RuleOver Value.Plain r
  | .reapply _ here there => Sound Value.Plain here ∧ Sound Value.Plain there

def StoreStep.AllFit [Pattern.Engine] : List StoreStep → MemoryStore → Prop
  | [], _ => True
  | step :: rest, s => Fits s step ∧ ∀ ids s', s.take step = .ok (ids, s') → AllFit rest s'

structure Agree (s : MemoryStore) (db : Database) : Prop where
  numbered : s.WellNumbered
  ids : (s.transactions.map (·.id)).Nodup
  transactions : db.transactions = s.transactions.map Database.TransactionRow.ofTransaction
  amounts : ∀ t ∈ s.transactions, t.ReadsBack
  dates : ∀ t ∈ s.transactions, t.date.offset = some 0
  rules : db.rules = s.rules.map Database.RuleRow.keeping
  plain : ∀ r ∈ s.rules, RuleOver Value.Plain r

namespace Agree
variable {s s' : MemoryStore} {db db' : Database} {t : Transaction} {r : Rule}

theorem empty : Agree .empty .empty :=
  ⟨MemoryStore.wellNumbered_ofLists [] [], .nil, rfl, by simp [MemoryStore.transactions,
    MemoryStore.empty, MemoryStore.ofLists], by simp [MemoryStore.transactions,
    MemoryStore.empty, MemoryStore.ofLists], rfl, by simp [MemoryStore.empty, MemoryStore.ofLists]⟩

theorem rowIds (h : Agree s db) : db.transactions.map (·.id) = s.transactions.map (·.id) := by
  rw [h.transactions, List.map_map]
  rfl

theorem listTransactions (h : Agree s db) :
    db.listTransactions = .ok (s.transactions.map Transaction.asRead) := by
  have hamounts := h.amounts
  have hdates := h.dates
  rw [Database.listTransactions, h.transactions]
  generalize s.transactions = ts at hamounts hdates
  induction ts with
  | nil => rfl
  | cons t ts ih =>
    obtain ⟨ht, hrest⟩ := List.forall_mem_cons.mp hamounts
    obtain ⟨hdate, hdates⟩ := List.forall_mem_cons.mp hdates
    rw [List.map_cons, List.mapM_cons, ht.read hdate, ih hrest hdates]
    rfl

theorem listRules (h : Agree s db) : db.listRules = .ok (s.rules.map Rule.stored) :=
  Database.listRules_keeping h.rules

theorem save (h : Agree s db) (hvalid : t.Valid) (ht : t.ReadsBack)
    (hnew : t.id ∉ s.transactions.map (·.id)) : Agree (s.save t) (db.save t).1 := by
  have hmemory : (s.save t).transactions = s.transactions ++ [t] :=
    MemoryStore.transactions_save_new fun u hu heq => hnew (heq ▸ List.mem_map_of_mem hu)
  refine ⟨h.numbered.save t, ?_, ?_, ?_, ?_, ?_, h.plain⟩
  · rw [hmemory, List.map_append, List.map_singleton, ← List.concat_eq_append]
    exact h.ids.concat hnew
  · rw [Database.save_new (by rw [h.rowIds]; exact hnew), hmemory, h.transactions, List.map_append]
    rfl
  · rw [hmemory]
    intro u hu
    rcases List.mem_append.mp hu with hu | hu
    · exact h.amounts u hu
    · exact List.mem_singleton.mp hu ▸ ht
  · rw [hmemory]
    exact List.forall_mem_append.mpr ⟨h.dates, by simpa using hvalid.date⟩
  · rw [Database.save_rules]
    exact h.rules

theorem recolored (h : Agree s db) {f : Transaction → String} (hs : s'.WellNumbered)
    (htransactions : s'.transactions = s.transactions.map fun t => { t with category := f t })
    (hrules : s'.rules = s.rules)
    (hrows : db'.transactions = s'.transactions.map Database.TransactionRow.ofTransaction)
    (hrules' : db'.rules = db.rules) : Agree s' db' := by
  refine ⟨hs, ?_, hrows, ?_, ?_, ?_, ?_⟩
  · rw [htransactions, List.map_map]
    exact h.ids
  · rw [htransactions]
    intro u hu
    obtain ⟨t, ht, rfl⟩ := List.mem_map.mp hu
    exact h.amounts t ht
  · rw [htransactions]
    intro u hu
    obtain ⟨t, ht, rfl⟩ := List.mem_map.mp hu
    exact h.dates t ht
  · rw [hrules', hrules, h.rules]
  · rw [hrules]
    exact h.plain

theorem recategorize (h : Agree s db) {p : Nat × Transaction} (hp : p ∈ s.places)
    (copied : Bool) (category : String) {u : Transaction} (hu : u.id = p.2.id) :
    Agree (s.recategorize copied p category) (db.save { u with category }).1 := by
  have hmemory := MemoryStore.transactions_recategorize h.numbered h.ids hp copied category
  have hknown : ({ u with category } : Transaction).id ∈ db.transactions.map (·.id) := by
    rw [h.rowIds]
    exact hu ▸ List.mem_map_of_mem (List.mem_map_of_mem hp)
  refine h.recolored (f := fun t => if t.id = p.2.id then category else t.category)
    (h.numbered.recategorize hp copied category) ?_ ?_ ?_ (Database.save_rules _ db)
  · rw [hmemory]
    refine List.map_congr_left fun t _ => ?_
    unfold MemoryStore.setCategory
    split <;> rfl
  · cases copied <;> rfl
  · rw [hmemory, Database.save_known hknown, h.transactions, List.map_map, List.map_map]
    refine List.map_congr_left fun t _ => ?_
    by_cases hid : t.id = p.2.id <;>
      simp [Database.TransactionRow.ofTransaction, MemoryStore.setCategory, hu, hid]

theorem addRule (h : Agree s db) (hr : RuleOver Value.Plain r) (hdb : db.addRule r = .ok db') :
    Agree (s.addRule r) db' := by
  obtain ⟨rfl, -⟩ := Database.addRule_eq hdb
  refine ⟨h.numbered.addRule r, h.ids, h.transactions, h.amounts, h.dates, ?_, ?_⟩
  · rw [MemoryStore.addRule, List.map_append, ← h.rules]
    rfl
  · intro q hq
    rcases List.mem_append.mp hq with hq | hq
    · exact h.plain q hq
    · exact List.mem_singleton.mp hq ▸ hr

section
variable [Pattern.Engine]

theorem reapply (h : Agree s db) {workers : Int} {here there : Cache} {ids ids' : List String}
    (hhere : Sound Value.Plain here) (hthere : Sound Value.Plain there)
    (hs : (s.reapply (fun _ _ => Clock.unlimited) workers here).changedIds = .ok ids)
    (hdb : (db.reapply (fun _ _ => Clock.unlimited) workers there).changedIds = .ok ids') :
    ids = ids' ∧ Agree (s.reapply (fun _ _ => Clock.unlimited) workers here).store
      (db.reapply (fun _ _ => Clock.unlimited) workers there).database := by
  have hstored : ∀ r ∈ s.rules.map Rule.stored, RuleOver Value.Plain r := by
    intro r hr members hd
    obtain ⟨q, hq, rfl⟩ := List.mem_map.mp hr
    exact h.plain q hq members (q.stored_definition ▸ hd)
  have hids : (s.transactions.map Transaction.asRead).map (·.id) = s.transactions.map (·.id) := by
    rw [List.map_map]
    exact List.map_congr_left fun t _ => t.asRead_id
  have hmoved : ∀ t ∈ s.transactions,
      Reapply.moved (s.rules.map Rule.stored) t.asRead = Reapply.moved s.rules t :=
    fun t ht => Reapply.moved_stored (h.amounts t ht).like s.rules
  obtain ⟨hnamed, htransactions, hrules⟩ :=
    MemoryStore.reapply_moves h.numbered h.ids hhere h.plain hs
  obtain ⟨hnamed', hdatabase⟩ := Database.reapply_moves h.listTransactions h.listRules
    (hids ▸ h.ids) hthere hstored hdb
  constructor
  · rw [hnamed, hnamed', List.filter_map, List.map_map]
    have hfilter : s.transactions.filter ((fun u =>
        (Reapply.moved (s.rules.map Rule.stored) u).isSome) ∘ Transaction.asRead) =
        s.transactions.filter fun t => (Reapply.moved s.rules t).isSome :=
      List.filter_congr fun t ht => congrArg Option.isSome (hmoved t ht)
    rw [hfilter]
    exact List.map_congr_left fun t _ => t.asRead_id.symm
  · refine h.recolored (h.numbered.reapply _ workers here) htransactions hrules ?_ ?_
    · let F (u : Transaction) : Option Transaction :=
        (Reapply.moved (s.rules.map Rule.stored) u).map fun g => { u with category := g }
      have hF : ∀ u v, F u = some v → v.id = u.id := by
        intro u v hv
        obtain ⟨g, -, rfl⟩ := Option.map_eq_some_iff.mp hv
        rfl
      have hsaved := Database.saved_ids hF (s.transactions.map Transaction.asRead)
      rw [hids, ← h.rowIds] at hsaved
      have hknown : ∀ u ∈ (s.transactions.map Transaction.asRead).filterMap F,
          u.id ∈ db.transactions.map (·.id) :=
        fun u hu => hsaved.subset (List.mem_map_of_mem hu)
      rw [hdatabase, Database.saveAll_known (hsaved.nodup (h.rowIds ▸ h.ids)) hknown,
        h.transactions, htransactions, List.map_map, List.map_map]
      refine List.map_congr_left fun t ht => ?_
      have hfound : ((s.transactions.map Transaction.asRead).filterMap F).find?
          (·.id = (Database.TransactionRow.ofTransaction t).id) = F t.asRead := by
        have hid : (Database.TransactionRow.ofTransaction t).id = t.asRead.id := t.asRead_id.symm
        rw [hid]
        exact Database.find?_saved hF (hids ▸ h.ids) (List.mem_map_of_mem ht)
      have hcategory : ((F t.asRead).map (·.category)).getD t.category =
          (Reapply.moved s.rules t).getD t.category := by
        simp only [F, hmoved t ht]
        cases Reapply.moved s.rules t <;> rfl
      rw [Function.comp_apply, Function.comp_apply, hfound]
      exact congrArg (fun g => { Database.TransactionRow.ofTransaction t with category := g })
        hcategory
    · rw [hdatabase, Database.saveAll_rules]

theorem take (h : Agree s db) {step : StoreStep} {ids ids' : List String}
    (hfit : StoreStep.Fits s step) (hs : s.take step = .ok (ids, s'))
    (hdb : db.take step = .ok (ids', db')) :
    ids = ids' ∧ Agree s' db' := by
  cases step with
  | save t =>
    obtain ⟨rfl, rfl⟩ := Prod.mk.inj (Except.ok.inj hs)
    obtain ⟨rfl, rfl⟩ := Prod.mk.inj (Except.ok.inj hdb)
    exact ⟨rfl, h.save hfit.1 hfit.2.1 hfit.2.2⟩
  | recategorize copied position category =>
    cases hp : s.places[position]? with
    | none => simp [MemoryStore.take, hp] at hs
    | some p =>
      have hlisted : (s.transactions.map Transaction.asRead)[position]? = some p.2.asRead := by
        simp [MemoryStore.transactions, hp]
      simp only [MemoryStore.take, hp] at hs
      simp only [Database.take, Database.session, Database.attempt, h.listTransactions,
        hlisted] at hdb
      obtain ⟨rfl, rfl⟩ := Prod.mk.inj (Except.ok.inj hs)
      obtain ⟨rfl, rfl⟩ := Prod.mk.inj (Except.ok.inj hdb)
      exact ⟨rfl, h.recategorize (List.mem_of_getElem? hp) copied category p.2.asRead_id⟩
  | addRule r =>
    obtain ⟨rfl, rfl⟩ := Prod.mk.inj (Except.ok.inj hs)
    cases hr : db.addRule r with
    | error fault => simp [Database.take, Database.session, Database.attempt, hr] at hdb
    | ok after =>
      simp only [Database.take, Database.session, Database.attempt, hr] at hdb
      obtain ⟨rfl, rfl⟩ := Prod.mk.inj (Except.ok.inj hdb)
      exact ⟨rfl, h.addRule hfit hr⟩
  | reapply workers here there =>
    cases hids : (s.reapply (fun _ _ => Clock.unlimited) workers here).changedIds with
    | error failure => simp [MemoryStore.take, hids] at hs
    | ok named =>
      cases hids' : (db.reapply (fun _ _ => Clock.unlimited) workers there).changedIds with
      | error fault =>
        simp [Database.take, Database.session, Database.attempt, hids', Except.mapError] at hdb
      | ok named' =>
        simp only [MemoryStore.take, hids] at hs
        simp only [Database.take, Database.session, Database.attempt, hids',
          Except.mapError] at hdb
        obtain ⟨rfl, rfl⟩ := Prod.mk.inj (Except.ok.inj hs)
        obtain ⟨rfl, rfl⟩ := Prod.mk.inj (Except.ok.inj hdb)
        exact h.reapply hfit.1 hfit.2 hids hids'

theorem takeAll (h : Agree s db) {steps : List StoreStep} {named named' : List (List String)}
    (hfit : StoreStep.AllFit steps s)
    (hs : StoreStep.takeAll MemoryStore.take steps s = .ok (named, s'))
    (hdb : StoreStep.takeAll Database.take steps db = .ok (named', db')) :
    named = named' ∧ Agree s' db' := by
  induction steps generalizing s db named named' with
  | nil =>
    obtain ⟨rfl, rfl⟩ := Prod.mk.inj (Except.ok.inj hs)
    obtain ⟨rfl, rfl⟩ := Prod.mk.inj (Except.ok.inj hdb)
    exact ⟨rfl, h⟩
  | cons step rest ih =>
    obtain ⟨hfirst, hrest⟩ := hfit
    unfold StoreStep.takeAll at hs hdb
    cases hmemory : s.take step with
    | error fault => rw [hmemory] at hs; exact nomatch hs
    | ok next =>
      cases htables : db.take step with
      | error fault => rw [htables] at hdb; exact nomatch hdb
      | ok next' =>
        obtain ⟨ids, s₁⟩ := next
        obtain ⟨ids', db₁⟩ := next'
        obtain ⟨rfl, hagree⟩ := h.take hfirst hmemory htables
        rw [hmemory] at hs
        rw [htables] at hdb
        obtain ⟨⟨later, s₂⟩, hlater, heq⟩ := Reapply.map_eq_ok.mp hs
        obtain ⟨⟨later', db₂⟩, hlater', heq'⟩ := Reapply.map_eq_ok.mp hdb
        obtain ⟨rfl, rfl⟩ := Prod.mk.inj heq
        obtain ⟨rfl, rfl⟩ := Prod.mk.inj heq'
        obtain ⟨rfl, hend⟩ := ih hagree (hrest ids s₁ hmemory) hlater hlater'
        exact ⟨rfl, hend⟩

end

end Agree

/-- Two empty stores taken through the same steps, none of which fails on either: the passes name
the same ids, the transactions that are listed are the same but for how an amount is written, and
so are the rules, with the category that each sets. -/
theorem stores_agree [Pattern.Engine] {steps : List StoreStep} {named named' : List (List String)}
    {s : MemoryStore} {db : Database} (h : StoreStep.AllFit steps .empty)
    (hs : StoreStep.takeAll MemoryStore.take steps .empty = .ok (named, s))
    (hdb : StoreStep.takeAll Database.take steps .empty = .ok (named', db)) :
    named = named' ∧ ∃ ts rs, db.listTransactions = .ok ts ∧ db.listRules = .ok rs ∧
      List.Forall₂ Transaction.Like s.transactions ts ∧
      List.Forall₂ (fun r q => q.id = r.id ∧ q.definition = r.definition ∧
        q.targetCategory = r.targetCategory) s.rules rs := by
  obtain ⟨hnamed, hagree⟩ := Agree.empty.takeAll h hs hdb
  refine ⟨hnamed, _, _, hagree.listTransactions, hagree.listRules, ?_, ?_⟩
  · rw [List.forall₂_map_right_iff, List.forall₂_same]
    exact fun t ht => (hagree.amounts t ht).like
  · rw [List.forall₂_map_right_iff, List.forall₂_same]
    exact fun r _ => ⟨r.stored_id, r.stored_definition, r.stored_target⟩

open scoped Pattern.Builtin in
theorem stores_agree_shop :
    let rule := Rule.ofText "r" "transaction.merchant === \"Shop\" -> \"Food\""
    let steps : List StoreStep := [.save Reapply.shopPurchase, .addRule rule,
      .reapply 1 .empty .empty, .recategorize false 0 "Travel", .reapply 2 .empty .empty]
    ∃ s db, StoreStep.takeAll MemoryStore.take steps .empty = .ok ([[], [], ["1"], [], ["1"]], s) ∧
      StoreStep.takeAll Database.take steps .empty = .ok ([[], [], ["1"], [], ["1"]], db) ∧
      ∃ ts, db.listTransactions = .ok ts ∧ List.Forall₂ Transaction.Like s.transactions ts := by
  intro rule steps
  have hread : Reapply.shopPurchase.ReadsBack := by
    refine ⟨.finite false 500 (-2), by decide, 5, ?_, ?_⟩
    · exact ⟨false, 5, 0, rfl, by norm_num [Decimal.signed, magnitude]⟩
    · exact ⟨false, 500, -2, rfl, by norm_num [Decimal.signed, magnitude]⟩
  have hfit : StoreStep.AllFit steps .empty := by
    refine ⟨⟨⟨rfl, rfl⟩, hread, by decide⟩, fun _ _ _ => ⟨?_, fun _ _ _ => ?_⟩⟩
    · intro members hd
      simp [rule, Rule.ofText] at hd
    · have hcaches : Sound Value.Plain .empty ∧ Sound Value.Plain .empty :=
        ⟨Cache.sound_empty _, Cache.sound_empty _⟩
      exact ⟨hcaches, fun _ _ _ => ⟨trivial, fun _ _ _ => ⟨hcaches, fun _ _ _ => trivial⟩⟩⟩
  have hnamed : ((StoreStep.takeAll MemoryStore.take steps .empty).map (·.1)).toOption =
      some [[], [], ["1"], [], ["1"]] := by decide +kernel
  have htaken : (StoreStep.takeAll Database.take steps .empty).isOk = true := by decide +kernel
  cases hs : StoreStep.takeAll MemoryStore.take steps .empty with
  | error fault => simp [hs, Except.map, Except.toOption] at hnamed
  | ok taken =>
    cases hdb : StoreStep.takeAll Database.take steps .empty with
    | error fault => simp [hdb, Except.isOk, Except.toBool] at htaken
    | ok taken' =>
      obtain ⟨named, s⟩ := taken
      obtain ⟨named', db⟩ := taken'
      rw [hs] at hnamed
      obtain rfl : named = _ := Option.some.inj hnamed
      obtain ⟨rfl, ts, -, hts, -, hlike, -⟩ := stores_agree hfit hs hdb
      exact ⟨s, db, rfl, rfl, ts, hts, hlike⟩

end LedgerRules
