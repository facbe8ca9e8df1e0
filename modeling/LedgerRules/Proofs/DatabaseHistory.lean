import LedgerRules.Pattern.Builtin
import LedgerRules.Proofs.DecimalValue
import LedgerRules.Proofs.RepeatedPasses
import LedgerRules.Proofs.StoreSaving
import LedgerRules.Proofs.Typing
import LedgerRules.Store.Database

/-! What blocks of steps make of a database. The table of transactions is what saving one after the
other comes to: a row is made by the first transaction of its id, and the later ones change its
category only. A block that fails leaves the tables as they were. -/

namespace LedgerRules
open Numeric

namespace Numeric

theorem scaled_lt {c k : Nat} {e : Int} (h : magnitude c e < 10 ^ k) :
    c * 10 ^ e.toNat < 10 ^ k * 10 ^ (-e).toNat := by
  have hpos : (0 : ℚ) < 10 ^ (-e).toNat := by positivity
  have hlt := mul_lt_mul_of_pos_right h hpos
  rw [magnitude_split] at hlt
  exact_mod_cast hlt

theorem floorLog_le {num den k : Nat} (hnum : num ≠ 0) (h : num < 2 ^ k * den) :
    Binary64.floorLog num den ≤ k := by
  have hlog : num.log2 < k + den.log2 + 1 := by
    rw [Nat.log2_lt hnum]
    calc num < 2 ^ k * den := h
      _ ≤ 2 ^ k * 2 ^ (den.log2 + 1) := Nat.mul_le_mul_left _ Nat.lt_log2_self.le
      _ = 2 ^ (k + den.log2 + 1) := by rw [← Nat.pow_add, Nat.add_assoc]
  unfold Binary64.floorLog
  dsimp only
  split <;> omega

theorem ofRatio_finite {negative : Bool} {num den : Nat} (h : num < 2 ^ 60 * den) :
    ∃ n m e, Binary64.ofRatio negative num den = .finite n m e := by
  unfold Binary64.ofRatio
  split
  · exact ⟨_, _, _, rfl⟩
  next hnum =>
    have hlog := floorLog_le hnum h
    have hexponent : max Binary64.minExponent (Binary64.floorLog num den - 52) ≤ 8 := by
      unfold Binary64.minExponent
      omega
    dsimp only
    generalize max Binary64.minExponent (Binary64.floorLog num den - 52) = e at hexponent ⊢
    have hmost : ¬e > Binary64.maxExponent ∧ ¬e + 1 > Binary64.maxExponent := by
      unfold Binary64.maxExponent
      omega
    split
    · exact ⟨_, _, _, if_neg hmost.2⟩
    · exact ⟨_, _, _, if_neg hmost.1⟩

theorem ofScaled_finite (negative : Bool) {c : Nat} {e : Int} (h : magnitude c e < 10 ^ 16) :
    ∃ n m k, Binary64.ofScaled negative c e = .finite n m k := by
  unfold Binary64.ofScaled
  split
  · exact ⟨_, _, _, rfl⟩
  next hc =>
    have hleading : Decimal.adjusted c e < 16 := by
      have hlow := (le_magnitude hc e).trans_lt h
      have hlt := (zpow_lt_zpow_iff_right₀ (by norm_num : (1 : ℚ) < 10)).mp
        (show (10 : ℚ) ^ (e + digitCount c - 1) < 10 ^ (16 : Int) from hlow)
      exact hlt
    dsimp only
    rw [if_neg (by omega)]
    split
    · exact ⟨_, _, _, rfl⟩
    · have hpow : 10 ^ 16 * 10 ^ (-e).toNat ≤ 2 ^ 60 * 10 ^ (-e).toNat :=
        Nat.mul_le_mul_right _ (by norm_num)
      exact ofRatio_finite ((scaled_lt h).trans_le hpow)

end Numeric

structure Transaction.Storable (t : Transaction) : Prop where
  valid : t.Valid
  amount : ∃ x, t.amount.HasValue x ∧ |x| < 10 ^ 16

def Rule.stored (r : Rule) : Rule :=
  match r.newCategory, r.definition with
  | none, .text s => { r with newCategory := ((Definition.split s).map (·.2)).toOption }
  | _, _ => r

theorem Rule.stored_id (r : Rule) : r.stored.id = r.id := by
  unfold stored
  split <;> rfl

namespace Database

def Readable (x : Binary64) : Prop := ∃ n m e, x = .finite n m e

theorem keptAmount_readable {d : Decimal} {x : ℚ} (h : d.HasValue x) (hx : |x| < 10 ^ 16) :
    Readable (keptAmount d) := by
  obtain ⟨n, c, e, rfl, rfl⟩ := h
  have hmagnitude : magnitude c e < 10 ^ 16 := by rwa [Decimal.abs_signed] at hx
  obtain ⟨n', m, k, hscaled⟩ := ofScaled_finite n hmagnitude
  unfold keptAmount
  dsimp only
  split
  · exact ⟨_, _, _, rfl⟩
  · exact ⟨n', m, k, hscaled⟩

theorem readDate_keptDate {t : Calendar.Moment} (h : t.offset = some 0) :
    readDate (keptDate t) = t := by
  obtain ⟨ticks, offset, hrange, hnear⟩ := t
  obtain rfl : offset = some 0 := h
  simp [readDate, keptDate, Calendar.Moment.toUtc?_of_offset]

open MemoryStore (withId)
open Reapply (shopPurchase)

variable {db after : Database} {j done : Journal} {rows : List TransactionRow}
  {saved ts : List Transaction} {t : Transaction} {r : Rule} {a : Action}

theorem save_known (h : t.id ∈ db.transactions.map (·.id)) :
    (db.save t).1.transactions = db.transactions.map fun r =>
      if r.id = t.id then { r with category := t.category } else r := by
  have hany : db.transactions.any (·.id = t.id) = true := by simpa using h
  rw [save, if_pos hany]

theorem save_new (h : t.id ∉ db.transactions.map (·.id)) :
    (db.save t).1.transactions = db.transactions ++ [TransactionRow.ofTransaction t] := by
  have hany : ¬db.transactions.any (·.id = t.id) = true := by simpa using h
  rw [save, if_neg hany]

theorem save_rules (t : Transaction) (db : Database) : (db.save t).1.rules = db.rules := by
  unfold save
  split <;> rfl

theorem save_known_ids (h : t.id ∈ db.transactions.map (·.id)) :
    (db.save t).1.transactions.map (·.id) = db.transactions.map (·.id) := by
  rw [save_known h, List.map_map]
  refine List.map_congr_left fun row _ => ?_
  dsimp only [Function.comp_apply]
  split <;> rfl

theorem saveAll_cons (t : Transaction) (ts : List Transaction) (db : Database) :
    (saveAll (t :: ts) db).1 = (saveAll ts (db.save t).1).1 := rfl

theorem saveAll_rules (ts : List Transaction) (db : Database) :
    (saveAll ts db).1.rules = db.rules := by
  induction ts generalizing db with
  | nil => rfl
  | cons t ts ih => rw [saveAll_cons, ih, save_rules]

theorem withId_concat_self (t : Transaction) (saved : List Transaction) :
    withId t.id (saved ++ [t]) = withId t.id saved ++ [t] := by
  simp [withId]

theorem withId_concat_other {id : String} (h : t.id ≠ id) (saved : List Transaction) :
    withId id (saved ++ [t]) = withId id saved := by
  simp [withId, h]

/-- The rows, one for each id in the order in which they came first; each is made by the first
transaction of its id, with the category of the last one. -/
structure Keeps (rows : List TransactionRow) (saved : List Transaction) : Prop where
  ids : rows.map (·.id) = (saved.map (·.id)).eraseDups
  nodup : (rows.map (·.id)).Nodup
  made : ∀ row ∈ rows, ∃ first last, (withId row.id saved).head? = some first ∧
    (withId row.id saved).getLast? = some last ∧
    row = { TransactionRow.ofTransaction first with category := last.category }

theorem Keeps.mem_ids (h : Keeps rows saved) {id : String} :
    id ∈ rows.map (·.id) ↔ id ∈ saved.map (·.id) := by
  rw [h.ids, List.mem_eraseDups]

theorem eraseDups_concat_known {ids : List String} {id : String} (h : id ∈ ids) :
    (ids ++ [id]).eraseDups = ids.eraseDups := by
  simp [List.eraseDups_append, List.removeAll, h]

theorem eraseDups_concat_new {ids : List String} {id : String} (h : id ∉ ids) :
    (ids ++ [id]).eraseDups = ids.eraseDups ++ [id] := by
  simp [List.eraseDups_append, List.removeAll, List.eraseDups_cons, h]

theorem Keeps.save_known (h : Keeps db.transactions saved)
    (hknown : t.id ∈ db.transactions.map (·.id)) :
    Keeps (db.save t).1.transactions (saved ++ [t]) := by
  refine ⟨?_, ?_, ?_⟩
  · rw [save_known_ids hknown, h.ids, List.map_append]
    exact (eraseDups_concat_known (h.mem_ids.mp hknown)).symm
  · rw [save_known_ids hknown]
    exact h.nodup
  · intro row hrow
    rw [Database.save_known hknown] at hrow
    obtain ⟨old, hold, rfl⟩ := List.mem_map.mp hrow
    obtain ⟨first, last, hfirst, hlast, hmade⟩ := h.made old hold
    split
    next hid =>
      refine ⟨first, t, ?_, ?_, ?_⟩
      · rw [hid, withId_concat_self, ← hid, List.head?_append, hfirst, Option.some_or]
      · rw [hid, withId_concat_self, List.getLast?_concat]
      · rw [hmade]
    next hid =>
      rw [withId_concat_other (Ne.symm hid)]
      exact ⟨first, last, hfirst, hlast, hmade⟩

theorem Keeps.save_new (h : Keeps db.transactions saved)
    (hnew : t.id ∉ db.transactions.map (·.id)) :
    Keeps (db.save t).1.transactions (saved ++ [t]) := by
  have hunsaved : t.id ∉ saved.map (·.id) := mt h.mem_ids.mpr hnew
  rw [Database.save_new hnew]
  refine ⟨?_, ?_, ?_⟩
  · rw [List.map_append, List.map_append, h.ids]
    exact (eraseDups_concat_new hunsaved).symm
  · rw [List.map_append, List.map_singleton, ← List.concat_eq_append]
    exact h.nodup.concat hnew
  · intro row hrow
    rcases List.mem_append.mp hrow with hrow | hrow
    · have hne : t.id ≠ row.id := fun heq => hnew (heq ▸ List.mem_map_of_mem hrow)
      rw [withId_concat_other hne]
      exact h.made row hrow
    · obtain rfl := List.mem_singleton.mp hrow
      have hnone : withId t.id saved = [] := by
        refine List.filter_eq_nil_iff.mpr fun u hu heq => hunsaved ?_
        exact of_decide_eq_true heq ▸ List.mem_map_of_mem hu
      have honly : withId (TransactionRow.ofTransaction t).id (saved ++ [t]) = [t] := by
        rw [show (TransactionRow.ofTransaction t).id = t.id from rfl, withId_concat_self, hnone]
        rfl
      exact ⟨t, t, congrArg List.head? honly, congrArg List.getLast? honly, rfl⟩

theorem Keeps.save (h : Keeps db.transactions saved) (t : Transaction) :
    Keeps (db.save t).1.transactions (saved ++ [t]) := by
  by_cases hknown : t.id ∈ db.transactions.map (·.id)
  · exact h.save_known hknown
  · exact h.save_new hknown

theorem Keeps.saveAll (h : Keeps db.transactions saved) (ts : List Transaction) :
    Keeps (saveAll ts db).1.transactions (saved ++ ts) := by
  induction ts generalizing db saved with
  | nil =>
    rw [List.append_nil]
    exact h
  | cons t ts ih =>
    have hrest := ih (h.save t)
    rw [List.append_assoc, List.singleton_append] at hrest
    rwa [saveAll_cons]

theorem forall₂_of_mapM {ε α β : Type} {f : α → Except ε β} {as : List α} {bs : List β}
    (h : as.mapM f = .ok bs) : List.Forall₂ (fun a b => f a = .ok b) as bs := by
  induction as generalizing bs with
  | nil =>
    obtain rfl := Except.ok.inj h
    exact .nil
  | cons a as ih =>
    rw [List.mapM_cons] at h
    cases ha : f a with
    | error e => rw [ha] at h; exact nomatch h
    | ok b =>
      cases hrest : as.mapM f with
      | error e => rw [ha, hrest] at h; exact nomatch h
      | ok rest =>
        rw [ha, hrest] at h
        obtain rfl := Except.ok.inj h
        exact .cons ha (ih hrest)

theorem mem_of_mapM {ε α β : Type} {f : α → Except ε β} {as : List α} {bs : List β} {b : β}
    (h : as.mapM f = .ok bs) (hb : b ∈ bs) : ∃ a ∈ as, f a = .ok b := by
  have hall := forall₂_of_mapM h
  clear h
  induction hall with
  | nil => exact nomatch hb
  | cons ha _ ih =>
    rcases List.mem_cons.mp hb with rfl | hb
    · exact ⟨_, List.mem_cons_self, ha⟩
    · obtain ⟨a, hmem, ha⟩ := ih hb
      exact ⟨a, List.mem_cons_of_mem _ hmem, ha⟩

theorem mapM_exists {ε α β : Type} {f : α → Except ε β} {as : List α}
    (h : ∀ a ∈ as, ∃ b, f a = .ok b) : ∃ bs, as.mapM f = .ok bs := by
  induction as with
  | nil => exact ⟨[], rfl⟩
  | cons a as ih =>
    obtain ⟨⟨b, hb⟩, hrest⟩ := List.forall_mem_cons.mp h
    obtain ⟨bs, hbs⟩ := ih hrest
    exact ⟨b :: bs, by rw [List.mapM_cons, hb, hbs]; rfl⟩

theorem TransactionRow.read_eq {row : TransactionRow} (h : TransactionRow.read row = .ok t) :
    t = ⟨row.id, row.merchant, t.amount, readDate row.date, row.account, row.category⟩ ∧
      readAmount row.amount = .ok t.amount := by
  unfold TransactionRow.read at h
  split at h
  · exact nomatch h
  next amount hamount =>
    obtain rfl := Except.ok.inj h
    exact ⟨rfl, hamount⟩

theorem TransactionRow.read_exists {row : TransactionRow} (h : Readable row.amount) :
    ∃ t, TransactionRow.read row = .ok t := by
  obtain ⟨n, m, e, hamount⟩ := h
  unfold TransactionRow.read
  rw [hamount]
  exact ⟨_, rfl⟩

theorem listed_ids (h : db.listTransactions = .ok ts) :
    ts.map (·.id) = db.transactions.map (·.id) := by
  have hall := forall₂_of_mapM h
  refine Eq.symm ?_
  rw [← List.forall₂_eq_eq_eq, List.forall₂_map_left_iff, List.forall₂_map_right_iff]
  refine hall.imp fun row t hread => ?_
  rw [(TransactionRow.read_eq hread).1]

def RuleRow.keeping (r : Rule) : RuleRow := ⟨r.id, r.definition, r.newCategory⟩

def RuleRow.members (r : Rule) : Members :=
  [("id", .text r.id), ("rule_definition", r.definition.toValue),
    ("new_category", (r.newCategory.map Value.text).getD .null)]

theorem RuleRow.deriveCategory_members (r : Rule) :
    Rule.deriveCategory (members r) = members r.stored := by
  obtain ⟨id, definition, newCategory⟩ := r
  cases newCategory with
  | some category => rfl
  | none =>
    cases definition with
    | tree ms => rfl
    | text s =>
      cases hs : Definition.split s <;>
        simp [Rule.deriveCategory, Rule.isGiven, Rule.either, Rule.stored, hs, members, Members.get?,
          Members.set, List.lookup_cons, RuleBody.toValue, Value.isNull, Except.map, Except.toOption]

theorem RuleRow.read_keeping (r : Rule) : RuleRow.read (RuleRow.keeping r) = .ok r.stored := by
  have hread : RuleRow.read (RuleRow.keeping r) =
      (Rule.ofMembers "" (members r)).mapError .unreadable := rfl
  have hok : ∀ u : Rule, Rule.readDefinition (members u) = .ok u.definition ∧
      Rule.readCategory (members u) = .ok u.newCategory ∧
      Record.member (members u) "id" (some "") Record.readString = .ok u.id := by
    rintro ⟨id, definition, newCategory⟩
    refine ⟨?_, ?_, rfl⟩
    · cases definition <;> rfl
    · cases newCategory <;> rfl
  obtain ⟨hdefinition, hcategory, hid⟩ := hok r.stored
  rw [hread, Rule.ofMembers, RuleRow.deriveCategory_members, hdefinition, hcategory, hid]
  rfl

theorem listRules_keeping {rules : List Rule} (h : db.rules = rules.map RuleRow.keeping) :
    db.listRules = .ok (rules.map Rule.stored) := by
  rw [listRules, h]
  clear h
  induction rules with
  | nil => rfl
  | cons r rules ih =>
    rw [List.map_cons, List.mapM_cons, RuleRow.read_keeping, ih]
    rfl

theorem TransactionRow.read_date {row : TransactionRow} (h : TransactionRow.read row = .ok t) :
    t.date.offset = some 0 := by
  rw [(read_eq h).1]
  rfl

theorem reapply_cases [Pattern.Engine] (clocks : Nat → Nat → Clock) (workers : Int) (db : Database)
    (c : Cache) :
    let applied := db.reapply clocks workers c
    (∃ fault, applied.changedIds = .error fault ∧ applied.database = db) ∨
      ∃ ids, applied.changedIds = .ok ids ∧ applied.database = (saveAll applied.saved db).1 ∧
        ∀ t ∈ applied.saved, t.id ∈ db.transactions.map (·.id) ∧ t.date.offset = some 0 := by
  unfold reapply
  split
  · exact .inl ⟨_, rfl, rfl⟩
  · exact .inl ⟨_, rfl, rfl⟩
  next ts rules hts _ =>
    dsimp only
    split
    · exact .inl ⟨_, rfl, rfl⟩
    next ids _ =>
      refine .inr ⟨ids, rfl, rfl, fun t ht => ?_⟩
      obtain ⟨⟨u, n⟩, hu, hsome⟩ := List.mem_filterMap.mp ht
      rw [← listed_ids hts]
      dsimp only at hsome
      split at hsome
      · obtain rfl := Option.some.inj hsome
        have hlisted : u ∈ ts := List.fst_mem_of_mem_zipIdx hu
        obtain ⟨row, -, hread⟩ := mem_of_mapM hts hlisted
        have hdate : u.date.offset = some 0 := TransactionRow.read_date hread
        exact ⟨List.mem_map.mpr ⟨u, hlisted, rfl⟩, hdate⟩
      · exact nomatch hsome

structure Faithful (db : Database) (j : Journal) : Prop where
  transactions : Keeps db.transactions j.saved
  dates : ∀ t ∈ j.saved, t.date.offset = some 0
  readable : ∀ row ∈ db.transactions, Readable row.amount
  rules : db.rules = j.added.map RuleRow.keeping
  ruleIds : (j.added.map (·.id)).Nodup

theorem faithful_empty : Faithful .empty .empty :=
  ⟨⟨rfl, .nil, by simp [empty]⟩, by simp [Journal.empty], by simp [empty], rfl, .nil⟩

theorem readable_save (h : ∀ row ∈ db.transactions, Readable row.amount)
    (ht : t.id ∈ db.transactions.map (·.id) ∨ Readable (keptAmount t.amount)) :
    ∀ row ∈ (db.save t).1.transactions, Readable row.amount := by
  intro row hrow
  by_cases hknown : t.id ∈ db.transactions.map (·.id)
  · rw [save_known hknown] at hrow
    obtain ⟨old, hold, rfl⟩ := List.mem_map.mp hrow
    split <;> exact h old hold
  · rw [save_new hknown] at hrow
    rcases List.mem_append.mp hrow with hold | hnew
    · exact h row hold
    · obtain rfl := List.mem_singleton.mp hnew
      exact ht.resolve_left hknown

theorem readable_saveAll (h : ∀ row ∈ db.transactions, Readable row.amount)
    (hts : ∀ t ∈ ts, t.id ∈ db.transactions.map (·.id)) :
    ∀ row ∈ (saveAll ts db).1.transactions, Readable row.amount := by
  induction ts generalizing db with
  | nil => exact h
  | cons t ts ih =>
    obtain ⟨ht, hts⟩ := List.forall_mem_cons.mp hts
    rw [saveAll_cons]
    refine ih (readable_save h (.inl ht)) fun u hu => ?_
    rw [save_known_ids ht]
    exact hts u hu

theorem addRule_eq (h : db.addRule r = .ok after) :
    after = { db with rules := db.rules ++ [RuleRow.keeping r] } ∧
      r.id ∉ db.rules.map (·.id) := by
  unfold addRule RuleRow.ofRule at h
  by_cases hjson : isJson r.definition.toValue = true
  · by_cases htaken : db.rules.any (·.id = r.id) = true
    · simp [hjson, htaken, bind, Except.bind, throw, throwThe, MonadExceptOf.throw] at h
    · simp only [hjson, htaken, if_true, bind, Except.bind] at h
      obtain rfl := Except.ok.inj h
      refine ⟨rfl, fun hmem => htaken ?_⟩
      simpa using hmem
  · simp [hjson, bind, Except.bind] at h

theorem Faithful.save (h : Faithful db j) (ht : t.Storable) :
    Faithful (db.save t).1 (j.then ⟨[t], []⟩) := by
  obtain ⟨x, hx, hbelow⟩ := ht.amount
  refine ⟨h.transactions.save t, ?_, ?_, ?_, ?_⟩
  · exact List.forall_mem_append.mpr ⟨h.dates, by simpa using ht.valid.date⟩
  · exact readable_save h.readable (.inr (keptAmount_readable hx hbelow))
  · rw [save_rules, h.rules]
    simp [Journal.then]
  · simpa [Journal.then] using h.ruleIds

theorem Faithful.saveAll (h : Faithful db j)
    (hts : ∀ t ∈ ts, t.id ∈ db.transactions.map (·.id) ∧ t.date.offset = some 0) :
    Faithful (saveAll ts db).1 (j.then ⟨ts, []⟩) := by
  have hreadable := readable_saveAll h.readable fun t ht => (hts t ht).1
  refine ⟨h.transactions.saveAll ts, ?_, hreadable, ?_, ?_⟩
  · exact List.forall_mem_append.mpr ⟨h.dates, fun t ht => (hts t ht).2⟩
  · rw [saveAll_rules, h.rules]
    simp [Journal.then]
  · simpa [Journal.then] using h.ruleIds

theorem Faithful.addRule (h : Faithful db j) (hr : db.addRule r = .ok after) :
    Faithful after (j.then ⟨[], [r]⟩) := by
  obtain ⟨rfl, hnew⟩ := addRule_eq hr
  have hids : db.rules.map (·.id) = j.added.map (·.id) := by
    rw [h.rules, List.map_map]
    rfl
  refine ⟨?_, ?_, h.readable, ?_, ?_⟩
  · simpa [Journal.then] using h.transactions
  · simpa [Journal.then] using h.dates
  · simp [Journal.then, h.rules]
  · rw [hids] at hnew
    rw [Journal.then, List.map_append, List.map_singleton, ← List.concat_eq_append]
    exact h.ruleIds.concat hnew

theorem Journal.then_empty (j : Journal) : j.then .empty = j := by
  simp [Journal.then, Journal.empty]

theorem Journal.then_assoc (a b c : Journal) : (a.then b).then c = a.then (b.then c) := by
  simp [Journal.then]

/-- What the caller saves can be stored. -/
def Action.Storable (a : Action) : Prop := ∀ t, a = .save t → t.Storable

section
variable [Pattern.Engine]

theorem Faithful.run (h : Faithful db j) (ha : a.Storable) (hrun : a.run db = (.ok done, after)) :
    Faithful after (j.then done) := by
  cases a with
  | save t =>
    obtain ⟨hdone, rfl⟩ := Prod.mk.inj hrun
    obtain rfl := Except.ok.inj hdone
    exact h.save (ha t rfl)
  | addRule r =>
    dsimp only [Action.run] at hrun
    split at hrun
    next db' hr =>
      obtain ⟨hdone, rfl⟩ := Prod.mk.inj hrun
      obtain rfl := Except.ok.inj hdone
      exact h.addRule hr
    next => exact nomatch congrArg Prod.fst hrun
  | reapply goesOn clocks workers c =>
    dsimp only [Action.run] at hrun
    rcases reapply_cases clocks workers db c with
      ⟨fault, hfault, hsame⟩ | ⟨ids, hids, hsaved, hlisted⟩
    · rw [hfault, hsame] at hrun
      obtain ⟨hdone, rfl⟩ := Prod.mk.inj hrun
      cases goesOn with
      | false => exact nomatch hdone
      | true =>
        obtain rfl := Except.ok.inj hdone
        rwa [Journal.then_empty]
    · rw [hids, hsaved] at hrun
      obtain ⟨hdone, rfl⟩ := Prod.mk.inj hrun
      obtain rfl := Except.ok.inj hdone
      exact h.saveAll hlisted
  | giveUp => exact nomatch congrArg Prod.fst hrun

theorem Faithful.runAll {actions : List Action} (h : Faithful db j)
    (hactions : ∀ a ∈ actions, a.Storable) (hrun : runAll actions db = (.ok done, after)) :
    Faithful after (j.then done) := by
  induction actions generalizing db j done with
  | nil =>
    obtain ⟨hdone, rfl⟩ := Prod.mk.inj hrun
    obtain rfl := Except.ok.inj hdone
    rwa [Journal.then_empty]
  | cons a rest ih =>
    obtain ⟨ha, hrest⟩ := List.forall_mem_cons.mp hactions
    unfold Database.runAll at hrun
    split at hrun
    next => exact nomatch congrArg Prod.fst hrun
    next first db' hfirst =>
      cases hlater : (Database.runAll rest db').1 with
      | error fault => simp [hlater, Except.map] at hrun
      | ok later =>
        simp only [hlater, Except.map] at hrun
        obtain ⟨hdone, rfl⟩ := Prod.mk.inj hrun
        obtain rfl := Except.ok.inj hdone
        rw [← Journal.then_assoc]
        exact ih (h.run ha hfirst) hrest (Prod.ext hlater rfl)

theorem block_cases (actions : List Action) (db : Database) :
    (∃ fault, block actions db = (.error fault, db)) ∨
      ∃ done after, block actions db = (.ok done, after) ∧
        runAll actions db = (.ok done, after) := by
  cases hrun : runAll actions db with
  | mk outcome after =>
    cases outcome with
    | error fault => exact .inl ⟨fault, session_error (congrArg Prod.fst hrun)⟩
    | ok done => exact .inr ⟨done, after, by rw [block, session, hrun], rfl⟩

end

namespace Ledger
variable {s : Ledger} {blocks : List (List Action)}

section
variable [Pattern.Engine]

theorem after_failed {actions : List Action} {fault : BlockFault}
    (h : (block actions s.database).1 = .error fault) : s.after actions = s := by
  rcases block_cases actions s.database with ⟨fault', hblock⟩ | ⟨done, after, hblock, -⟩
  · rw [Ledger.after, hblock]
  · exact nomatch (congrArg Prod.fst hblock).symm.trans h

theorem after_faithful {actions : List Action} (h : Faithful s.database s.journal)
    (hactions : ∀ a ∈ actions, a.Storable) :
    Faithful (s.after actions).database (s.after actions).journal := by
  rcases block_cases actions s.database with ⟨fault, hblock⟩ | ⟨done, after, hblock, hrun⟩
  · rwa [Ledger.after, hblock]
  · rw [Ledger.after, hblock]
    exact h.runAll hactions hrun

theorem history_concat (blocks : List (List Action)) (actions : List Action) :
    history (blocks ++ [actions]) = (history blocks).after actions := by
  rw [history, List.foldl_concat, history]

theorem history_faithful (h : ∀ actions ∈ blocks, ∀ a ∈ actions, a.Storable) :
    Faithful (history blocks).database (history blocks).journal := by
  induction blocks using List.reverseRecOn with
  | nil => exact faithful_empty
  | append_singleton blocks actions ih =>
    rw [history_concat]
    exact after_faithful (ih fun b hb => h b (by simp [hb])) (h actions (by simp))

theorem added_after (s : Ledger) (actions : List Action) :
    s.journal.added <+: (s.after actions).journal.added := by
  unfold Ledger.after
  split
  · exact List.prefix_append _ _
  · exact List.prefix_rfl

theorem added_history (blocks later : List (List Action)) :
    (history blocks).journal.added <+: (history (blocks ++ later)).journal.added := by
  induction later using List.reverseRecOn with
  | nil => simp
  | append_singleton later actions ih =>
    rw [← List.append_assoc, history_concat]
    exact ih.trans (added_after _ actions)

/-- Blocks in turn on tables that are empty. What is listed afterwards is one transaction for each
id that was saved, and one rule for each that was appended, in the order in which they came first;
what was done in a block that failed does not count. A transaction is as it was saved first, but
with the category that it was saved with last; rules stay whatever is done later. -/
theorem history_lists (h : ∀ actions ∈ blocks, ∀ a ∈ actions, a.Storable) :
    let s := history blocks
    ∃ ts rs, s.database.listTransactions = .ok ts ∧ s.database.listRules = .ok rs ∧
      (ts.map (·.id)).Nodup ∧ (rs.map (·.id)).Nodup ∧
      ts.map (·.id) = (s.journal.saved.map (·.id)).eraseDups ∧
      (∀ t ∈ ts, ∃ first last, (withId t.id s.journal.saved).head? = some first ∧
        (withId t.id s.journal.saved).getLast? = some last ∧ t.merchant = first.merchant ∧
        t.date = first.date ∧ t.account = first.account ∧ t.category = last.category ∧
        readAmount (keptAmount first.amount) = .ok t.amount) ∧
      rs = s.journal.added.map Rule.stored ∧
      (∀ later, (∀ actions ∈ later, ∀ a ∈ actions, a.Storable) →
        ∃ more, (history (blocks ++ later)).database.listRules = .ok (rs ++ more)) ∧
      ∀ actions fault, (block actions s.database).1 = .error fault →
        history (blocks ++ [actions]) = s := by
  intro s
  have hs : Faithful s.database s.journal := history_faithful h
  obtain ⟨ts, hts⟩ := mapM_exists fun row hrow => TransactionRow.read_exists (hs.readable row hrow)
  have hids := listed_ids hts
  refine ⟨ts, _, hts, listRules_keeping hs.rules, ?_, ?_, ?_, ?_, rfl, ?_, ?_⟩
  · rw [hids]
    exact hs.transactions.nodup
  · have hstored : (s.journal.added.map Rule.stored).map (·.id) = s.journal.added.map (·.id) := by
      rw [List.map_map]
      exact List.map_congr_left fun r _ => r.stored_id
    rw [hstored]
    exact hs.ruleIds
  · rw [hids, hs.transactions.ids]
  · intro t ht
    obtain ⟨row, hrow, hread⟩ := mem_of_mapM hts ht
    obtain ⟨first, last, hfirst, hlast, hmade⟩ := hs.transactions.made row hrow
    obtain ⟨ht, hamount⟩ := TransactionRow.read_eq hread
    have hid : row.id = t.id := (congrArg Transaction.id ht).symm
    refine ⟨first, last, hid ▸ hfirst, hid ▸ hlast, ?_, ?_, ?_, ?_, ?_⟩
    · exact (congrArg Transaction.merchant ht).trans (congrArg TransactionRow.merchant hmade)
    · have hdate := hs.dates first (List.mem_of_mem_filter (List.mem_of_mem_head? hfirst))
      rw [ht, hmade]
      exact readDate_keptDate hdate
    · exact (congrArg Transaction.account ht).trans (congrArg TransactionRow.account hmade)
    · exact (congrArg Transaction.category ht).trans (congrArg TransactionRow.category hmade)
    · rwa [hmade] at hamount
  · intro later hlater
    obtain ⟨more, hmore⟩ := added_history blocks later
    have hboth : ∀ actions ∈ blocks ++ later, ∀ a ∈ actions, a.Storable := by
      intro actions hactions
      exact (List.mem_append.mp hactions).elim (h actions) (hlater actions)
    refine ⟨more.map Rule.stored, ?_⟩
    rw [listRules_keeping (history_faithful hboth).rules, ← hmore, List.map_append]
  · intro actions fault hfault
    rw [history_concat, after_failed hfault]

end

theorem shopPurchase_storable : shopPurchase.Storable := by
  refine ⟨⟨rfl, rfl⟩, 5, ⟨false, 5, 0, rfl, by norm_num [Decimal.signed, magnitude]⟩, by norm_num⟩

def shopping : List (List Action) :=
  let rule := Rule.ofText "r" "transaction.merchant === \"Shop\" -> \"Food\""
  let renamed := { shopPurchase with merchant := "Bus", category := "Travel" }
  [[.save shopPurchase, .addRule rule], [.reapply false (fun _ _ => Clock.unlimited) 1 .empty],
    [.save renamed, .addRule rule], [.save renamed]]

theorem shopping_storable : ∀ actions ∈ shopping, ∀ a ∈ actions, a.Storable := by
  have hrenamed :
      Transaction.Storable { shopPurchase with merchant := "Bus", category := "Travel" } :=
    ⟨⟨rfl, rfl⟩, shopPurchase_storable.amount⟩
  intro actions hactions a ha t hsave
  subst hsave
  simp only [shopping, List.mem_cons, List.not_mem_nil, or_false] at hactions
  rcases hactions with rfl | rfl | rfl | rfl <;> simp at ha
  · exact ha ▸ shopPurchase_storable
  · exact ha ▸ hrenamed
  · exact ha ▸ hrenamed

open scoped Pattern.Builtin in
theorem history_lists_shopping :
    let s := history shopping
    ∃ ts rs, s.database.listTransactions = .ok ts ∧ s.database.listRules = .ok rs ∧
      s.journal.saved.map (·.category) = [defaultCategory, "Food", "Travel"] ∧
      ts.map (fun t => (t.id, t.merchant, t.category)) = [("1", "Shop", "Travel")] ∧
      rs.map (·.id) = ["r"] ∧ history (shopping ++ [[.giveUp]]) = s := by
  intro s
  obtain ⟨ts, rs, hts, hrs, -, -, -, -, hadded, -, hfailed⟩ := history_lists shopping_storable
  have hlisted : (s.database.listTransactions.map
      (·.map fun t => (t.id, t.merchant, t.category))).toOption =
        some [("1", "Shop", "Travel")] := by decide +kernel
  have hrules : s.journal.added.map (·.id) = ["r"] := by decide +kernel
  refine ⟨ts, rs, hts, hrs, by decide +kernel, ?_, ?_, hfailed [.giveUp] .givenUp rfl⟩
  · rw [hts] at hlisted
    exact Option.some.inj hlisted
  · rw [hadded, List.map_map, ← hrules]
    exact List.map_congr_left fun r _ => r.stored_id

end Ledger

end Database

end LedgerRules
