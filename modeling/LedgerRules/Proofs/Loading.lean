import LedgerRules.Pattern.Builtin
import LedgerRules.Proofs.DataFiles

/-! What loading can come to. A data file gives its records, each of them checked, or a complaint,
except in three cases that end the program without a word: an integer too long to be read, a member
that lists nothing, and a date that lies outside the calendar once it is in universal time. Only the
date can do that to a transaction that is given as a text. -/

namespace LedgerRules

def RecordFailure.Wordless (failure : RecordFailure) : Prop :=
  ∀ faults, failure ≠ .invalid faults

namespace Value

/-- The value is a record with a date that can be read, but is of the year 0 or leaves the calendar
on its way to universal time. -/
def OffCalendar (origin : Origin) (v : Value) : Prop :=
  ∃ (members : Members) (date : Value), v = .map members ∧ members.get? "date" = some date ∧
    (Record.readMoment origin date = .error .yearZero ∨
      ∃ t, Record.readMoment origin date = .ok t ∧ t.toUtc? = none)

end Value

namespace Transaction
variable {origin : Origin} {fresh : String} {members : Members} {v : Value}

theorem offCalendar_of_readDate {failure : RecordFailure}
    (h : readDate origin members = .error failure) :
    failure.Wordless ∧ (Value.map members).OffCalendar origin := by
  unfold readDate at h
  split at h
  next => cases h
  next date hget =>
    split at h
    next => cases h
    next hyear =>
      cases h
      exact ⟨by simp [RecordFailure.Wordless], members, date, rfl, hget, .inl hyear⟩
    next t ht =>
      split at h
      next => cases h
      next hout =>
        cases h
        exact ⟨by simp [RecordFailure.Wordless], members, date, rfl, hget, .inr ⟨t, ht, hout⟩⟩

theorem readDate_of_offCalendar (h : (Value.map members).OffCalendar origin) :
    ∃ failure, readDate origin members = .error failure := by
  obtain ⟨ms, date, heq, hget, hdate⟩ := h
  obtain rfl := Value.map.inj heq
  rw [readDate, hget]
  rcases hdate with hyear | ⟨t, ht, hout⟩
  · exact ⟨.yearZero, by simp only [hyear]⟩
  · exact ⟨.dateRange, by simp only [ht, hout]⟩

theorem validate_wordless_iff :
    (∃ failure, validate origin fresh v = .error failure ∧ failure.Wordless) ↔
      v.OffCalendar origin := by
  cases v with
  | map members =>
    rw [validate, ofMembers]
    dsimp only
    split
    next failure hdate =>
      obtain ⟨hwordless, hout⟩ := offCalendar_of_readDate hdate
      exact iff_of_true ⟨failure, rfl, hwordless⟩ hout
    next date hdate =>
      have hin : ¬(Value.map members).OffCalendar origin := by
        intro hout
        obtain ⟨failure, hfailure⟩ := readDate_of_offCalendar hout
        rw [hdate] at hfailure
        cases hfailure
      refine iff_of_false ?_ hin
      rintro ⟨failure, h, hwordless⟩
      split at h
      next => cases h
      next =>
        obtain rfl := Except.error.inj h
        exact hwordless _ rfl
  | _ => simp [validate, Value.OffCalendar, RecordFailure.Wordless]

theorem validate_fresh {t : Transaction} (h : validate origin fresh v = .ok t) (other : String) :
    ∃ t, validate origin other v = .ok t := by
  unfold validate at h ⊢
  split at h
  next members =>
    unfold ofMembers at h ⊢
    dsimp only at h ⊢
    split at h
    next => cases h
    next date hdate =>
      split at h
      next hid hmerchant hamount haccount hcategory =>
        obtain ⟨id, hid⟩ : ∃ id,
            Record.member members "id" (some other) Record.readString = .ok id := by
          unfold Record.member at hid ⊢
          split at hid
          next => exact ⟨_, hid⟩
          next => exact ⟨other, rfl⟩
        exact ⟨_, by simp only [hid, hmerchant, hamount, haccount, hcategory]; rfl⟩
      next => cases h
  next => cases h

end Transaction

namespace CommandLine

namespace DataFile
variable {α β : Type} {ids : Nat → String} {raw : Members} {name : String} {vs : List Value}

def Silent (r : Except DataFault α) : Prop :=
  ∃ fault, r = .error fault ∧ ∀ file, Context.dataEnding file fault = .stopped

theorem not_silent_ok (a : α) : ¬Silent (.ok a) := by simp [Silent]

theorem silent_bind {x : Except DataFault α} {f : α → Except DataFault β} :
    Silent (x >>= f) ↔ Silent x ∨ ∃ a, x = .ok a ∧ Silent (f a) := by
  cases x with
  | error fault => simp [Silent, bind, Except.bind]
  | ok a => simp [Silent, bind, Except.bind]

theorem silent_map {x : Except DataFault α} {f : α → β} : Silent (x.map f) ↔ Silent x := by
  cases x <;> simp [Silent, Except.map]

theorem complaint_of_not_silent {x : Except DataFault α} (h : ¬Silent x) (file : String) :
    (∃ a, x = .ok a) ∨ ∃ fault c, x = .error fault ∧ Context.dataEnding file fault = .failed c := by
  cases x with
  | ok a => exact .inl ⟨a, rfl⟩
  | error fault =>
    cases fault with
    | notListed | dateRange | longInteger => exact absurd ⟨_, rfl, fun _ => rfl⟩ h
    | _ => exact .inr ⟨_, _, rfl, rfl⟩

def Unlisted (raw : Members) (name : String) : Prop :=
  ∃ v, raw.get? name = some v ∧ v.isCollection = false ∧ v.isText = false

theorem silent_listed : Silent (listed raw name) ↔ Unlisted raw name := by
  unfold listed Unlisted
  cases raw.get? name with
  | none => simp [Silent]
  | some v => cases v <;> simp [Silent, Context.dataEnding, Value.isCollection, Value.isText]

def IsTransaction (v : Value) : Prop := ∃ fresh t, Transaction.validate .values fresh v = .ok t

inductive Strays : List Value → Prop
  | here {v : Value} {vs : List Value} : v.OffCalendar .values → Strays (v :: vs)
  | later {v : Value} {vs : List Value} : IsTransaction v → Strays vs → Strays (v :: vs)

theorem silent_readTransactions : Silent (readTransactions ids vs) ↔ Strays vs := by
  induction vs generalizing ids with
  | nil =>
    refine iff_of_false (not_silent_ok _) ?_
    intro h
    cases h
  | cons v vs ih =>
    unfold readTransactions
    have hwordless : (∃ failure, Transaction.validate .values (ids 0) v = .error failure ∧
        failure.Wordless) ↔ v.OffCalendar .values := Transaction.validate_wordless_iff
    split
    next faults hinvalid =>
      rw [hinvalid] at hwordless
      have hin : ¬v.OffCalendar .values := by
        rw [← hwordless]
        simp [RecordFailure.Wordless]
      refine iff_of_false (by simp [Silent, Context.dataEnding]) ?_
      intro h
      cases h with
      | here hout => exact hin hout
      | later hv =>
        obtain ⟨fresh, t, ht⟩ := hv
        obtain ⟨t, ht⟩ := Transaction.validate_fresh ht (ids 0)
        rw [hinvalid] at ht
        cases ht
    next failure hne hfailure =>
      have hout : v.OffCalendar .values :=
        hwordless.mp ⟨failure, hfailure, hne⟩
      exact iff_of_true ⟨.dateRange, rfl, fun _ => rfl⟩ (.here hout)
    next t ht =>
      rw [silent_map, ih]
      constructor
      · exact .later ⟨ids 0, t, ht⟩
      · intro h
        cases h with
        | here hout =>
          obtain ⟨failure, hfailure, -⟩ := hwordless.mpr hout
          rw [ht] at hfailure
          cases hfailure
        | later _ h => exact h

theorem not_silent_readRules : ¬Silent (readRules ids vs) := by
  induction vs generalizing ids with
  | nil => exact not_silent_ok _
  | cons v vs ih =>
    unfold readRules
    split
    next => simp [Silent, Context.dataEnding]
    next =>
      rw [silent_map]
      exact ih

theorem readTransactions_returns_iff :
    (∃ ts, readTransactions ids vs = .ok ts) ↔ ∀ v ∈ vs, IsTransaction v := by
  induction vs generalizing ids with
  | nil => exact iff_of_true ⟨[], rfl⟩ (by simp)
  | cons v vs ih =>
    rw [List.forall_mem_cons, readTransactions, ← @ih fun n => ids (n + 1)]
    constructor
    · rintro ⟨ts, h⟩
      split at h
      next => cases h
      next => cases h
      next t ht =>
        obtain ⟨rest, hrest, -⟩ := Reapply.map_eq_ok.mp h
        exact ⟨⟨_, t, ht⟩, rest, hrest⟩
    · rintro ⟨⟨fresh, t, ht⟩, rest, hrest⟩
      obtain ⟨t, ht⟩ := Transaction.validate_fresh ht (ids 0)
      exact ⟨t :: rest, by rw [ht, hrest]; rfl⟩

theorem checked_of_readTransactions {ts : List Transaction}
    (h : readTransactions ids vs = .ok ts) :
    List.Forall₂ (fun v t => ∃ fresh, Transaction.validate .values fresh v = .ok t) vs ts := by
  induction vs generalizing ids ts with
  | nil =>
    obtain rfl := Except.ok.inj h
    exact .nil
  | cons v vs ih =>
    unfold readTransactions at h
    split at h
    next => cases h
    next => cases h
    next t ht =>
      obtain ⟨rest, hrest, rfl⟩ := Reapply.map_eq_ok.mp h
      exact .cons ⟨_, ht⟩ (ih hrest)

theorem checked_of_readRules {rs : List Rule} (h : readRules ids vs = .ok rs) :
    List.Forall₂ (fun v r => ∃ fresh, Rule.validate fresh v = .ok r) vs rs := by
  induction vs generalizing ids rs with
  | nil =>
    obtain rfl := Except.ok.inj h
    exact .nil
  | cons v vs ih =>
    unfold readRules at h
    split at h
    next => cases h
    next r hr =>
      obtain ⟨rest, hrest, rfl⟩ := Reapply.map_eq_ok.mp h
      exact .cons ⟨_, hr⟩ (ih hrest)

inductive Derails (raw : Members) : Prop
  | transactions : Unlisted raw "transactions" → Derails raw
  | date {items : List Value} : listed raw "transactions" = .ok items → Strays items → Derails raw
  | rules {items : List Value} : listed raw "transactions" = .ok items →
      (∀ v ∈ items, IsTransaction v) → Unlisted raw "rules" → Derails raw

theorem silent_ofMembers : Silent (ofMembers ids raw) ↔ Derails raw := by
  simp only [ofMembers, silent_bind, silent_listed, silent_readTransactions, not_silent_readRules,
    false_or]
  constructor
  · rintro (h | ⟨items, hitems, h | ⟨ts, hts, h | ⟨_, _, _, _, h⟩⟩⟩)
    · exact .transactions h
    · exact .date hitems h
    · exact .rules hitems (readTransactions_returns_iff.mp ⟨ts, hts⟩) h
    · exact absurd h (not_silent_ok _)
  · intro h
    cases h with
    | transactions h => exact .inl h
    | date hitems h => exact .inr ⟨_, hitems, .inl h⟩
    | rules hitems hall h =>
      obtain ⟨ts, hts⟩ := readTransactions_returns_iff.mpr hall
      exact .inr ⟨_, hitems, .inr ⟨ts, hts, .inl h⟩⟩

/-- How a text can end the program. -/
inductive Breaks (cs : List Char) : Prop
  | integer {f : Text.IntegerFault} : Json.parseDocument cs = .error (.integer f) → Breaks cs
  | object {raw : Members} : Json.parseDocument cs = .ok (.map raw) → Derails raw → Breaks cs

theorem silent_read {cs : List Char} : Silent (read ids cs) ↔ Breaks cs := by
  unfold read
  split
  next f hparse =>
    refine iff_of_false (by simp [Silent, Context.dataEnding]) ?_
    intro h
    cases h with
    | integer h | object h => simp [hparse] at h
  next f hparse => exact iff_of_true ⟨_, rfl, fun _ => rfl⟩ (.integer hparse)
  next raw hparse =>
    rw [silent_ofMembers]
    refine ⟨.object hparse, ?_⟩
    intro h
    cases h with
    | integer h => simp [hparse] at h
    | object h hraw =>
      rw [hparse] at h
      obtain rfl := Value.map.inj (Except.ok.inj h)
      exact hraw
  next v hne hparse =>
    refine iff_of_false (by simp [Silent, Context.dataEnding]) ?_
    intro h
    cases h with
    | integer h => simp [hparse] at h
    | object h =>
      rw [hparse] at h
      exact hne _ (Except.ok.inj h)

/-- What was read is what the document lists, each item of it checked, and the dates are in universal
time. -/
structure Checked (f : DataFile) (cs : List Char) : Prop where
  document : Json.parseDocument cs = .ok (.map f.raw)
  transactions : ∃ items, listed f.raw "transactions" = .ok items ∧
    List.Forall₂ (fun v t => ∃ fresh, Transaction.validate .values fresh v = .ok t) items
      f.transactions
  rules : ∃ items, listed f.raw "rules" = .ok items ∧
    List.Forall₂ (fun v r => ∃ fresh, Rule.validate fresh v = .ok r) items f.rules
  offset : ∀ t ∈ f.transactions, t.date.offset = some 0

theorem checked_of_read {cs : List Char} {f : DataFile} (h : read ids cs = .ok f) :
    f.Checked cs := by
  have hsound := sound_of_read h
  unfold read at h
  split at h
  next => cases h
  next => cases h
  next raw hparse =>
    obtain ⟨items, hitems, h⟩ := bind_eq_ok.mp h
    obtain ⟨ts, hts, h⟩ := bind_eq_ok.mp h
    obtain ⟨ruleItems, hruleItems, h⟩ := bind_eq_ok.mp h
    obtain ⟨rs, hrs, h⟩ := bind_eq_ok.mp h
    obtain rfl := Except.ok.inj h
    exact ⟨hparse, ⟨items, hitems, checked_of_readTransactions hts⟩,
      ⟨ruleItems, hruleItems, checked_of_readRules hrs⟩,
      fun t ht => (hsound.transactions t ht).valid.date⟩
  next => cases h

theorem read_clean_iff {cs : List Char} (file : String) :
    ((∃ f, read ids cs = .ok f ∧ f.Checked cs) ∨
        ∃ fault c, read ids cs = .error fault ∧ Context.dataEnding file fault = .failed c) ↔
      ¬Breaks cs := by
  rw [← @silent_read ids]
  constructor
  · rintro (⟨f, hf, -⟩ | ⟨fault, c, hfault, hc⟩) ⟨silent, hsilent, hstopped⟩
    · rw [hf] at hsilent
      cases hsilent
    · rw [hfault] at hsilent
      obtain rfl := Except.error.inj hsilent
      rw [hstopped] at hc
      cases hc
  · intro h
    rcases complaint_of_not_silent h file with ⟨f, hf⟩ | hfault
    · exact .inl ⟨f, hf, checked_of_read hf⟩
    · exact .inr hfault

end DataFile

namespace Context

theorem readTransaction_wordless_iff (ctx : Context) (text : String) :
    (∃ failure, ctx.readTransaction text = .error failure ∧ failure.Wordless) ↔
      ∃ v, Json.parseRecord text.toList = .ok v ∧ v.OffCalendar .json := by
  unfold readTransaction
  cases Json.parseRecord text.toList with
  | error f => simp [RecordFailure.Wordless]
  | ok v => simp [Transaction.validate_wordless_iff]

theorem valid_of_readTransaction {ctx : Context} {text : String} {t : Transaction}
    (h : ctx.readTransaction text = .ok t) : t.Valid := by
  unfold readTransaction at h
  split at h
  next => exact Transaction.valid_of_validate h
  next => cases h

theorem evaluate_clean_iff [Pattern.Engine] (ctx : Context) (d : Directory) (rule text : String) :
    ((∃ t, ctx.readTransaction text = .ok t ∧ t.Valid) ∨
        ∃ faults, ctx.evaluate d rule text = ⟨.failed (.badTransaction faults), [], d⟩) ↔
      ¬∃ v, Json.parseRecord text.toList = .ok v ∧ v.OffCalendar .json := by
  rw [← readTransaction_wordless_iff, evaluate]
  cases hread : ctx.readTransaction text with
  | ok t => exact iff_of_true (.inl ⟨t, rfl, valid_of_readTransaction hread⟩) (by simp)
  | error failure =>
    cases failure with
    | invalid faults =>
      exact iff_of_true (.inr ⟨faults, rfl⟩) (by simp [RecordFailure.Wordless])
    | dateRange | yearZero => simp [RecordFailure.Wordless]

end Context

/-- Loading a file, and reading a transaction that stands on the command line, gives checked records or
a complaint of what is wrong, and nothing else, unless the text is one of those that end the
program. -/
theorem loading_clean_iff [Pattern.Engine] (ctx : Context) (d : Directory) (file rule text : String)
    (cs : List Char) :
    (((∃ f, DataFile.read ctx.ids cs = .ok f ∧ f.Checked cs) ∨
        ∃ fault c, DataFile.read ctx.ids cs = .error fault ∧
          Context.dataEnding file fault = .failed c) ↔ ¬DataFile.Breaks cs) ∧
      (((∃ t, ctx.readTransaction text = .ok t ∧ t.Valid) ∨
          ∃ faults, ctx.evaluate d rule text = ⟨.failed (.badTransaction faults), [], d⟩) ↔
        ¬∃ v, Json.parseRecord text.toList = .ok v ∧ v.OffCalendar .json) :=
  ⟨DataFile.read_clean_iff file, ctx.evaluate_clean_iff d rule text⟩

def earlyText : String :=
  "\x7b\"merchant\": \"Bank\", \"amount\": 1, \"account\": \"Cash\"," ++
    " \"date\": \"0001-01-01T00:00:00+05:00\"\x7d"

open scoped Pattern.Builtin in
theorem null_transactions_stop :
    (∃ fault, DataFile.read (fun _ => "id") "\x7b\"transactions\": null\x7d".toList = .error fault ∧
        Context.dataEnding "data.json" fault = .stopped) ∧
      (Context.evaluate ⟨fun _ => Clock.unlimited, fun _ => "id", []⟩ ⟨[]⟩
        "transaction.amount > 0 -> Food" earlyText).ending = .stopped := by
  refine ⟨⟨.notListed, rfl, rfl⟩, ?_⟩
  decide +kernel

end CommandLine

end LedgerRules
