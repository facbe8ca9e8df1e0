import LedgerRules.CommandLine.Run
import LedgerRules.Proofs.CivilDates
import LedgerRules.Proofs.JsonSpread
import LedgerRules.Proofs.RuleCategories
import LedgerRules.Proofs.TreeKeys
import LedgerRules.Proofs.Typing

/-! A data file that is written is read as what was written. The records of a file come out of a
document, so their amounts and dates are such as their texts give back, and the trees of the rules
hold only what documents hold. -/

namespace LedgerRules
open Numeric Calendar
open Json (Readable)

namespace Record

theorem finiteOnly_eq_ok {o : Option Decimal} {d : Decimal} (h : finiteOnly o = .ok d) :
    o = some d := by
  unfold finiteOnly at h
  split at h
  next => simp at h
  next =>
    split at h
    next => rw [Except.ok.inj h]
    next => simp at h

theorem parse?_of_readDecimal {v : Value} {d : Decimal} (hv : Readable v)
    (h : readDecimal .values v = .ok d) : Decimal.parse? d.toChars = some d := by
  have hfinite := isFinite_of_readDecimal h
  cases hv with
  | null | bool | list | map => simp [readDecimal] at h
  | @int i hi =>
    obtain rfl := Except.ok.inj h
    exact Decimal.parse?_toChars _ (Decimal.fits_of_digitCount hi (by decide))
  | text s => exact Decimal.parse?_toChars_of_parse? (finiteOnly_eq_ok h) hfinite
  | @float x hx =>
    have hsome : floatDecimal .values x = some x.toDecimal := by cases x <;> rfl
    rw [readDecimal, hsome] at h
    obtain rfl := Option.some.inj (finiteOnly_eq_ok h)
    unfold Binary64.toDecimal at hfinite ⊢
    cases hparse : Decimal.parse? x.toChars with
    | none => simp [hparse, Decimal.isFinite] at hfinite
    | some d =>
      rw [hparse] at hfinite
      exact Decimal.parse?_toChars_of_parse? hparse hfinite

theorem readMoment_dateText {t : Transaction} (h : t.Valid) (origin : Origin) :
    readMoment origin (.text t.dateText) = .ok t.date := by
  rw [readMoment, Transaction.dateText, Timestamp.read_text h.date]
  rfl

end Record

namespace Transaction

structure Spelled (t : Transaction) : Prop where
  valid : t.Valid
  amount : Decimal.parse? t.amount.toChars = some t.amount

theorem spelled_of_validate {fresh : String} {v : Value} {t : Transaction} (hv : Readable v)
    (h : Transaction.validate .values fresh v = .ok t) : t.Spelled := by
  refine ⟨valid_of_validate h, ?_⟩
  cases hv with
  | null | bool | int | float | text | list => simp [validate] at h
  | @map ms _ hms =>
    unfold validate ofMembers at h
    dsimp only at h
    split at h
    next => simp at h
    next date _ =>
      split at h
      next hamount _ _ _ =>
        obtain rfl := Except.ok.inj h
        obtain ⟨w, hget, hw⟩ := Record.member_eq_ok hamount
        exact Record.parse?_of_readDecimal (hms _ (Tree.mem_of_get? hget)) hw
      next => simp at h

theorem readDate_dump {t : Transaction} (h : t.Valid) (origin : Origin) :
    readDate origin t.dump = .ok (.ok t.date) := by
  have hget : t.dump.get? "date" = some (.text t.dateText) := rfl
  rw [readDate, hget]
  simp only [Record.readMoment_dateText h, Moment.toUtc?_of_offset h.date]

theorem readAmount_dump {t : Transaction} (h : t.Spelled) (origin : Origin) :
    Record.member t.dump "amount" none (Record.readDecimal origin) = .ok t.amount := by
  have hget : t.dump.get? "amount" = some (.text t.amount.text) := rfl
  rw [Record.member, hget]
  simp [Record.readDecimal, Decimal.text, h.amount, Record.finiteOnly, h.valid.amount,
    Except.mapError]

theorem validate_dump {t : Transaction} (h : t.Spelled) (origin : Origin) (fresh : String) :
    Transaction.validate origin fresh (.map t.dump) = .ok t := by
  rw [validate, ofMembers, readDate_dump h.valid, readAmount_dump h]
  rfl

theorem dump_readable (t : Transaction) : Readable (.map t.dump) := by
  refine .map (by simp [dump]) ?_
  simp only [dump, List.forall_mem_cons, List.not_mem_nil, false_imp_iff, implies_true, and_true]
  exact ⟨.text _, .text _, .text _, .text _, .text _, .text _⟩

end Transaction

namespace Rule

theorem validate_dump (r : Rule) (fresh : String) : Rule.validate fresh (.map r.dump) = .ok r := by
  have hid : (deriveCategory r.dump).get? "id" = some (.text r.id) :=
    get?_deriveCategory r.dump (by decide)
  have hdefinition : (deriveCategory r.dump).get? "ruleDefinition" = some r.definition.toValue :=
    get?_deriveCategory r.dump (by decide)
  have hcategory : (deriveCategory r.dump).get? "newCategory" =
      some ((r.newCategory.map Value.text).getD .null) :=
    get?_deriveCategory r.dump (by decide)
  have hread : readDefinition (deriveCategory r.dump) = .ok r.definition := by
    rw [readDefinition, either, hdefinition]
    cases r.definition <;> rfl
  have hgiven : readCategory (deriveCategory r.dump) = .ok r.newCategory := by
    rw [readCategory, either, hcategory]
    cases r.newCategory <;> rfl
  rw [validate, ofMembers, hread, hgiven, Record.member, hid]
  rfl

theorem mem_of_either {ms : Members} {name other found : String} {v : Value}
    (h : either ms name other = some (found, v)) : ∃ key ∈ [name, other], ms.get? key = some v := by
  unfold either at h
  split at h
  next w hw =>
    obtain ⟨-, rfl⟩ := Prod.mk.inj (Option.some.inj h)
    exact ⟨name, by simp, hw⟩
  next =>
    obtain ⟨w, hw, heq⟩ := Option.map_eq_some_iff.mp h
    obtain ⟨-, rfl⟩ := Prod.mk.inj heq
    exact ⟨other, by simp, hw⟩

theorem readable_of_validate {fresh : String} {v : Value} {r : Rule} (hv : Readable v)
    (h : Rule.validate fresh v = .ok r) : Readable r.definition.toValue := by
  cases hv with
  | null | bool | int | float | text | list => simp [validate] at h
  | @map ms _ hms =>
    unfold validate ofMembers at h
    dsimp only at h
    split at h
    next id definition category _ hdefinition _ =>
      obtain rfl := Except.ok.inj h
      unfold readDefinition at hdefinition
      split at hdefinition
      next =>
        obtain rfl := Except.ok.inj hdefinition
        exact .text _
      next tree heither =>
        obtain rfl := Except.ok.inj hdefinition
        obtain ⟨key, hkey, hget⟩ := mem_of_either heither
        rw [get?_deriveCategory ms (by rintro rfl; simp at hkey)] at hget
        exact hms _ (Tree.mem_of_get? hget)
      next => simp at hdefinition
      next => simp at hdefinition
    next => simp at h

theorem dump_readable {r : Rule} (h : Readable r.definition.toValue) : Readable (.map r.dump) := by
  have hcategory : Readable ((r.newCategory.map Value.text).getD .null) := by
    cases r.newCategory with
    | none => exact .null
    | some s => exact .text s
  refine .map (by simp [dump]) ?_
  simp only [dump, List.forall_mem_cons, List.not_mem_nil, false_imp_iff, implies_true, and_true]
  exact ⟨.text _, h, hcategory⟩

end Rule

namespace Json

theorem charText_noReturn (c : Char) : '\r' ∉ charText false c := by
  have hcontrol : ∀ n < 0x20, '\r' ∉ unitEscape n := by decide
  unfold charText
  split
  next e he =>
    have hescape : e ≠ '\r' := by
      unfold shortEscape? at he
      split at he <;> simp only [Option.some.injEq, reduceCtorEq] at he <;> subst he <;> decide
    simp [Ne.symm hescape]
  next hplain =>
    split
    next h => exact hcontrol _ h
    next =>
      have hne : '\r' ≠ c := by rintro rfl; simp [shortEscape?] at hplain
      simp [hne]

theorem textChars_noReturn (cs : List Char) : '\r' ∉ textChars false cs := by
  simpa [textChars] using fun c _ => charText_noReturn c

theorem numeral_noReturn (negative : Bool) (x : Numeral) :
    '\r' ∉ Decimal.signText negative ++ x.chars := by
  intro h
  rcases List.mem_append.mp h with h | h
  · cases negative <;> simp [Decimal.signText] at h
  · exact absurd (x.chars_numeral _ h) (by decide)

theorem joined_noReturn (separator : List Char) (hs : '\r' ∉ separator)
    {pieces : List (List Char)} (h : ∀ p ∈ pieces, '\r' ∉ p) : '\r' ∉ joined separator pieces := by
  induction pieces with
  | nil => exact List.not_mem_nil
  | cons p pieces ih =>
    obtain ⟨hp, hpieces⟩ := List.forall_mem_cons.mp h
    cases pieces with
    | nil => exact hp
    | cons q pieces =>
      rw [joined, List.mem_append, List.mem_append]
      · simp [hp, hs, ih hpieces]
      · simp

theorem bracketed_noReturn {opening closing : Char} (ho : '\r' ≠ opening) (hc : '\r' ≠ closing)
    (depth : Nat) {pieces : List (List Char)} (h : ∀ p ∈ pieces, '\r' ∉ p) :
    '\r' ∉ bracketed opening closing depth pieces := by
  have hline (depth : Nat) : '\r' ∉ newLine depth := by simp [newLine]
  have hjoined := joined_noReturn (',' :: newLine (depth + 1)) (by simp [hline]) h
  unfold bracketed
  split
  · simp [ho, hc]
  · simp [ho, hc, hline, hjoined]

theorem Leaf.noReturn {v : Value} {cs : List Char} (h : Leaf v cs) : '\r' ∉ cs := by
  have hword : ∀ w ∈ words, '\r' ∉ w.1.toList := by decide
  cases h with
  | word hw => exact hword _ hw
  | number => exact numeral_noReturn _ _
  | quoted s => exact textChars_noReturn s.toList

theorem spread_noReturn {v : Value} (h : Readable v) (depth : Nat) : '\r' ∉ spread depth v := by
  induction h using Readable.spread_induction generalizing depth with
  | leaf v _ hleaf => exact (hleaf depth).noReturn
  | list items _ ih =>
    rw [spread, spreadItems_eq]
    refine bracketed_noReturn (by decide) (by decide) depth fun p hp => ?_
    obtain ⟨v, hv, rfl⟩ := List.mem_map.mp hp
    exact ih v hv _
  | map members _ _ ih =>
    rw [spread, spreadMembers_eq]
    refine bracketed_noReturn (by decide) (by decide) depth fun p hp => ?_
    obtain ⟨m, hm, rfl⟩ := List.mem_map.mp hp
    simp [spreadMember, textChars_noReturn, ih m hm]

end Json

namespace CommandLine

namespace Directory

theorem uniformLines_eq {cs : List Char} (h : '\r' ∉ cs) : uniformLines cs = cs := by
  induction cs with
  | nil => rfl
  | cons c cs ih =>
    rw [List.mem_cons, not_or] at h
    rw [uniformLines, ih h.2]
    · rintro rest rfl
      simp at h
    · rintro rfl
      simp at h

theorem lookup_replaced {files : List (String × Content)} {name : String}
    (h : (files.lookup name).isSome) (c : Content) :
    (files.map fun f => if f.1 = name then (name, c) else f).lookup name = some c := by
  induction files with
  | nil => simp at h
  | cons f files ih =>
    by_cases hf : f.1 = name
    · simp [hf]
    · have hne : (name == f.1) = false := by simpa using Ne.symm hf
      rw [List.lookup_cons, hne] at h
      rw [List.map_cons, if_neg hf, List.lookup_cons, hne]
      exact ih h

theorem get?_put (d : Directory) (name : String) (c : Content) :
    (d.put name c).get? name = some c := by
  unfold put
  split
  next hold => exact lookup_replaced hold c
  next hnew =>
    have hnone : d.files.lookup name = none := Option.not_isSome_iff_eq_none.mp hnew
    rw [get?, List.lookup_append, hnone]
    simp

theorem text_of_target {d : Directory} {file : FileName} {name : String}
    (h : d.target file = .file name) (hd : (d.get? name).isSome) : file.text = name := by
  unfold target at h
  split at h
  next => exact Target.file.inj h
  next hnone =>
    split at h
    next => split at h <;> simp at h
    next hroot =>
      split at h
      next => simp at h
      next step hsteps =>
        have htext : file.text = step := by simp [FileName.text, hroot, hsteps]
        split at h
        next => simp at h
        next =>
          obtain rfl := Target.file.inj h
          exact htext
      next => split at h <;> simp at h

end Directory

namespace Context

theorem readFile_writeFile {d : Directory} {file : FileName} {name : String} {text : List Char}
    (h : readFile d file = .ok (name, text)) (cs : List Char) :
    readFile (writeFile name cs d) file = .ok (name, Directory.uniformLines cs) := by
  have hname : file.text = name := by
    unfold readFile at h
    split at h
    next found htarget =>
      split at h
      all_goals simp only [Except.ok.injEq, Prod.mk.injEq, reduceCtorEq] at h
      all_goals
        obtain ⟨rfl, -⟩ := h
        exact Directory.text_of_target htarget (by simp [*])
    all_goals simp at h
  have hget : (writeFile name cs d).get? name = some (.text (String.ofList cs)) :=
    Directory.get?_put _ _ _
  have htarget : (writeFile name cs d).target file = .file name := by
    rw [Directory.target, hname, hget]
    rfl
  rw [readFile, htarget]
  simp [hget]

end Context

namespace DataFile

structure Sound (f : DataFile) : Prop where
  raw : Readable (.map f.raw)
  transactions : ∀ t ∈ f.transactions, t.Spelled
  rules : ∀ r ∈ f.rules, Readable r.definition.toValue

theorem listed_readable {raw : Members} (hraw : Readable (.map raw)) {name : String}
    {items : List Value} (h : listed raw name = .ok items) : ∀ v ∈ items, Readable v := by
  cases hraw with
  | map hkeys hmembers =>
    unfold listed at h
    split at h
    next =>
      obtain rfl := Except.ok.inj h
      simp
    next hget =>
      obtain rfl := Except.ok.inj h
      cases hmembers _ (Tree.mem_of_get? hget) with
      | list hitems => exact hitems
    next =>
      obtain rfl := Except.ok.inj h
      exact List.forall_mem_map.mpr fun m _ => .text m.1
    next =>
      obtain rfl := Except.ok.inj h
      exact List.forall_mem_map.mpr fun c _ => .text c.toString
    next => simp at h

theorem spelled_of_readTransactions {ids : Nat → String} {vs : List Value} {ts : List Transaction}
    (hvs : ∀ v ∈ vs, Readable v) (h : readTransactions ids vs = .ok ts) :
    ∀ t ∈ ts, t.Spelled := by
  induction vs generalizing ids ts with
  | nil =>
    obtain rfl := Except.ok.inj h
    simp
  | cons v vs ih =>
    obtain ⟨hv, hvs⟩ := List.forall_mem_cons.mp hvs
    unfold readTransactions at h
    split at h
    next => simp at h
    next => simp at h
    next t ht =>
      obtain ⟨rest, hrest, rfl⟩ := Reapply.map_eq_ok.mp h
      exact List.forall_mem_cons.mpr ⟨Transaction.spelled_of_validate hv ht, ih hvs hrest⟩

theorem readable_of_readRules {ids : Nat → String} {vs : List Value} {rs : List Rule}
    (hvs : ∀ v ∈ vs, Readable v) (h : readRules ids vs = .ok rs) :
    ∀ r ∈ rs, Readable r.definition.toValue := by
  induction vs generalizing ids rs with
  | nil =>
    obtain rfl := Except.ok.inj h
    simp
  | cons v vs ih =>
    obtain ⟨hv, hvs⟩ := List.forall_mem_cons.mp hvs
    unfold readRules at h
    split at h
    next => simp at h
    next r hr =>
      obtain ⟨rest, hrest, rfl⟩ := Reapply.map_eq_ok.mp h
      exact List.forall_mem_cons.mpr ⟨Rule.readable_of_validate hv hr, ih hvs hrest⟩

theorem sound_of_read {ids : Nat → String} {cs : List Char} {f : DataFile}
    (h : read ids cs = .ok f) : f.Sound := by
  unfold read at h
  split at h
  next => simp at h
  next => simp at h
  next raw hparse =>
    have hraw : Readable (.map raw) := Json.readable_of_parse hparse
    obtain ⟨items, hitems, h⟩ := bind_eq_ok.mp h
    obtain ⟨ts, hts, h⟩ := bind_eq_ok.mp h
    obtain ⟨ruleItems, hruleItems, h⟩ := bind_eq_ok.mp h
    obtain ⟨rs, hrs, h⟩ := bind_eq_ok.mp h
    obtain rfl := Except.ok.inj h
    exact ⟨hraw, spelled_of_readTransactions (listed_readable hraw hitems) hts,
      readable_of_readRules (listed_readable hraw hruleItems) hrs⟩
  next => simp at h

theorem readTransactions_dump {ts : List Transaction} (h : ∀ t ∈ ts, t.Spelled)
    (ids : Nat → String) : readTransactions ids (ts.map fun t => .map t.dump) = .ok ts := by
  induction ts generalizing ids with
  | nil => rfl
  | cons t ts ih =>
    obtain ⟨ht, hts⟩ := List.forall_mem_cons.mp h
    rw [List.map_cons, readTransactions, Transaction.validate_dump ht, ih hts]
    rfl

theorem readRules_dump (rs : List Rule) (ids : Nat → String) :
    readRules ids (rs.map fun r => .map r.dump) = .ok rs := by
  induction rs generalizing ids with
  | nil => rfl
  | cons r rs ih =>
    rw [List.map_cons, readRules, Rule.validate_dump, ih]
    rfl

namespace Sound

variable {f : DataFile}

theorem members_readable (h : f.Sound) : Readable (.map f.members) := by
  cases h.raw with
  | map hkeys hmembers =>
    refine .map (Members.nodup_set (Members.nodup_set hkeys _ _) _ _) fun m hm => ?_
    rcases Members.mem_set hm with rfl | hm
    · exact .list (List.forall_mem_map.mpr fun r hr => Rule.dump_readable (h.rules r hr))
    rcases Members.mem_set hm with rfl | hm
    · exact .list (List.forall_mem_map.mpr fun t _ => t.dump_readable)
    · exact hmembers m hm

theorem ofMembers_members (h : f.Sound) (ids : Nat → String) :
    ofMembers ids f.members = .ok { f with raw := f.members } := by
  have hrules : f.members.get? "rules" = some (.list (f.rules.map fun r => .map r.dump)) :=
    Members.get?_set_self _ _ _
  have htransactions : f.members.get? "transactions" =
      some (.list (f.transactions.map fun t => .map t.dump)) :=
    (Members.get?_set_other _ _ (by decide)).trans (Members.get?_set_self _ _ _)
  simp [ofMembers, listed, hrules, htransactions, readTransactions_dump h.transactions,
    readRules_dump, bind, Except.bind, pure, Except.pure]

theorem read_write (h : f.Sound) (ids : Nat → String) :
    read ids f.write = .ok { f with raw := f.members } := by
  rw [read, write, Json.parseDocument_spread h.members_readable]
  exact h.ofMembers_members ids

theorem uniformLines_write (h : f.Sound) : Directory.uniformLines f.write = f.write := by
  refine Directory.uniformLines_eq ?_
  simpa [write] using Json.spread_noReturn h.members_readable 0

theorem withCategories (h : f.Sound) (set : Reapply.Assignments) : (f.withCategories set).Sound := by
  refine ⟨h.raw, fun t ht => ?_, h.rules⟩
  obtain ⟨⟨s, n⟩, hs, rfl⟩ := List.mem_map.mp ht
  have hspelled := h.transactions s (List.fst_mem_of_mem_zipIdx hs)
  dsimp only
  split
  next => exact ⟨⟨hspelled.valid.amount, hspelled.valid.date⟩, hspelled.amount⟩
  next => exact hspelled

end Sound

/-- Written to its file, the data is what the next reader of the file finds there, whatever ids this
reader has for records without one. -/
def ReadBack (d : Directory) (file : FileName) (name : String) (f : DataFile) : Prop :=
  ∀ ids, ∃ text g, Context.readFile (Context.writeFile name f.write d) file = .ok (name, text) ∧
    read ids text = .ok g ∧ g.transactions = f.transactions ∧ g.rules = f.rules ∧
      ∀ key, key ≠ "transactions" → key ≠ "rules" → g.raw.get? key = f.raw.get? key

theorem Sound.readBack {f : DataFile} (h : f.Sound) {d : Directory} {file : FileName}
    {name : String} {text : List Char} (hfile : Context.readFile d file = .ok (name, text)) :
    f.ReadBack d file name := by
  intro ids
  have hwritten := Context.readFile_writeFile hfile f.write
  rw [h.uniformLines_write] at hwritten
  refine ⟨f.write, _, hwritten, h.read_write ids, rfl, rfl, fun key htransactions hrules => ?_⟩
  show f.members.get? key = f.raw.get? key
  rw [members, Members.get?_set_other _ _ hrules, Members.get?_set_other _ _ htransactions]

theorem subjects_withCategories (f : DataFile) (pass : Pass) :
    (f.withCategories pass.set).transactions.map .transaction =
      pass.subjects (places (f.transactions.map .transaction)) := by
  simp only [withCategories, Pass.subjects, places, List.zipIdx_map, List.map_map]
  refine List.map_congr_left fun p _ => ?_
  obtain ⟨t, n⟩ := p
  cases hset : pass.set.lookup n <;> simp [Reapply.Place.now, Subject.setCategory, hset]

/-- Data that was read from a file can be written to it and read again with nothing lost: the
transactions and the rules stay as they are, and so does every other member. The same holds of the
data as a pass leaves it. -/
theorem data_read_back {d : Directory} {file : FileName} {name : String} {text : List Char}
    {ids : Nat → String} {f : DataFile} (hfile : Context.readFile d file = .ok (name, text))
    (hread : read ids text = .ok f) :
    f.ReadBack d file name ∧ ∀ pass : Pass, (f.withCategories pass.set).ReadBack d file name ∧
      (f.withCategories pass.set).transactions.map .transaction =
        pass.subjects (places (f.transactions.map .transaction)) := by
  have hsound := sound_of_read hread
  exact ⟨hsound.readBack hfile, fun pass =>
    ⟨(hsound.withCategories pass.set).readBack hfile, f.subjects_withCategories pass⟩⟩

def groceries : List Char :=
  ["\x7b\"note\": [1.5],", "\"transactions\": [\x7b", "\"merchant\": \"Grocer\",",
    "\"amount\": \"12.50\",", "\"account\": \"cash\",", "\"date\": \"2024-03-01T",
    "10:00:00+02:00\"\x7d],", "\"rules\": [\x7b", "\"ruleDefinition\": ",
    "\"amount > 10 -> Food\"", "\x7d]\x7d"].flatMap String.toList

theorem data_read_back_groceries :
    let d : Directory := ⟨[("data.json", .text (String.ofList groceries))]⟩
    let file : FileName := ⟨false, ["data.json"]⟩
    let food : Pass := ⟨.ok ["first"], [(0, "Food")], .empty, []⟩
    ∃ text f, Context.readFile d file = .ok ("data.json", text) ∧
      read (fun n => if n = 0 then "first" else "second") text = .ok f ∧
      f.transactions.map (fun t => (t.id, t.amount.text)) = [("first", "12.50")] ∧
      f.ReadBack d file "data.json" ∧ (f.withCategories food.set).ReadBack d file "data.json" := by
  intro d file food
  have hfile : Context.readFile d file =
      .ok ("data.json", Directory.uniformLines (String.ofList groceries).toList) := rfl
  have hresult : (read (fun n => if n = 0 then "first" else "second")
      (Directory.uniformLines groceries)).toOption.map
        (·.transactions.map fun t => (t.id, t.amount.text)) = some [("first", "12.50")] := by
    decide +kernel
  rw [String.toList_ofList] at hfile
  cases hread : read (fun n => if n = 0 then "first" else "second")
      (Directory.uniformLines groceries) with
  | error fault => simp [hread, Except.toOption] at hresult
  | ok f =>
    rw [hread] at hresult
    obtain ⟨hsame, hpass⟩ := data_read_back hfile hread
    exact ⟨_, f, hfile, hread, Option.some.inj hresult, hsame, (hpass food).1⟩

end DataFile

end CommandLine

end LedgerRules
