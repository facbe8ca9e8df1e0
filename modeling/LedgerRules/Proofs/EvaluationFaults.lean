import LedgerRules.Pattern.Builtin
import LedgerRules.Proofs.AlikeExpressions
import LedgerRules.Proofs.Typing
import LedgerRules.Rule.Subject

/-! Which faults a condition can end with on an arbitrary record. All but two kinds are faults of
the rule or of its time. The two others come from beneath: an equality that meets a signaling
not-a-number, and a date that universal time puts outside the calendar. Both need a value of the
record for it, so whether a record is safe from them, under all conditions, can be read off the
record. -/

namespace LedgerRules
open Numeric

def EvalFault.isOwn : EvalFault → Bool
  | .rule _ => true
  | .timeout _ => true
  | .signaling => false
  | .dateRange => false

namespace Eval
variable {α β : Type} {x : Eval α} {P : α → Prop} {Q : EvalFault → Prop} {R : β → Prop}

def Ends (x : Eval α) (P : α → Prop) (Q : EvalFault → Prop) : Prop :=
  ∀ n, (∀ a, (x n).1 = .ok a → P a) ∧ ∀ f, (x n).1 = .error f → Q f

theorem Ends.value {a : α} (h : P a) : Ends (value a) P Q := by
  intro n
  refine ⟨fun b hb => ?_, nofun⟩
  obtain rfl := Except.ok.inj hb
  exact h

theorem Ends.fault {f : EvalFault} (h : Q f) : Ends (fault f) P Q := by
  intro n
  refine ⟨nofun, fun g hg => ?_⟩
  obtain rfl := Except.error.inj hg
  exact h

theorem Ends.weaken {Q' : EvalFault → Prop} (hx : Ends x P Q) (hQ : ∀ f, Q f → Q' f) :
    Ends x P Q' := fun n => ⟨(hx n).1, fun f hf => hQ f ((hx n).2 f hf)⟩

theorem Ends.andThen {f : α → Eval β} (hx : Ends x P Q) (hf : ∀ a, P a → Ends (f a) R Q) :
    Ends (andThen x f) R Q := by
  intro n
  obtain ⟨hvalue, hfault⟩ := hx n
  unfold Eval.andThen
  split
  next a n' ha =>
    rw [ha] at hvalue
    exact hf a (hvalue a rfl) n'
  next e n' he =>
    rw [he] at hfault
    refine ⟨nofun, fun g hg => ?_⟩
    obtain rfl := Except.error.inj hg
    exact hfault _ rfl

theorem Ends.look (clock : Clock) : Ends (look clock) (fun _ => True) Q :=
  fun _ => ⟨fun _ _ => trivial, nofun⟩

theorem Ends.check (clock : Clock) (hown : ∀ f : EvalFault, f.isOwn = true → Q f) :
    Ends (check clock) (fun _ => True) Q := by
  refine (Ends.look clock).andThen fun r _ => ?_
  split
  · exact .fault (hown _ rfl)
  · exact .value trivial

theorem Ends.part {x : Eval Value} {P : Value → Prop} {clock : Clock} (within : Option Join)
    (hown : ∀ f : EvalFault, f.isOwn = true → Q f) (h : Ends x P Q) :
    Ends (Expr.evalWithin.part clock within x) P Q := by
  cases within with
  | none => exact h
  | some _ => exact (Ends.check clock hown).andThen fun _ _ => h

end Eval

open Eval

theorem Value.strictEquals_signals {v w : Value} (h : v.strictEquals w = .error .signaling) :
    (∃ a b, v.number? = some a ∧ w.number? = some b ∧
        (a.isSignaling = true ∨ b.isSignaling = true)) ∨
      v.isCollection = true ∧ w.isCollection = true := by
  unfold strictEquals at h
  split at h
  next a b ha hb =>
    unfold decimalEquals at h
    split at h
    next hs => exact .inl ⟨a, b, ha, hb, by simpa using hs⟩
    next => simp at h
  next =>
    split at h <;> first
      | exact .inr ⟨rfl, rfl⟩
      | simp at h

theorem Value.isCollection_of_number? {v : Value} {d : Decimal} (h : v.number? = some d) :
    v.isCollection = false := by
  cases v <;> first
    | rfl
    | simp [number?] at h

theorem DatePart.eval_eq_outOfRange {p : DatePart} {v : Value} :
    p.eval v = .error .outOfRange ↔ v.toUtc = .error .outOfRange := by
  unfold DatePart.eval
  cases hv : v.toUtc with
  | error f => simp
  | ok t =>
    obtain ⟨u, hu⟩ := t.date.thursday?_isSome
    cases p <;> simp [DatePart.ofDate, Calendar.Date.weekNumber?, hu]

namespace Expr

/-- What an expression can have as its value on a record: a field what stands there, anything else
what it has computed itself. -/
def Gives (record : FieldValues) : Expr → Value → Prop
  | .field f, v => record f = some v
  | _, v => ∃ τ, v.OfType τ

/-- A part that asks of the values of a record what they cannot give. -/
inductive Clashes (record : FieldValues) : Expr → EvalFault → Prop
  | number {op : CompareOp} {l r : Expr} {f : Field} {v : Value} {d : Decimal} :
      op.isOrdering = false → l = .field f ∨ r = .field f → record f = some v →
      v.number? = some d → d.isSignaling = true → Clashes record (.compare op l r) .signaling
  | collection {op : CompareOp} {f g : Field} {v w : Value} :
      op.isOrdering = false → f ≠ g → record f = some v → record g = some w →
      v.isCollection = true → v.strictEquals w = .error .signaling →
      Clashes record (.compare op (.field f) (.field g)) .signaling
  | date {part : DatePart} {v : Value} : record .date = some v → v.toUtc = .error .outOfRange →
      Clashes record (.datePart part (.field .date)) .dateRange

def ClashesOnly (record : FieldValues) (Q : EvalFault → Prop) (e : Expr) : Prop :=
  ∀ part f, Part e part → part.Clashes record f → Q f

variable {record : FieldValues} {e l r : Expr} {v w : Value}

theorem ClashesOnly.argument {Q : EvalFault → Prop} {a : Expr} (h : e.ClashesOnly record Q)
    (ha : a ∈ e.arguments) : a.ClashesOnly record Q :=
  fun part f hp => h part f (.inner ha hp)

theorem Gives.field_or_plain (h : e.Gives record v) :
    (∃ f, e = .field f ∧ record f = some v) ∨ ∃ τ, v.OfType τ := by
  cases e with
  | field f => exact .inl ⟨f, rfl, h⟩
  | _ => exact .inr h

theorem Gives.field_of_isCollection (h : e.Gives record v) (hv : v.isCollection = true) :
    ∃ f, e = .field f ∧ record f = some v := by
  rcases h.field_or_plain with hfield | ⟨τ, hτ⟩
  · exact hfield
  · simp [hτ.isCollection] at hv

theorem Gives.field_of_isSignaling {d : Decimal} (h : e.Gives record v) (hv : v.number? = some d)
    (hd : d.isSignaling = true) : ∃ f, e = .field f ∧ record f = some v := by
  rcases h.field_or_plain with hfield | ⟨τ, hτ⟩
  · exact hfield
  · cases hτ with
    | int i =>
      obtain rfl := Option.some.inj hv
      simp [Decimal.ofInt, Decimal.isSignaling] at hd
    | decimal hnan =>
      obtain rfl := Option.some.inj hv
      simp [Decimal.isSignaling_of_isNan hnan] at hd
    | _ => simp [Value.number?] at hv

theorem eq_field_of_type_date (h : e.type = .date) : e = .field .date := by
  cases e with
  | field f => cases f <;> simp_all [type, Field.type]
  | datePart p argument => cases p <;> simp [type, DatePart.type] at h
  | _ => simp [type] at h

theorem evalEquality_error {f : EvalFault} (h : evalEquality v w = .error f) :
    f = .signaling ∧ v.strictEquals w = .error .signaling := by
  unfold evalEquality at h
  split at h
  next => simp at h
  next hs => exact ⟨(Except.error.inj h).symm, hs⟩

theorem evalCompare_error {op : CompareOp} {f : EvalFault} (h : evalCompare op v w = .error f) :
    f.isOwn = true ∨
      f = .signaling ∧ op.isOrdering = false ∧ v.strictEquals w = .error .signaling := by
  cases op with
  | same => exact .inr ((evalEquality_error h).imp_right fun hs => ⟨rfl, hs⟩)
  | different =>
    have hequal : evalEquality v w = .error f := by
      cases he : evalEquality v w <;> simp_all [evalCompare, Except.map]
    exact .inr ((evalEquality_error hequal).imp_right fun hs => ⟨rfl, hs⟩)
  | _ =>
    left
    simp only [evalCompare] at h
    repeat' split at h
    all_goals first
      | (obtain rfl := Except.error.inj h; rfl)
      | simp at h

theorem evalOperands_error {op : CompareOp} {f : EvalFault} (hl : l.Gives record v)
    (hr : r.Gives record w) (h : evalOperands op l r v w = .error f) :
    f.isOwn = true ∨ (Expr.compare op l r).Clashes record f := by
  unfold evalOperands at h
  split at h
  next => simp at h
  next hitself =>
    rcases evalCompare_error h with hown | ⟨rfl, hop, hs⟩
    · exact .inl hown
    · right
      rcases Value.strictEquals_signals hs with ⟨a, b, ha, hb, hsignaling⟩ | ⟨hv, hw⟩
      · rcases hsignaling with hsignaling | hsignaling
        · obtain ⟨f, hf, hrecord⟩ := hl.field_of_isSignaling ha hsignaling
          exact .number hop (.inl hf) hrecord ha hsignaling
        · obtain ⟨f, hf, hrecord⟩ := hr.field_of_isSignaling hb hsignaling
          exact .number hop (.inr hf) hrecord hb hsignaling
      · obtain ⟨f, rfl, hf⟩ := hl.field_of_isCollection hv
        obtain ⟨g, rfl, hg⟩ := hr.field_of_isCollection hw
        have hfg : f ≠ g := by simpa [readsSame, hv, hop] using hitself
        exact .collection hop hfg hf hg hv hs

theorem evalOperands_ends {op : CompareOp} (hl : l.Gives record v) (hr : r.Gives record w) :
    Ends (ofExcept ((evalOperands op l r v w).map Value.bool)) (fun u => ∃ τ, u.OfType τ) fun f =>
      f.isOwn = true ∨ (Expr.compare op l r).Clashes record f := by
  cases h : evalOperands op l r v w with
  | ok b => exact .value ⟨_, .bool b⟩
  | error f => exact .fault (evalOperands_error hl hr h)

theorem evalDatePart_ends {p : DatePart} (hv : record .date = some v) :
    Ends (ofExcept (evalDatePart p v)) (fun w => ∃ τ, w.OfType τ) fun f =>
      f.isOwn = true ∨ (Expr.datePart p (.field .date)).Clashes record f := by
  unfold evalDatePart
  split
  next w hw =>
    refine .value ?_
    unfold DatePart.eval at hw
    split at hw
    next t _ =>
      obtain ⟨u, hu⟩ := t.date.thursday?_isSome
      cases p <;> simp only [DatePart.ofDate, Calendar.Date.weekNumber?, hu, Option.map_some,
        Except.ok.injEq] at hw <;> subst hw <;> first
        | exact ⟨_, .int _⟩
        | exact ⟨_, .bool _⟩
    next => simp at hw
  next hw => exact .fault (.inr (.date hv (DatePart.eval_eq_outOfRange.mp hw)))
  next => exact .fault (.inl rfl)

theorem readField_ends {Q : EvalFault → Prop} (record : FieldValues) (f : Field)
    (hown : ∀ f : EvalFault, f.isOwn = true → Q f) :
    Ends (ofExcept (readField record f)) (fun v => record f = some v) Q := by
  unfold readField
  split
  next hv => exact .value hv
  next => exact .fault (hown _ rfl)

theorem text_ends {β : Type} {Q : EvalFault → Prop} {P : Value → Prop} {R : β → Prop}
    {x : Eval Value} {g : String → Eval β} (what : String)
    (hown : ∀ f : EvalFault, f.isOwn = true → Q f) (hx : Ends x P Q) (hg : ∀ s, Ends (g s) R Q) :
    Ends (andThen x fun v => andThen (ofExcept (requireText what v)) g) R Q := by
  refine hx.andThen fun v _ => ?_
  cases v with
  | text s => exact hg s
  | _ => exact .fault (hown _ rfl)

theorem searchIn_ends [Pattern.Engine] (clock : Clock) (pattern : Pattern) (s : String)
    {Q : EvalFault → Prop} (hown : ∀ f : EvalFault, f.isOwn = true → Q f) :
    Ends (searchIn clock pattern s) (fun _ => True) Q := by
  refine (Ends.look clock).andThen fun r _ => ?_
  cases r with
  | inTime => exact .value trivial
  | _ => exact .fault (hown _ rfl)

/-- Wherever it stands and whatever the clock shows, a well-typed expression faults by its own
faults or at a part that clashes with the record. -/
theorem WellTyped.ends [Pattern.Engine] {clock : Clock} {Q : EvalFault → Prop} (he : e.WellTyped)
    (hown : ∀ f : EvalFault, f.isOwn = true → Q f)
    (hclash : e.ClashesOnly record Q) (within : Option Join) :
    Ends (e.evalWithin clock record within) (e.Gives record) Q := by
  induction e generalizing within with
  | text s => exact .part within hown (.value ⟨_, .text s⟩)
  | number d => exact .part within hown (.value ⟨_, .decimal he⟩)
  | field f => exact .part within hown (readField_ends record f hown)
  | datePart p argument ih =>
    obtain ⟨htype, hargument⟩ := he
    obtain rfl := eq_field_of_type_date htype
    have hvalue := ih hargument (hclash.argument List.mem_cons_self) none
    refine .part within hown (hvalue.andThen fun v hv => ?_)
    refine (evalDatePart_ends hv).weaken fun f hf => ?_
    exact hf.elim (hown f) (hclash _ f (.whole _))
  | compare op l r ihl ihr =>
    obtain ⟨-, hl, hr⟩ := he
    have hleft := ihl hl (hclash.argument (by simp [arguments])) none
    have hright := ihr hr (hclash.argument (by simp [arguments])) none
    refine .part within hown ((Ends.check clock hown).andThen fun _ _ => ?_)
    refine hleft.andThen fun v hv => hright.andThen fun w hw => ?_
    exact (evalOperands_ends hv hw).weaken fun f hf => hf.elim (hown f) (hclash _ f (.whole _))
  | join j l r ihl ihr =>
    obtain ⟨hl, hr⟩ := he
    have hleft := ihl hl (hclash.argument (by simp [arguments])) (some j)
    have hright := ihr hr (hclash.argument (by simp [arguments])) none
    have hrun : Ends (andThen (l.evalWithin clock record (some j)) fun v =>
        j.goOn clock v (r.evalWithin clock record none)) ((join j l r).Gives record) Q := by
      refine hleft.andThen fun v _ => ?_
      unfold Join.goOn
      split
      · exact .value ⟨_, .bool _⟩
      · refine (Ends.check clock hown).andThen fun _ _ => hright.andThen fun u _ => ?_
        exact .value ⟨_, .bool _⟩
    rw [evalWithin_join]
    dsimp only
    split
    · exact hrun
    · exact .part within hown hrun
  | includes target needle iht ihn =>
    obtain ⟨-, -, ht, hn⟩ := he
    have htarget := iht ht (hclash.argument (by simp [arguments])) none
    have hneedle := ihn hn (hclash.argument (by simp [arguments])) none
    refine .part within hown (text_ends _ hown htarget fun s => ?_)
    exact text_ends _ hown hneedle fun n => .value ⟨_, .bool _⟩
  | changeCase upper target ih =>
    have htarget := ih he.2 (hclash.argument (by simp [arguments])) none
    exact .part within hown (text_ends _ hown htarget fun s => .value ⟨_, .text _⟩)
  | search pattern target ih =>
    have htarget := ih he.2 (hclash.argument (by simp [arguments])) none
    refine .part within hown (text_ends _ hown htarget fun s => ?_)
    exact (searchIn_ends clock pattern s hown).andThen fun _ _ => .value ⟨_, .bool _⟩

end Expr

/-- No value of the record signals, no two fields hold lists or maps whose comparison comes to a
value that does, and universal time keeps the date inside the calendar. -/
structure FieldValues.Tame (record : FieldValues) : Prop where
  quiet : ∀ f v d, record f = some v → v.number? = some d → d.isSignaling = false
  apart : ∀ f g v w, f ≠ g → record f = some v → record g = some w → v.isCollection = true →
    v.strictEquals w ≠ .error .signaling
  dated : ∀ v, record .date = some v → v.toUtc ≠ .error .outOfRange

theorem FieldValues.Tame.not_clashes {record : FieldValues} (h : record.Tame) (part : Expr)
    (f : EvalFault) : ¬part.Clashes record f := by
  intro hclash
  cases hclash with
  | number _ _ hv hd hsignaling => simp [h.quiet _ _ _ hv hd] at hsignaling
  | collection _ hne hf hg hcollection hs => exact h.apart _ _ _ _ hne hf hg hcollection hs
  | date hv hutc => exact h.dated _ hv hutc

def sameFields (f g : Field) : String :=
  "transaction." ++ f.name ++ " === transaction." ++ g.name

section
variable [Pattern.Engine]

theorem compile_sameFields (f g : Field) : Condition.compile (sameFields f g) =
    .ok ⟨sameFields f g, .compare .same (.field f) (.field g)⟩ := by
  let p : Condition.Phrase (.run .any) .whole :=
    .run (.run (.compare .same (.called (.field f) .noCall) (.called (.field g) .noCall)) .noPart)
      .noPart
  have hyield : (Condition.tokens (sameFields f g).toList).map Condition.terminals =
      .ok p.yield := by
    cases f <;> cases g <;> decide +kernel
  have htrimmed : Text.trimmed (sameFields f g) = sameFields f g := by
    cases f <;> cases g <;> decide +kernel
  rw [Condition.compile_of_yield hyield (Nat.zero_le _) rfl, htrimmed]

theorem compile_dayOfDate : Condition.compile "day(transaction.date)" =
    .ok ⟨"day(transaction.date)", .datePart .day (.field .date)⟩ :=
  Condition.compile_of_yield
    (p := .run (.run (.alone (.called (.datePart .day (.called (.field .date) .noCall)) .noCall))
      .noPart) .noPart)
    (by decide +kernel) (by decide) rfl

namespace Predicate

/-- Whatever the clock shows, the predicate answers or faults by a fault of evaluation's own. -/
def Closed (p : Predicate) (record : FieldValues) : Prop :=
  ∀ clock f, p.holds clock record = .error f → f.isOwn = true

theorem holds_sameFields {record : FieldValues} {f g : Field} {v w : Value} (source : String)
    (hf : record f = some v) (hg : record g = some w)
    (hitself : f ≠ g ∨ v.isCollection = false) (hs : v.strictEquals w = .error .signaling) :
    (Predicate.mk source (.compare .same (.field f) (.field g))).holds Clock.unlimited record =
      .error .signaling := by
  have hoperands : evalOperands .same (.field f) (.field g) v w = .error .signaling := by
    have hfirst : ((Expr.field f).readsSame (.field g) && v.isCollection) = false := by
      rcases hitself with hne | hv
      · simp [Expr.readsSame, hne]
      · simp [hv]
    simp [evalOperands, hfirst, evalCompare, evalEquality, hs]
  simp [holds, Expr.eval, Expr.evalWithin, Expr.evalWithin.part, Eval.check, Eval.look,
    Eval.andThen, Eval.value, Eval.ofExcept, Clock.unlimited, readField, hf, hg, hoperands,
    Except.map, Eval.fault]

theorem holds_dayOfDate {record : FieldValues} {v : Value} (source : String)
    (hv : record .date = some v) (hutc : v.toUtc = .error .outOfRange) :
    (Predicate.mk source (.datePart .day (.field .date))).holds Clock.unlimited record =
      .error .dateRange := by
  have hday : evalDatePart .day v = .error .dateRange := by
    rw [evalDatePart, DatePart.eval_eq_outOfRange.mpr hutc]
  simp [holds, Expr.eval, Expr.evalWithin, Expr.evalWithin.part, Eval.andThen, Eval.ofExcept,
    readField, hv, hday, Except.map, Eval.fault, Eval.value]

theorem fault_own_or_clashes {source : String} {p : Predicate}
    (hp : Condition.compile source = .ok p) {clock : Clock} {record : FieldValues} {f : EvalFault}
    (h : p.holds clock record = .error f) :
    f.isOwn = true ∨ ∃ part, Expr.Part p.root part ∧ part.Clashes record f := by
  have hfault : (p.root.evalWithin clock record none 0).1 = .error f := by
    unfold holds Expr.eval at h
    cases he : (p.root.evalWithin clock record none 0).1 <;> simp_all [Except.map]
  have hends := @Expr.WellTyped.ends record p.root _ clock
    (fun f => f.isOwn = true ∨ ∃ part, Expr.Part p.root part ∧ part.Clashes record f)
    (Condition.wellTyped_of_compile hp) (fun _ hown => .inl hown)
    (fun part _ hpart hclash => .inr ⟨part, hpart, hclash⟩) none 0
  exact hends.2 f hfault

end Predicate

theorem FieldValues.tame_of_closed {record : FieldValues}
    (h : ∀ source p, Condition.compile source = .ok p → p.Closed record) : record.Tame := by
  have hsame : ∀ f g v w, record f = some v → record g = some w →
      f ≠ g ∨ v.isCollection = false → v.strictEquals w ≠ .error .signaling := by
    intro f g v w hf hg hitself hs
    have hfault := Predicate.holds_sameFields (sameFields f g) hf hg hitself hs
    exact absurd (h _ _ (compile_sameFields f g) _ _ hfault) (by decide)
  constructor
  · intro f v d hf hd
    by_contra hsignaling
    refine hsame f f v v hf hf (.inr (Value.isCollection_of_number? hd)) ?_
    simp [Value.strictEquals_numbers hd hd, Value.decimalEquals, hsignaling]
  · exact fun f g v w hne hf hg _ => hsame f g v w hf hg (.inl hne)
  · intro v hv hutc
    have hfault := Predicate.holds_dayOfDate "day(transaction.date)" hv hutc
    exact absurd (h _ _ compile_dayOfDate _ _ hfault) (by decide)

/-- All conditions are closed on a record exactly if it is tame; and on any record, with any clock,
a condition that is not comes to a part of it that clashes with the record. -/
theorem closed_iff_tame (record : FieldValues) :
    ((∀ source p, Condition.compile source = .ok p → p.Closed record) ↔ record.Tame) ∧
    ∀ source p clock f, Condition.compile source = .ok p → p.holds clock record = .error f →
      f.isOwn = true ∨ ∃ part, Expr.Part p.root part ∧ part.Clashes record f := by
  refine ⟨⟨FieldValues.tame_of_closed, fun htame source p hp clock f hf => ?_⟩, ?_⟩
  · rcases Predicate.fault_own_or_clashes hp hf with hown | ⟨part, -, hclash⟩
    · exact hown
    · exact absurd hclash (htame.not_clashes part f)
  · exact fun source p clock f hp hf => Predicate.fault_own_or_clashes hp hf

end

def firstMomentAhead : Calendar.Moment := ⟨0, some 18000000000, by decide, by decide⟩

open scoped Pattern.Builtin in
/-- A date before the calendar and a signaling not-a-number end in faults that are not evaluation's
own. -/
theorem calls_escape :
    let day : Predicate := ⟨"day(transaction.date)", .datePart .day (.field .date)⟩
    let one : Predicate :=
      ⟨"transaction.amount === 1", .compare .same (.field .amount) (.number (.finite false 1 0))⟩
    let early : Subject := .record (.map [("date", .moment firstMomentAhead)])
    let signaling : Subject := .record (.map [("amount", .decimal (.nan false true 0))])
    Condition.compile "day(transaction.date)" = .ok day ∧
      Condition.compile "transaction.amount === 1" = .ok one ∧
      day.holds Clock.unlimited early.fields = .error .dateRange ∧
      one.holds Clock.unlimited signaling.fields = .error .signaling := by
  decide +kernel

end LedgerRules
