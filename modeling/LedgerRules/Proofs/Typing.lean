import LedgerRules.Pattern.Builtin
import LedgerRules.Proofs.BuiltTrees
import LedgerRules.Record.Transaction

/-! Conditions do not go wrong. An expression is well typed if its parts have the types that the
operations on them ask for and its numbers are numbers. On a transaction that was validated, and
with no limit of time, every part of a well-typed expression has a value of its type. Texts compile
to well-typed expressions only, and so do trees that compare with finite numbers. -/

namespace LedgerRules
open Numeric Calendar

inductive Value.OfType : Value → ValueType → Prop
  | text (s : String) : OfType (.text s) .text
  | int (i : Int) : OfType (.int i) .number
  | decimal {d : Decimal} : d.isNan = false → OfType (.decimal d) .number
  | bool (b : Bool) : OfType (.bool b) .truth
  | moment {t : Moment} : t.offset = some 0 → OfType (.moment t) .date

namespace Expr

def WellTyped : Expr → Prop
  | .text _ => True
  | .number d => d.isNan = false
  | .field _ => True
  | .datePart _ argument => argument.type = .date ∧ argument.WellTyped
  | .compare op l r =>
    (op.isOrdering = true → l.type = .number ∧ r.type = .number) ∧ l.WellTyped ∧ r.WellTyped
  | .join _ l r => l.WellTyped ∧ r.WellTyped
  | .includes target needle =>
    target.type = .text ∧ needle.type = .text ∧ target.WellTyped ∧ needle.WellTyped
  | .changeCase _ target => target.type = .text ∧ target.WellTyped
  | .search _ target => target.type = .text ∧ target.WellTyped

def arguments : Expr → List Expr
  | .text _ => []
  | .number _ => []
  | .field _ => []
  | .datePart _ argument => [argument]
  | .compare _ l r => [l, r]
  | .join _ l r => [l, r]
  | .includes target needle => [target, needle]
  | .changeCase _ target => [target]
  | .search _ target => [target]

inductive Part : Expr → Expr → Prop
  | whole (e : Expr) : Part e e
  | inner {e a part : Expr} : a ∈ e.arguments → Part a part → Part e part

theorem WellTyped.argument {e a : Expr} (h : e.WellTyped) (ha : a ∈ e.arguments) :
    a.WellTyped := by
  cases e with
  | text | number | field => simp [arguments] at ha
  | datePart _ argument | changeCase _ argument | search _ argument =>
    obtain rfl := List.mem_singleton.mp ha
    exact h.2
  | compare op l r =>
    obtain rfl | rfl := List.mem_pair.mp ha
    · exact h.2.1
    · exact h.2.2
  | join j l r =>
    obtain rfl | rfl := List.mem_pair.mp ha
    · exact h.1
    · exact h.2
  | includes target needle =>
    obtain rfl | rfl := List.mem_pair.mp ha
    · exact h.2.2.1
    · exact h.2.2.2

theorem WellTyped.part {e part : Expr} (h : e.WellTyped) (hp : Part e part) : part.WellTyped := by
  induction hp with
  | whole e => exact h
  | inner ha _ ih => exact ih (h.argument ha)

end Expr

/-- What validation makes sure of; the texts of a transaction may be any. -/
structure Transaction.Valid (t : Transaction) : Prop where
  amount : t.amount.isFinite = true
  date : t.date.offset = some 0

namespace Calendar

theorem Moment.offset_of_ofTicks? {ticks : Int} {o : Option Int} {t : Moment}
    (h : Moment.ofTicks? ticks o = some t) : t.offset = o := by
  obtain ⟨_, ht⟩ := Option.dite_none_right_eq_some.mp h
  rw [← Option.some.inj ht]

theorem Moment.offset_of_toUtc? {t u : Moment} (h : t.toUtc? = some u) : u.offset = some 0 := by
  unfold Moment.toUtc? at h
  split at h
  next =>
    obtain rfl := Option.some.inj h
    rfl
  next => exact Moment.offset_of_ofTicks? h

theorem Moment.toUtc?_of_offset {t : Moment} (h : t.offset = some 0) : t.toUtc? = some t := by
  have hr := t.inRange
  simp only [Moment.toUtc?, h, Moment.ofTicks?, Int.sub_zero, Int.toNat_natCast]
  rw [dif_pos ⟨Int.natCast_nonneg _, hr, Moment.near_zero⟩]
  cases t
  simp_all

theorem Date.thursday?_isSome (d : Date) : ∃ t, d.thursday? = some t := by
  have h₁ := d.positive
  have h₂ := d.bounded
  unfold Date.thursday? Date.ofOrdinal? Date.isoWeekday lastOrdinal
  unfold lastOrdinal at h₂
  rw [dif_pos (by omega)]
  exact ⟨_, rfl⟩

end Calendar

theorem Record.isFinite_of_finiteOnly {o : Option Decimal} {d : Decimal}
    (h : finiteOnly o = .ok d) : d.isFinite = true := by
  unfold finiteOnly at h
  split at h
  next => simp at h
  next d' =>
    split at h
    next hf =>
      obtain rfl := Except.ok.inj h
      exact hf
    next => simp at h

theorem Record.isFinite_of_readDecimal {origin : Origin} {v : Value} {d : Decimal}
    (h : readDecimal origin v = .ok d) : d.isFinite = true := by
  cases v with
  | int i =>
    obtain rfl := Except.ok.inj h
    rfl
  | decimal | text | float =>
    rw [readDecimal] at h
    exact isFinite_of_finiteOnly h
  | _ => simp [readDecimal] at h

theorem Record.member_eq_ok {α : Type} {ms : Members} {name : String}
    {read : Value → Except FaultKind α} {a : α} (h : member ms name none read = .ok a) :
    ∃ v, ms.get? name = some v ∧ read v = .ok a := by
  unfold member at h
  split at h
  next v hv =>
    cases hr : read v with
    | error kind => simp [hr, Except.mapError] at h
    | ok a' =>
      rw [hr] at h
      obtain rfl := Except.ok.inj h
      exact ⟨v, hv, hr⟩
  next => simp at h

theorem Transaction.offset_of_readDate {origin : Origin} {ms : Members} {t : Moment}
    (h : readDate origin ms = .ok (.ok t)) : t.offset = some 0 := by
  unfold readDate at h
  split at h
  next => simp at h
  next =>
    split at h
    next => simp at h
    next => simp at h
    next =>
      split at h
      next u hu =>
        obtain rfl := Except.ok.inj (Except.ok.inj h)
        exact Moment.offset_of_toUtc? hu
      next => simp at h

theorem Transaction.valid_of_validate {origin : Origin} {fresh : String} {v : Value}
    {t : Transaction} (h : Transaction.validate origin fresh v = .ok t) : t.Valid := by
  unfold validate at h
  split at h
  next ms =>
    unfold ofMembers at h
    dsimp only at h
    split at h
    next => simp at h
    next date hdate =>
      split at h
      next hamount _ _ =>
        obtain rfl := Except.ok.inj h
        obtain ⟨w, -, hw⟩ := Record.member_eq_ok hamount
        exact ⟨Record.isFinite_of_readDecimal hw, offset_of_readDate hdate⟩
      next => simp at h
  next => simp at h

theorem Transaction.Valid.assign {t t' : Transaction} {name : String} {v : Value} (h : t.Valid)
    (ha : t.assign name v = .ok t') : t'.Valid := by
  unfold Transaction.assign at ha
  split at ha
  next =>
    split at ha
    next =>
      obtain rfl := Except.ok.inj ha
      exact ⟨h.amount, h.date⟩
    next => simp at ha
  next => split at ha <;> simp at ha

theorem Numeric.Decimal.isNan_of_isFinite {d : Decimal} (h : d.isFinite = true) :
    d.isNan = false := by
  cases d with
  | nan => simp [Decimal.isFinite] at h
  | _ => rfl

theorem Transaction.Valid.readField {t : Transaction} (h : t.Valid) (f : Field) :
    ∃ v, LedgerRules.readField t.fields f = .ok v ∧ v.OfType f.type := by
  cases f with
  | amount => exact ⟨_, rfl, .decimal (Decimal.isNan_of_isFinite h.amount)⟩
  | date => exact ⟨_, rfl, .moment h.date⟩
  | _ => exact ⟨_, rfl, .text _⟩

theorem evalDatePart_typed (p : DatePart) {v : Value} (h : v.OfType .date) :
    ∃ w, evalDatePart p v = .ok w ∧ w.OfType p.type := by
  cases h with
  | @moment t ht =>
    have hu : (Value.moment t).toUtc = .ok t := by
      simp [Value.toUtc, Moment.utc, Moment.toUtc?_of_offset ht]
    unfold evalDatePart
    rw [DatePart.eval_of_toUtc p hu]
    cases p with
    | isWeekend => exact ⟨_, rfl, .bool _⟩
    | weekNumber =>
      obtain ⟨u, hu⟩ := t.date.thursday?_isSome
      simp only [DatePart.ofDate, Date.weekNumber?, hu, Option.map_some]
      exact ⟨_, rfl, .int _⟩
    | _ => exact ⟨_, rfl, .int _⟩

theorem requireText_typed (what : String) {v : Value} (h : v.OfType .text) :
    ∃ s, requireText what v = .ok s := by
  cases h with
  | text s => exact ⟨s, rfl⟩

theorem Value.OfType.number? {v : Value} (h : v.OfType .number) :
    ∃ d, v.number? = some d ∧ d.isNan = false := by
  cases h with
  | int i => exact ⟨_, rfl, rfl⟩
  | decimal hd => exact ⟨_, rfl, hd⟩

theorem Numeric.Decimal.isSignaling_of_isNan {d : Decimal} (h : d.isNan = false) :
    d.isSignaling = false := by
  cases d with
  | nan => simp [Decimal.isNan] at h
  | _ => rfl

theorem Numeric.Decimal.order?_isSome {a b : Decimal} (ha : a.isNan = false)
    (hb : b.isNan = false) : ∃ o, a.order? b = some o := by
  cases a with
  | nan => simp [Decimal.isNan] at ha
  | _ =>
    cases b with
    | nan => simp [Decimal.isNan] at hb
    | _ => exact ⟨_, rfl⟩

theorem evalEquality_typed {v w : Value} {σ τ : ValueType} (hv : v.OfType σ) (hw : w.OfType τ) :
    ∃ b, evalEquality v w = .ok b := by
  by_cases h : σ = .number ∧ τ = .number
  · obtain ⟨rfl, rfl⟩ := h
    obtain ⟨a, ha, han⟩ := hv.number?
    obtain ⟨c, hc, hcn⟩ := hw.number?
    have hequal : v.strictEquals w = .ok (a.order? c == some .eq) := by
      simp [Value.strictEquals_numbers ha hc, Value.decimalEquals, Decimal.isSignaling_of_isNan,
        han, hcn]
    exact ⟨_, by rw [evalEquality, hequal]⟩
  · cases hv <;> cases hw <;> first
      | exact ⟨_, rfl⟩
      | exact absurd ⟨rfl, rfl⟩ h

theorem Value.OfType.isCollection {v : Value} {τ : ValueType} (h : v.OfType τ) :
    v.isCollection = false := by
  cases h <;> rfl

theorem evalCompare_typed (op : CompareOp) {v w : Value} {σ τ : ValueType} (hv : v.OfType σ)
    (hw : w.OfType τ) (h : op.isOrdering = true → σ = .number ∧ τ = .number) :
    ∃ b, evalCompare op v w = .ok b := by
  obtain ⟨b, hb⟩ := evalEquality_typed hv hw
  by_cases hop : op.isOrdering = true
  · obtain ⟨rfl, rfl⟩ := h hop
    obtain ⟨a, ha, han⟩ := hv.number?
    obtain ⟨c, hc, hcn⟩ := hw.number?
    obtain ⟨o, ho⟩ := Decimal.order?_isSome han hcn
    refine ⟨op.accepts o, ?_⟩
    cases op <;> simp_all [evalCompare, CompareOp.isOrdering]
  · cases op with
    | same => exact ⟨b, hb⟩
    | different => exact ⟨!b, by simp [evalCompare, hb, Except.map]⟩
    | _ => simp [CompareOp.isOrdering] at hop

namespace Eval

def Yields {α : Type} (x : Eval α) (P : α → Prop) : Prop :=
  ∀ n, ∃ a n', x n = (.ok a, n') ∧ P a

variable {α β : Type} {x : Eval α} {P : α → Prop} {Q : β → Prop}

theorem Yields.value {a : α} (h : P a) : Yields (value a) P := fun n => ⟨a, n, rfl, h⟩

theorem Yields.ofExcept {r : Except EvalFault α} (h : ∃ a, r = .ok a ∧ P a) :
    Yields (ofExcept r) P := by
  obtain ⟨a, rfl, ha⟩ := h
  exact .value ha

theorem Yields.andThen {f : α → Eval β} (hx : Yields x P) (hf : ∀ a, P a → Yields (f a) Q) :
    Yields (andThen x f) Q := by
  intro n
  obtain ⟨a, n', hx, ha⟩ := hx n
  obtain ⟨b, n'', hb, hq⟩ := hf a ha n'
  refine ⟨b, n'', ?_, hq⟩
  rw [Eval.andThen, hx]
  exact hb

theorem Yields.check : Yields (check Clock.unlimited) fun _ => True :=
  fun n => ⟨(), n + 1, rfl, trivial⟩

theorem Yields.part {x : Eval Value} {P : Value → Prop} (within : Option Join)
    (h : Yields x P) : Yields (Expr.evalWithin.part Clock.unlimited within x) P := by
  cases within with
  | none => exact h
  | some kind => exact Yields.check.andThen fun _ _ => h

end Eval

open Eval

/-- A well-typed expression has a value of its type. -/
theorem Expr.WellTyped.yields [Pattern.Engine] {t : Transaction} (ht : t.Valid) {e : Expr}
    (he : e.WellTyped) (within : Option Join) :
    Yields (e.evalWithin Clock.unlimited t.fields within) fun v => v.OfType e.type := by
  induction e generalizing within with
  | text s => exact .part within (.value (.text s))
  | number d => exact .part within (.value (.decimal he))
  | field f => exact .part within (.ofExcept (ht.readField f))
  | datePart p argument ih =>
    obtain ⟨htype, hargument⟩ := he
    refine .part within ((ih hargument none).andThen fun v hv => .ofExcept ?_)
    exact evalDatePart_typed p (htype ▸ hv)
  | compare op l r ihl ihr =>
    obtain ⟨htypes, hl, hr⟩ := he
    refine .part within (Yields.check.andThen fun _ _ => ?_)
    refine (ihl hl none).andThen fun v hv => (ihr hr none).andThen fun u hu => .ofExcept ?_
    obtain ⟨b, hb⟩ := evalCompare_typed op hv hu htypes
    exact ⟨.bool b, by rw [evalOperands_scalar hv.isCollection, hb]; rfl, .bool b⟩
  | join j l r ihl ihr =>
    obtain ⟨hl, hr⟩ := he
    have hrun : Yields (andThen (l.evalWithin Clock.unlimited t.fields (some j)) fun v =>
        if j.decidedBy v.truthy then value (Value.bool v.truthy)
        else andThen (check Clock.unlimited) fun _ =>
          andThen (r.evalWithin Clock.unlimited t.fields none) fun u =>
            value (Value.bool u.truthy))
        fun v => v.OfType .truth := by
      refine (ihl hl (some j)).andThen fun v _ => ?_
      split
      · exact .value (.bool _)
      · exact Yields.check.andThen fun _ _ => (ihr hr none).andThen fun u _ => .value (.bool _)
    rw [Expr.evalWithin]
    split
    · exact hrun
    · exact .part within hrun
  | includes target needle iht ihn =>
    obtain ⟨htarget, hneedle, ht', hn'⟩ := he
    refine .part within ((iht ht' none).andThen fun v hv => ?_)
    obtain ⟨s, hs⟩ := requireText_typed "includes()" (htarget ▸ hv)
    rw [hs]
    refine (ihn hn' none).andThen fun u hu => ?_
    obtain ⟨n, hn⟩ := requireText_typed "includes()" (hneedle ▸ hu)
    rw [hn]
    exact .value (.bool _)
  | changeCase upper target ih =>
    obtain ⟨htarget, ht'⟩ := he
    refine .part within ((ih ht' none).andThen fun v hv => ?_)
    obtain ⟨s, hs⟩ := requireText_typed (caseMethod upper) (htarget ▸ hv)
    rw [hs]
    exact .value (.text _)
  | search pattern target ih =>
    obtain ⟨htarget, ht'⟩ := he
    refine .part within ((ih ht' none).andThen fun v hv => ?_)
    obtain ⟨s, hs⟩ := requireText_typed "test()" (htarget ▸ hv)
    rw [hs]
    intro n
    exact ⟨.bool (Pattern.Engine.search pattern s), n + 1, rfl, .bool _⟩

theorem Expr.WellTyped.eval [Pattern.Engine] {t : Transaction} (ht : t.Valid) {e : Expr}
    (he : e.WellTyped) :
    ∃ v, e.eval Clock.unlimited t.fields = .ok v ∧ v.OfType e.type := by
  obtain ⟨v, n, hv, htype⟩ := he.yields ht none 0
  exact ⟨v, by rw [Expr.eval, hv], htype⟩

namespace Condition

def Written (w : List Terminal) : Prop := ∀ d, .number d ∈ w → d.isFinite = true

theorem written_append {v w : List Terminal} (h : Written (v ++ w)) : Written v ∧ Written w :=
  ⟨fun d hd => h d (List.mem_append_left w hd), fun d hd => h d (List.mem_append_right v hd)⟩

theorem Written.tail {x : Terminal} {w : List Terminal} (h : Written (x :: w)) : Written w :=
  fun d hd => h d (List.mem_cons_of_mem x hd)

theorem Written.inParens {w : List Terminal} (h : Written (Phrase.inParens w)) : Written w :=
  (written_append h).1.tail

theorem Written.testOf {w : List Terminal} (h : Written (Phrase.testOf w)) : Written w :=
  h.tail.tail.inParens

theorem written_of_tokens {source : List Char} {ts : List Token} (h : tokens source = .ok ts) :
    Written (terminals ts) := by
  obtain ⟨init, stop, hs, rfl⟩ := tokens_eq_ok_iff.mp h
  intro d hd
  obtain ⟨t, ht, htd⟩ := List.mem_filterMap.mp hd
  have hl := Token.terminal?_number.mp htd
  rcases List.mem_append.mp ht with hm | hm
  · obtain ⟨c, e, rfl, -⟩ := hs.number t hm d hl
    rfl
  · obtain rfl := List.mem_singleton.mp hm
    simp [endAt] at hl

theorem isFinite_of_negated? {d n : Decimal} (hd : d.isFinite = true) (h : d.negated? = some n) :
    n.isFinite = true := by
  cases d with
  | finite =>
    obtain ⟨p, -, rfl⟩ := Option.map_eq_some_iff.mp h
    rfl
  | _ => simp [Decimal.isFinite] at hd

section
variable [Pattern.Engine]

namespace Phrase

def Typed {c : Construct} : {s : Shape} → Phrase c s → Prop
  | .whole, p => ∀ e, p.build Decimal.negated? = some e → e.WellTyped
  | .more, m => ∀ left e, left.WellTyped → m.build Decimal.negated? left = some e → e.WellTyped

theorem typed {c : Construct} {s : Shape} (p : Phrase c s) (h : Written p.yield) : p.Typed := by
  induction p with
  | run first more ihf ihm =>
    intro e hb
    obtain ⟨hf, hm⟩ := written_append h
    obtain ⟨l, hl, hb⟩ := build_run.mp hb
    exact ihm hm l e (ihf hf l hl) hb
  | noPart =>
    intro left e hleft hb
    exact Option.some.inj hb ▸ hleft
  | part kind next more ihn ihm =>
    intro left e hleft hb
    obtain ⟨hn, hm⟩ := written_append h.tail
    obtain ⟨r, hr, hb⟩ := build_part.mp hb
    exact ihm hm (.join kind left r) e ⟨hleft, ihn hn r hr⟩ hb
  | alone o ih => exact ih h
  | compare op left right ihl ihr =>
    intro e hb
    obtain ⟨hl', hr'⟩ := written_append h
    obtain ⟨l, r, hl, hr, htypes, rfl⟩ := build_compare.mp hb
    exact ⟨htypes, ihl hl' l hl, ihr hr'.tail r hr⟩
  | called p calls ihp ihc =>
    intro e hb
    obtain ⟨hp, hc⟩ := written_append h
    obtain ⟨target, ht, hb⟩ := build_called.mp hb
    exact ihc hc target e (ihp hp target ht) hb
  | noCall =>
    intro left e hleft hb
    exact Option.some.inj hb ▸ hleft
  | includes needle calls ihn ihc =>
    intro target e htarget hb
    obtain ⟨hn', hc⟩ := written_append h.tail.tail
    obtain ⟨n, hn, ⟨htype, hntype⟩, hb⟩ := build_includes.mp hb
    have hneedle := ihn hn'.inParens n hn
    exact ihc hc (.includes target n) e ⟨htype, hntype, htarget, hneedle⟩ hb
  | changeCase upper calls ihc =>
    intro target e htarget hb
    obtain ⟨-, hc⟩ := written_append h.tail.tail
    obtain ⟨htype, hb⟩ := build_changeCase.mp hb
    exact ihc hc (.changeCase upper target) e ⟨htype, htarget⟩ hb
  | group inner ih => exact ih h.inParens
  | text value | field f =>
    intro e hb
    obtain rfl := Option.some.inj hb
    trivial
  | number value =>
    intro e hb
    obtain rfl := Option.some.inj hb
    exact Decimal.isNan_of_isFinite (h value List.mem_cons_self)
  | negative value =>
    intro e hb
    obtain ⟨n, hn, rfl⟩ := build_negative.mp hb
    have hvalue := h.tail value List.mem_cons_self
    exact Decimal.isNan_of_isFinite (isFinite_of_negated? hvalue hn)
  | datePart d argument ih =>
    intro e hb
    obtain ⟨a, ha, htype, rfl⟩ := build_datePart.mp hb
    exact ⟨htype, ih h.tail.inParens a ha⟩
  | pattern body flags target ih =>
    intro e hb
    obtain ⟨a, _, ha, -, htype, rfl⟩ := build_pattern.mp hb
    exact ⟨htype, ih h.tail.testOf a ha⟩
  | newPattern body flags target ih =>
    intro e hb
    obtain ⟨-, ht⟩ := written_append h.tail.tail
    obtain ⟨a, _, ha, -, htype, rfl⟩ := build_newPattern.mp hb
    exact ⟨htype, ih ht.testOf a ha⟩

end Phrase

theorem Built.wellTyped {c : Construct} {room : Nat} {e : Expr} {source : List Char}
    {ts : List Token} (h : Built c room e (terminals ts)) (ht : tokens source = .ok ts) :
    e.WellTyped := by
  obtain ⟨p, hp, -, hb⟩ := h
  exact p.typed (hp ▸ written_of_tokens ht) e hb

theorem wellTyped_of_compile {source : String} {p : Predicate} (h : compile source = .ok p) :
    p.root.WellTyped := by
  unfold compile at h
  split at h
  next e he =>
    obtain rfl := Except.ok.inj h
    obtain ⟨ts, ht, hb⟩ := built_of_parseCondition he
    exact hb.wellTyped ht
  next => simp at h

theorem wellTyped_of_parseOperand {source : String} {e : Expr} (h : parseOperand source = .ok e) :
    e.WellTyped := by
  obtain ⟨ts, ht, hb⟩ := built_of_parseOperand h
  exact hb.wellTyped ht

end

end Condition

namespace Tree

theorem joinParts_wellTyped {kind : Join} {parts : List Expr} {e : Expr} (he : e.WellTyped)
    (h : ∀ part ∈ parts, part.WellTyped) : (joinParts kind e parts).WellTyped := by
  induction parts generalizing e with
  | nil => exact he
  | cons part parts ih =>
    obtain ⟨hpart, hparts⟩ := List.forall_mem_cons.mp h
    exact ih ⟨he, hpart⟩ hparts

theorem wellTyped_of_denotes [Pattern.Engine] {room : Nat} {v : Value} {e : Expr}
    (h : Denotes room v e) (hv : ∀ d, Compares d v → d.isFinite = true) : e.WellTyped := by
  induction room generalizing v e with
  | zero => exact h.elim
  | succ room ih =>
    cases h with
    | compare ho hj _ _ hparse hvalue hlit htypes =>
      refine ⟨htypes, Condition.wellTyped_of_parseOperand hparse, ?_⟩
      cases hlit with
      | text s => trivial
      | number hd => exact Decimal.isNan_of_isFinite (hv _ (.leaf ho hj hvalue hd))
    | contains _ _ hparse _ htype =>
      exact ⟨htype, rfl, Condition.wellTyped_of_parseOperand hparse, trivial⟩
    | «matches» _ _ hparse _ htype _ _ =>
      exact ⟨htype, Condition.wellTyped_of_parseOperand hparse⟩
    | @join ms operator kind first rest first' parts ho hj hc hfirst hrest =>
      have hbelow : ∀ w ∈ first :: rest, ∀ e, Denotes room w e → e.WellTyped := by
        intro w hw e he
        exact ih he fun d hd => hv d (.part ho hj hc hw hd)
      refine joinParts_wellTyped (hbelow first List.mem_cons_self _ hfirst) fun part hpart => ?_
      obtain ⟨w, hw, hden⟩ := exists_of_forall₂ hrest hpart
      exact hbelow w (List.mem_cons_of_mem first hw) part hden

end Tree

section
variable [Pattern.Engine]

/-- The predicates of conditions and of trees that compare with finite numbers only. -/
inductive Predicate.Compiled : Predicate → Prop
  | text {source : String} {p : Predicate} : Condition.compile source = .ok p → Compiled p
  | tree {tree : Value} {p : Predicate} : Tree.compile tree = .ok p →
      (∀ d, Tree.Compares d tree → d.isFinite = true) → Compiled p

theorem Predicate.Compiled.wellTyped {p : Predicate} (h : p.Compiled) : p.root.WellTyped := by
  cases h with
  | text h => exact Condition.wellTyped_of_compile h
  | tree h hd => exact Tree.wellTyped_of_denotes (Tree.compile_denotes h) hd

/-- With no limit of time, every part of the predicate has a value of its type on the transaction,
wherever it stands and however often the clock was looked at before, and the predicate has an
answer. -/
structure Predicate.Safe (p : Predicate) (t : Transaction) : Prop where
  parts : ∀ part, Expr.Part p.root part → ∀ within n, ∃ v n',
    part.evalWithin Clock.unlimited t.fields within n = (.ok v, n') ∧ v.OfType part.type
  answer : ∃ b, p.holds Clock.unlimited t.fields = .ok b

/-- Validation gives valid transactions, and on a valid transaction what compiles does not go
wrong. -/
theorem compiled_safe :
    (∀ origin fresh v t, Transaction.validate origin fresh v = .ok t → t.Valid) ∧
    (∀ (t t' : Transaction) name v, t.Valid → t.assign name v = .ok t' → t'.Valid) ∧
    ∀ t : Transaction, t.Valid → ∀ p : Predicate, p.Compiled → p.Safe t := by
  refine ⟨fun _ _ _ _ h => Transaction.valid_of_validate h, fun _ _ _ _ h ha => h.assign ha, ?_⟩
  intro t ht p hp
  refine ⟨fun part hpart within n => ?_, ?_⟩
  · exact (hp.wellTyped.part hpart).yields ht within n
  · obtain ⟨v, hv, -⟩ := hp.wellTyped.eval ht
    exact ⟨v.truthy, by rw [Predicate.holds, hv]; rfl⟩

end

def purchase : Members :=
  [("merchant", .text "Corner Shop"), ("amount", .decimal (.finite true 1250 (-2))),
    ("date", .moment (.midnight .first)), ("account", .text "Cash")]

def shopInFirstWeek : String :=
  "transaction.merchant.includes(\"Shop\") && getWeekNumber(transaction.date) <= 1"

open scoped Pattern.Builtin in
theorem compiled_safe_purchase :
    ∃ t p, Transaction.validate .values "" (.map purchase) = .ok t ∧
      Condition.compile shopInFirstWeek = .ok p ∧ p.Safe t := by
  obtain ⟨t, ht⟩ : ∃ t, Transaction.validate .values "" (.map purchase) = .ok t := ⟨_, rfl⟩
  obtain ⟨p, hp⟩ : ∃ p, Condition.compile shopInFirstWeek = .ok p :=
    ⟨⟨shopInFirstWeek, .join .all (.includes (.field .merchant) (.text "Shop"))
      (.compare .atMost (.datePart .weekNumber (.field .date)) (.number (.finite false 1 0)))⟩,
      by decide +kernel⟩
  obtain ⟨hvalid, -, hsafe⟩ := compiled_safe
  exact ⟨t, p, ht, hp, hsafe t (hvalid _ _ _ _ ht) p (.text hp)⟩

end LedgerRules
