import LedgerRules.Proofs.AlikeExpressions
import LedgerRules.Proofs.RuleAnswers

/-! Conditions cannot tell how an amount is written. On transactions that differ in nothing but the
digits of amounts of one value, an expression comes to the same in as many looks at the clock, up to
such digits again; so the same rules match. -/

namespace LedgerRules
open Numeric Eval

inductive Value.Like : Value → Value → Prop
  | refl (v : Value) : Like v v
  | number {a b : Decimal} : a.Same b → Like (.decimal a) (.decimal b)

namespace Numeric.Decimal
variable {a b c d : Decimal}

theorem Same.symm (h : a.Same b) : b.Same a := by
  obtain ⟨x, ha, hb⟩ := h
  exact ⟨x, hb, ha⟩

theorem Same.order?_left (h : a.Same b) (d : Decimal) : a.order? d = b.order? d := by
  obtain ⟨x, ⟨n, c, e, rfl, hx⟩, ⟨n', c', e', rfl, hx'⟩⟩ := h
  cases d with
  | finite m k f => rw [order?_finite, order?_finite, hx, hx']
  | _ => rfl

theorem Same.isZero (h : a.Same b) : a.isZero = b.isZero := by
  obtain ⟨x, ⟨n, c, e, rfl, hx⟩, ⟨n', c', e', rfl, hx'⟩⟩ := h
  have hzero : ∀ (n : Bool) (c : Nat) (e : Int), signed n (magnitude c e) = 0 ↔ c = 0 := by
    intro n c e
    have hmagnitude : magnitude c e = 0 ↔ c = 0 := by
      refine ⟨fun h => by_contra fun hc => (magnitude_pos hc e).ne' h, ?_⟩
      rintro rfl
      exact magnitude_zero e
    cases n <;> simp [signed, hmagnitude]
  have hiff : c = 0 ↔ c' = 0 := by rw [← hzero n c e, ← hzero n' c' e', hx, hx']
  simp [Decimal.isZero, hiff]

end Numeric.Decimal

namespace Value
variable {v v' w w' : Value}

theorem Like.truthy (h : Like v w) : v.truthy = w.truthy := by
  cases h with
  | refl => rfl
  | number hs =>
    obtain ⟨x, ⟨n, c, e, rfl, hx⟩, ⟨n', c', e', rfl, hx'⟩⟩ := id hs
    simp [Value.truthy, Decimal.isNan, hs.isZero]

theorem Like.isCollection (h : Like v w) : v.isCollection = w.isCollection := by
  cases h <;> rfl

theorem Like.kindName (h : Like v w) : v.kindName = w.kindName := by
  cases h <;> rfl

theorem strictEquals_congr_left {a b : Decimal} (h : a.Same b) (w : Value) :
    (decimal a).strictEquals w = (decimal b).strictEquals w := by
  cases hw : w.number? with
  | some d =>
    rw [strictEquals_numbers rfl hw, strictEquals_numbers rfl hw, decimalEquals, decimalEquals,
      h.isSignaling, h.order?_left]
  | none =>
    cases w with
    | int | float | decimal => simp [number?] at hw
    | _ => rfl

theorem Like.strictEquals (h : Like v v') (hw : Like w w') :
    v.strictEquals w = v'.strictEquals w' := by
  calc v.strictEquals w = v'.strictEquals w := by
        cases h with
        | refl => rfl
        | number hs => exact strictEquals_congr_left hs w
    _ = v'.strictEquals w' := by
        cases hw with
        | refl => rfl
        | number hs => exact strictEquals_congr hs v'

theorem Like.number? (h : Like v v') :
    Option.Rel (fun a b => a = b ∨ a.Same b) v.number? v'.number? := by
  cases h with
  | refl => cases v.number? with
    | none => exact .none
    | some d => exact .some (.inl rfl)
  | number hs => exact .some (.inr hs)

end Value

inductive OutcomeRel {α β : Type} (R : α → β → Prop) :
    Except EvalFault α → Except EvalFault β → Prop
  | value {a : α} {b : β} : R a b → OutcomeRel R (.ok a) (.ok b)
  | fault (f g : EvalFault) : OutcomeRel R (.error f) (.error g)

section
variable {α β γ δ : Type} {R : α → β → Prop} {S : γ → δ → Prop}

theorem OutcomeRel.map {r s : Except EvalFault α} (h : OutcomeRel Eq r s) {f : α → β}
    {T : β → β → Prop} (hf : ∀ a, T (f a) (f a)) : OutcomeRel T (r.map f) (s.map f) := by
  cases h with
  | value h => exact .value (h ▸ hf _)
  | fault f g => exact .fault f g

def Eval.Rel (R : α → β → Prop) (x : Eval α) (y : Eval β) : Prop :=
  ∀ n, (x n).2 = (y n).2 ∧ OutcomeRel R (x n).1 (y n).1

theorem Eval.Rel.of_eq {R : α → α → Prop} (hR : ∀ a, R a a) (x : Eval α) : Eval.Rel R x x := by
  intro n
  refine ⟨rfl, ?_⟩
  cases (x n).1 with
  | ok a => exact .value (hR a)
  | error f => exact .fault f f

theorem Eval.Rel.ofExcept {r : Except EvalFault α} {s : Except EvalFault β}
    (h : OutcomeRel R r s) : Eval.Rel R (ofExcept r) (ofExcept s) := by
  intro n
  cases h with
  | value h => exact ⟨rfl, .value h⟩
  | fault f g => exact ⟨rfl, .fault f g⟩

theorem Eval.Rel.andThen {x : Eval α} {y : Eval β} {f : α → Eval γ} {g : β → Eval δ}
    (h : Eval.Rel R x y) (hf : ∀ a b, R a b → Eval.Rel S (f a) (g b)) :
    Eval.Rel S (andThen x f) (andThen y g) := by
  intro n
  obtain ⟨hn, hr⟩ := h n
  unfold Eval.andThen
  generalize x n = p at hn hr
  generalize y n = q at hn hr
  obtain ⟨r, m⟩ := p
  obtain ⟨s, k⟩ := q
  obtain rfl : m = k := hn
  cases hr with
  | value h => exact hf _ _ h m
  | fault f g => exact ⟨rfl, .fault f g⟩

end

variable {clock : Clock} {record record' : FieldValues} {v v' w w' : Value}

theorem order?_congr {a b c d : Decimal} (h : a = b ∨ a.Same b) (h' : c = d ∨ c.Same d) :
    a.order? c = b.order? d := by
  have hleft : a.order? c = b.order? c := h.elim (fun h => h ▸ rfl) fun h => h.order?_left c
  exact hleft.trans (h'.elim (fun h => h ▸ rfl) fun h => h.order? b)

theorem Value.Like.compare (h : v.Like v') (hw : w.Like w') (op : CompareOp) :
    OutcomeRel Eq (evalCompare op v w) (evalCompare op v' w') := by
  have hrefl : ∀ r : Except EvalFault Bool, OutcomeRel Eq r r := by
    intro r
    cases r with
    | ok b => exact .value rfl
    | error f => exact .fault f f
  have hequal : evalEquality v w = evalEquality v' w' := by
    rw [evalEquality, evalEquality, h.strictEquals hw]
  cases op with
  | same | different =>
    simp only [evalCompare, hequal]
    exact hrefl _
  | greater | less | atLeast | atMost =>
    simp only [evalCompare]
    have hv := h.number?
    have hu := hw.number?
    generalize v.number? = x at hv ⊢
    generalize v'.number? = x' at hv ⊢
    generalize w.number? = y at hu ⊢
    generalize w'.number? = y' at hu ⊢
    cases hv with
    | none => exact .fault _ _
    | some ha =>
      cases hu with
      | none => exact .fault _ _
      | some hb =>
        dsimp only
        rw [order?_congr ha hb]
        split
        · exact .value rfl
        · exact .fault _ _

theorem Value.Like.operands (h : v.Like v') (hw : w.Like w') (op : CompareOp) (l r : Expr) :
    OutcomeRel Eq (evalOperands op l r v w) (evalOperands op l r v' w') := by
  unfold evalOperands
  rw [h.isCollection]
  split
  · exact .value rfl
  · exact h.compare hw op

theorem Value.Like.requireText (h : v.Like v') (what : String) :
    LedgerRules.requireText what v = LedgerRules.requireText what v' := by
  cases h <;> rfl

theorem Value.Like.datePart (h : v.Like v') (p : DatePart) :
    evalDatePart p v = evalDatePart p v' := by
  cases h <;> rfl

theorem Eval.Rel.part (within : Option Join) {x y : Eval Value}
    (h : Eval.Rel Value.Like x y) : Eval.Rel Value.Like (Expr.evalWithin.part clock within x)
      (Expr.evalWithin.part clock within y) := by
  cases within with
  | none => exact h
  | some _ => exact (Rel.of_eq (R := Eq) (fun _ => rfl) (check clock)).andThen fun _ _ _ => h

theorem Value.Like.goOn (h : v.Like v') {x y : Eval Value} (hxy : Eval.Rel Value.Like x y)
    (kind : Join) (clock : Clock) :
    Eval.Rel Value.Like (kind.goOn clock v x) (kind.goOn clock v' y) := by
  unfold Join.goOn
  rw [h.truthy]
  split
  · exact .of_eq .refl _
  · refine (Eval.Rel.of_eq (R := Eq) (fun _ => rfl) _).andThen fun _ _ _ => ?_
    refine hxy.andThen fun w w' hw => ?_
    rw [hw.truthy]
    exact .of_eq .refl _

theorem Expr.evalWithin_like [Pattern.Engine] (clock : Clock)
    (h : ∀ f, Option.Rel Value.Like (record f) (record' f)) (e : Expr) (within : Option Join) :
    Eval.Rel Value.Like (e.evalWithin clock record within) (e.evalWithin clock record' within) := by
  induction e generalizing within with
  | text s => exact .of_eq .refl _
  | number d => exact .of_eq .refl _
  | field f =>
    refine .part within (.ofExcept ?_)
    have hf := h f
    unfold readField
    generalize record f = x at hf
    generalize record' f = y at hf
    cases hf with
    | none => exact .fault _ _
    | some hv => exact .value hv
  | datePart p arg ih =>
    refine .part within ((ih none).andThen fun v w hv => ?_)
    rw [hv.datePart]
    exact .of_eq .refl _
  | compare op l r ihl ihr =>
    refine .part within ((Eval.Rel.of_eq (R := Eq) (fun _ => rfl) _).andThen fun _ _ _ => ?_)
    refine (ihl none).andThen fun v v' hv => (ihr none).andThen fun w w' hw => .ofExcept ?_
    exact (hv.operands hw op l r).map fun b => .refl (.bool b)
  | join kind l r ihl ihr =>
    rw [evalWithin_join, evalWithin_join]
    have hrun := (ihl (some kind)).andThen fun v v' hv => hv.goOn (ihr none) kind clock
    dsimp only
    split
    · exact hrun
    · exact .part within hrun
  | includes target needle iht ihn =>
    refine .part within ((iht none).andThen fun v v' hv => ?_)
    rw [hv.requireText]
    refine (Eval.Rel.of_eq (R := Eq) (fun _ => rfl) _).andThen fun s _ hs => ?_
    subst hs
    refine (ihn none).andThen fun w w' hw => ?_
    rw [hw.requireText]
    exact .of_eq .refl _
  | changeCase upper target ih =>
    refine .part within ((ih none).andThen fun v v' hv => ?_)
    rw [hv.requireText]
    exact .of_eq .refl _
  | search pattern target ih =>
    refine .part within ((ih none).andThen fun v v' hv => ?_)
    rw [hv.requireText]
    exact .of_eq .refl _

namespace Transaction

/-- The same transaction, but for how its amount is written. -/
structure Like (t u : Transaction) : Prop where
  same : u = { t with amount := u.amount }
  amount : t.amount.Same u.amount

variable {t u : Transaction}

theorem Like.fields (h : t.Like u) (f : Field) :
    Option.Rel Value.Like (t.fields f) (u.fields f) := by
  rw [h.same]
  cases f with
  | amount => exact .some (.number h.amount)
  | _ => exact .some (.refl _)

theorem Like.holdsOn [Pattern.Engine] (h : t.Like u) (d : RuleBody) :
    d.holdsOn (.transaction t) = d.holdsOn (.transaction u) := by
  have hholds : ∀ p : Predicate, p.holds Clock.unlimited t.fields = .ok true ↔
      p.holds Clock.unlimited u.fields = .ok true := by
    intro p
    obtain ⟨-, hroot⟩ := Expr.evalWithin_like Clock.unlimited h.fields p.root none 0
    unfold Predicate.holds Expr.eval
    generalize (p.root.evalWithin Clock.unlimited t.fields none 0).1 = r at hroot ⊢
    generalize (p.root.evalWithin Clock.unlimited u.fields none 0).1 = r' at hroot ⊢
    cases hroot with
    | value hv => simp [Except.map, hv.truthy]
    | fault f g => simp [Except.map]
  rw [Bool.eq_iff_iff, RuleBody.holdsOn_iff, RuleBody.holdsOn_iff]
  exact and_congr_right fun _ => exists_congr fun p => and_congr_right fun _ => hholds p

theorem Like.firstCategory [Pattern.Engine] (h : t.Like u) (rules : List RuleInput) :
    Reapply.firstCategory rules (.transaction t) = Reapply.firstCategory rules (.transaction u) := by
  unfold Reapply.firstCategory
  simp only [h.holdsOn]

end Transaction

end LedgerRules
