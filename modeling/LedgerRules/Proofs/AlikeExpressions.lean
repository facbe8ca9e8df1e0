import LedgerRules.Condition.Eval
import LedgerRules.Proofs.DecimalValue

/-! Expressions that differ at most in how the numbers they compare with are written. Numbers of one
value give a comparison one outcome, so such expressions go through the same steps: they have one
value on every record, or faults of one kind, and look at the clock equally often. -/

namespace LedgerRules
open Numeric Eval

inductive EvalFault.Alike : EvalFault → EvalFault → Prop
  | refl (f : EvalFault) : Alike f f
  | unordered (a : Decimal) {b c : Decimal} : b.Same c →
      Alike (.rule (.unordered a b)) (.rule (.unordered a c))

/-- One value, or faults of one kind. -/
inductive SameOutcome {α : Type} : Except EvalFault α → Except EvalFault α → Prop
  | value (a : α) : SameOutcome (.ok a) (.ok a)
  | fault {f g : EvalFault} : f.Alike g → SameOutcome (.error f) (.error g)

section
variable {α β : Type}

theorem SameOutcome.refl (r : Except EvalFault α) : SameOutcome r r := by
  cases r with
  | ok a => exact .value a
  | error f => exact .fault (.refl f)

theorem SameOutcome.map {r s : Except EvalFault α} (h : SameOutcome r s) (f : α → β) :
    SameOutcome (r.map f) (s.map f) := by
  cases h with
  | value a => exact .value (f a)
  | fault h => exact .fault h

def Eval.Alike (x y : Eval α) : Prop := ∀ n, (x n).2 = (y n).2 ∧ SameOutcome (x n).1 (y n).1

theorem Eval.Alike.refl (x : Eval α) : x.Alike x := fun _ => ⟨rfl, .refl _⟩

theorem Eval.Alike.ofExcept {r s : Except EvalFault α} (h : SameOutcome r s) :
    (ofExcept r).Alike (ofExcept s) := by
  intro n
  cases h with
  | value a => exact ⟨rfl, .value a⟩
  | fault h => exact ⟨rfl, .fault h⟩

theorem Eval.Alike.andThen {x y : Eval α} {f g : α → Eval β} (h : x.Alike y)
    (hf : ∀ a, (f a).Alike (g a)) : (andThen x f).Alike (andThen y g) := by
  intro n
  obtain ⟨hn, hr⟩ := h n
  unfold Eval.andThen
  generalize x n = p at hn hr
  generalize y n = q at hn hr
  obtain ⟨r, m⟩ := p
  obtain ⟨s, k⟩ := q
  obtain rfl : m = k := hn
  cases hr with
  | value a => exact hf a m
  | fault h => exact ⟨rfl, .fault h⟩

theorem Eval.Alike.part {clock : Clock} {x y : Eval Value} (within : Option Join)
    (h : x.Alike y) : (Expr.evalWithin.part clock within x).Alike
      (Expr.evalWithin.part clock within y) := by
  cases within with
  | none => exact h
  | some _ => exact (Alike.refl (check clock)).andThen fun _ => h

end

theorem Numeric.Decimal.Same.isSignaling {a b : Decimal} (h : a.Same b) :
    a.isSignaling = b.isSignaling := by
  obtain ⟨x, ⟨n, c, e, rfl, -⟩, ⟨n', c', e', rfl, -⟩⟩ := h
  rfl

theorem strictEquals_congr {b c : Decimal} (h : b.Same c) (v : Value) :
    v.strictEquals (.decimal b) = v.strictEquals (.decimal c) := by
  cases hv : v.number? with
  | some a =>
    rw [Value.strictEquals_numbers hv rfl, Value.strictEquals_numbers hv rfl,
      Value.decimalEquals, Value.decimalEquals, h.isSignaling, h.order?]
  | none =>
    cases v with
    | int | float | decimal => simp [Value.number?] at hv
    | _ => rfl

theorem evalCompare_sameOutcome {b c : Decimal} (h : b.Same c) (op : CompareOp) (v : Value) :
    SameOutcome (evalCompare op v (.decimal b)) (evalCompare op v (.decimal c)) := by
  have hequal : evalEquality v (.decimal b) = evalEquality v (.decimal c) := by
    rw [evalEquality, evalEquality, strictEquals_congr h]
  cases op with
  | same =>
    rw [evalCompare, evalCompare, hequal]
    exact .refl _
  | different =>
    rw [evalCompare, evalCompare, hequal]
    exact .refl _
  | greater | less | atLeast | atMost =>
    simp only [evalCompare]
    cases v.number? with
    | none => exact .refl _
    | some a =>
      dsimp only [Value.number?]
      rw [h.order? a]
      cases a.order? c with
      | none => exact .fault (.unordered a h)
      | some o => exact .value _

theorem evalOperands_number (op : CompareOp) (l : Expr) (d : Decimal) (v w : Value) :
    evalOperands op l (.number d) v w = evalCompare op v w := by
  cases l <;> rfl

theorem evalOperands_sameOutcome {b c : Decimal} (h : b.Same c) (op : CompareOp) (l : Expr)
    (v : Value) : SameOutcome (evalOperands op l (.number b) v (.decimal b))
      (evalOperands op l (.number c) v (.decimal c)) := by
  rw [evalOperands_number, evalOperands_number]
  exact evalCompare_sameOutcome h op v

inductive Expr.Alike : Expr → Expr → Prop
  | refl (e : Expr) : Alike e e
  | compare (op : CompareOp) (l : Expr) {b c : Decimal} : b.Same c →
      Alike (.compare op l (.number b)) (.compare op l (.number c))
  | join (kind : Join) {l l' r r' : Expr} : Alike l l' → Alike r r' →
      Alike (.join kind l r) (.join kind l' r')

def Join.goOn (kind : Join) (clock : Clock) (left : Value) (right : Eval Value) : Eval Value :=
  if kind.decidedBy left.truthy then value (.bool left.truthy)
  else andThen (check clock) fun _ => andThen right fun u => value (.bool u.truthy)

theorem Expr.evalWithin_join [Pattern.Engine] (clock : Clock) (record : FieldValues) (kind : Join)
    (l r : Expr) (within : Option Join) :
    (Expr.join kind l r).evalWithin clock record within =
      let run := andThen (l.evalWithin clock record (some kind)) fun v =>
        kind.goOn clock v (r.evalWithin clock record none)
      if within = some kind then run else evalWithin.part clock within run := rfl

theorem Eval.Alike.goOn {x y : Eval Value} (h : x.Alike y) (kind : Join) (clock : Clock)
    (left : Value) : (kind.goOn clock left x).Alike (kind.goOn clock left y) := by
  unfold Join.goOn
  split
  · exact .refl _
  · exact (Eval.Alike.refl _).andThen fun _ => h.andThen fun _ => .refl _

theorem Expr.Alike.evalWithin [Pattern.Engine] {e e' : Expr} (h : e.Alike e') (clock : Clock)
    (record : FieldValues) (within : Option Join) :
    (e.evalWithin clock record within).Alike (e'.evalWithin clock record within) := by
  induction h generalizing within with
  | refl e => exact .refl _
  | compare op l h =>
    apply Eval.Alike.part
    refine (Eval.Alike.refl _).andThen fun _ => (Eval.Alike.refl _).andThen fun v => ?_
    -- The right operand is the number itself.
    exact .ofExcept ((evalOperands_sameOutcome h op l v).map _)
  | join kind _ _ ihl ihr =>
    rw [evalWithin_join, evalWithin_join]
    have hrun := (ihl (some kind)).andThen fun v => (ihr none).goOn kind clock v
    dsimp only
    split
    · exact hrun
    · exact hrun.part within

theorem Expr.Alike.holds [Pattern.Engine] {p p' : Predicate} (h : p.root.Alike p'.root)
    (clock : Clock) (record : FieldValues) :
    SameOutcome (p.holds clock record) (p'.holds clock record) :=
  (h.evalWithin clock record none 0).2.map Value.truthy

end LedgerRules
