import LedgerRules.Pattern.Builtin
import LedgerRules.Proofs.AlikeExpressions
import LedgerRules.Tree.Compile

/-! Runs of joined conditions. The operands of a run are taken one after the other, each after a
look at the clock, until one decides the run or faults; what comes after it is left alone. Without a
limit of time this comes to the same as a recursion over the two sides of every join, which knows no
clock. By that recursion it does not matter how brackets group a run of one kind. -/

namespace LedgerRules
open Eval

namespace Eval
variable {α β γ : Type}

theorem andThen_assoc (x : Eval α) (f : α → Eval β) (g : β → Eval γ) :
    andThen (andThen x f) g = andThen x fun a => andThen (f a) g := by
  funext n
  simp only [andThen]
  cases x n with
  | mk r m =>
    cases r with
    | ok a => rfl
    | error e => rfl

end Eval

namespace Join
variable {clock : Clock} {record : FieldValues} {kind : Join}

def undecided : Join → Bool
  | all => true
  | any => false

def settle (kind : Join) (v : Value) (rest : Eval Value) : Eval Value :=
  if kind.decidedBy v.truthy then value (.bool v.truthy) else rest

def run [Pattern.Engine] (kind : Join) (clock : Clock) (record : FieldValues) :
    List Expr → Eval Value
  | [] => value (.bool kind.undecided)
  | e :: rest =>
    andThen (check clock) fun _ => andThen (e.evalWithin clock record none) fun v =>
      kind.settle v (kind.run clock record rest)

theorem settle_bool (v : Value) (rest : Eval Value) :
    kind.settle (.bool v.truthy) rest = kind.settle v rest := rfl

theorem settle_undecided (v : Value) :
    kind.settle v (value (.bool kind.undecided)) = value (.bool v.truthy) := by
  unfold settle
  cases kind <;> cases v.truthy <;> rfl

theorem settle_andThen (v : Value) (x : Eval Value) (rest : Eval Value) :
    andThen (kind.settle v x) (fun u => kind.settle u rest) =
      kind.settle v (andThen x fun u => kind.settle u rest) := by
  by_cases h : kind.decidedBy v.truthy = true
  · simp only [settle, h, if_true]
    rw [value_andThen]
    exact if_pos h
  · simp only [settle, h]
    rfl

theorem goOn_eq (left : Value) (right : Eval Value) :
    kind.goOn clock left right = kind.settle left
      (andThen (check clock) fun _ => andThen right fun u => value (.bool u.truthy)) := rfl

theorem goOn_settle (left : Value) (right : Eval Value) (rest : Eval Value) :
    andThen (kind.goOn clock left right) (fun u => kind.settle u rest) =
      kind.settle left
        (andThen (check clock) fun _ => andThen right fun u => kind.settle u rest) := by
  rw [goOn_eq, settle_andThen, andThen_assoc]
  simp only [andThen_assoc, value_andThen, settle_bool]

theorem goOn_truthy (left : Value) (right : Eval Value) :
    andThen (kind.goOn clock left right) (fun v => value (.bool v.truthy)) =
      kind.goOn clock left right := by
  have h := @goOn_settle clock kind left right (value (.bool kind.undecided))
  simp only [settle_undecided] at h
  exact h

section
variable [Pattern.Engine]

theorem run_append (before after : List Expr) :
    kind.run clock record (before ++ after) =
      andThen (kind.run clock record before) fun v =>
        kind.settle v (kind.run clock record after) := by
  induction before with
  | nil =>
    rw [run, value_andThen]
    cases kind <;> rfl
  | cons e rest ih =>
    simp only [List.cons_append, run, andThen_assoc, settle_andThen, ih]

theorem run_truthy (operands : List Expr) :
    andThen (kind.run clock record operands) (fun v => value (.bool v.truthy)) =
      kind.run clock record operands := by
  have h : kind.run clock record (operands ++ []) = _ := run_append operands []
  simp only [List.append_nil, run, settle_undecided] at h
  exact h.symm

theorem run_cut {before : List Expr} {n : Nat}
    (h : ∀ v, (kind.run clock record before n).1 = .ok v → kind.decidedBy v.truthy = true)
    (after : List Expr) :
    kind.run clock record (before ++ after) n = kind.run clock record before n := by
  rw [run_append]
  conv_rhs => rw [← run_truthy]
  unfold andThen
  split
  next v m hv =>
    have hdecided : kind.decidedBy v.truthy = true := h v (by rw [hv])
    exact congrFun (if_pos hdecided) m
  next => rfl

end

end Join

namespace Expr
variable {clock : Clock} {record : FieldValues} {kind : Join}

theorem evalWithin_alone [Pattern.Engine] {e : Expr} (h : ∀ l r, e ≠ .join kind l r) :
    e.evalWithin clock record (some kind) =
      andThen (check clock) fun _ => e.evalWithin clock record none := by
  cases e with
  | join k l r =>
    have hk : (some kind : Option Join) ≠ some k := by
      intro hk
      exact h l r (by rw [Option.some.inj hk])
    rw [evalWithin_join, evalWithin_join]
    exact if_neg hk
  | _ => rfl

theorem chain_alone {e : Expr} (h : ∀ l r, e ≠ .join kind l r) (rest : List Expr) :
    e.chain kind rest = e :: rest := by
  cases e with
  | join k l r =>
    rw [chain, if_neg]
    intro hk
    exact h l r (by rw [hk])
  | _ => rfl

section
variable [Pattern.Engine]

theorem run_alone {e : Expr} (h : ∀ l r, e ≠ .join kind l r) (rest : List Expr) :
    kind.run clock record (e.chain kind rest) =
      andThen (e.evalWithin clock record (some kind)) fun v =>
        kind.settle v (kind.run clock record rest) := by
  rw [chain_alone h, evalWithin_alone h, andThen_assoc]
  rfl

/-- To evaluate the left side of a join as a part of the run is to take its operands in turn. -/
theorem run_chain (e : Expr) (rest : List Expr) :
    kind.run clock record (e.chain kind rest) =
      andThen (e.evalWithin clock record (some kind)) fun v =>
        kind.settle v (kind.run clock record rest) := by
  induction e generalizing rest with
  | join k l r ihl ihr =>
    by_cases hk : k = kind
    · subst hk
      rw [chain, if_pos rfl, ihl, evalWithin_join]
      dsimp only
      rw [if_pos rfl, andThen_assoc]
      simp only [Join.goOn_settle]
      rfl
    · apply run_alone
      intro l' r' heq
      exact hk (Expr.join.inj heq).1
  | _ => exact run_alone (by simp) rest

theorem evalWithin_operands (l r : Expr) :
    (Expr.join kind l r).evalWithin clock record none =
      kind.run clock record ((Expr.join kind l r).operands kind) := by
  rw [operands, run_chain]
  have hrun : (Expr.join kind l r).evalWithin clock record (some kind) =
      (Expr.join kind l r).evalWithin clock record none := by
    rw [evalWithin_join, evalWithin_join]
    exact if_pos rfl
  simp only [Join.run, Join.settle_undecided]
  rw [hrun, evalWithin_join]
  simp only [reduceCtorEq, if_false, evalWithin.part, andThen_assoc, Join.goOn_truthy]

/-- What an expression comes to when no time is limited, told by its parts. A join takes its right
part only if the left one leaves it undecided. -/
def outcome (record : FieldValues) : Expr → Except EvalFault Value
  | .text s => return .text s
  | .number d => return .decimal d
  | .field f => readField record f
  | .datePart p argument => do evalDatePart p (← argument.outcome record)
  | .compare op l r => do
    let v ← l.outcome record
    let u ← r.outcome record
    (evalOperands op l r v u).map .bool
  | .join .all l r => do
    if (← l.outcome record).truthy then return .bool (← r.outcome record).truthy
    else return .bool false
  | .join .any l r => do
    if (← l.outcome record).truthy then return .bool true
    else return .bool (← r.outcome record).truthy
  | .includes target needle => do
    let s ← requireText "includes()" (← target.outcome record)
    let n ← requireText "includes()" (← needle.outcome record)
    return .bool (occursIn n.toList s.toList)
  | .changeCase upper target => do
    let s ← requireText (caseMethod upper) (← target.outcome record)
    return .text (LedgerRules.changeCase upper s)
  | .search pattern target => do
    let s ← requireText "test()" (← target.outcome record)
    return .bool (Pattern.Engine.search pattern s)

end

end Expr

def Join.after (kind : Join) (left : Value) (right : Except EvalFault Value) :
    Except EvalFault Value := do
  if kind.decidedBy left.truthy then return .bool left.truthy
  else return .bool (← right).truthy

namespace Eval
variable {α β : Type} {x : Eval α} {r : Except EvalFault α}

def ComesTo (x : Eval α) (r : Except EvalFault α) : Prop := ∀ n, (x n).1 = r

theorem ComesTo.value (a : α) : ComesTo (value a) (pure a) := fun _ => rfl

theorem ComesTo.ofExcept (r : Except EvalFault α) : ComesTo (ofExcept r) r := by
  cases r with
  | ok a => exact fun _ => rfl
  | error f => exact fun _ => rfl

theorem ComesTo.andThen {f : α → Eval β} {g : α → Except EvalFault β} (h : x.ComesTo r)
    (hf : ∀ a, (f a).ComesTo (g a)) : (andThen x f).ComesTo (r >>= g) := by
  intro n
  obtain rfl := h n
  unfold Eval.andThen
  cases x n with
  | mk r m =>
    cases r with
    | ok a => exact hf a m
    | error e => rfl

theorem ComesTo.checked (h : x.ComesTo r) :
    (Eval.andThen (check Clock.unlimited) fun _ => x).ComesTo r := fun n => h (n + 1)

theorem ComesTo.part {x : Eval Value} {r : Except EvalFault Value} (within : Option Join)
    (h : x.ComesTo r) : (Expr.evalWithin.part Clock.unlimited within x).ComesTo r := by
  cases within with
  | none => exact h
  | some _ => exact h.checked

theorem ComesTo.goOn {x : Eval Value} {r : Except EvalFault Value} (h : x.ComesTo r) (kind : Join)
    (left : Value) : (kind.goOn Clock.unlimited left x).ComesTo (kind.after left r) := by
  unfold Join.goOn Join.after
  split
  · exact .value _
  · exact (h.andThen fun u => .value _).checked

end Eval

section
variable [Pattern.Engine]

namespace Expr
variable {record : FieldValues}

theorem outcome_join (record : FieldValues) (kind : Join) (l r : Expr) :
    (Expr.join kind l r).outcome record =
      l.outcome record >>= fun v => kind.after v (r.outcome record) := by
  cases kind with
  | all =>
    rw [outcome]
    congr 1
    funext v
    unfold Join.after
    cases v.truthy <;> rfl
  | any =>
    rw [outcome]
    congr 1
    funext v
    unfold Join.after
    cases v.truthy <;> rfl

theorem evalWithin_comesTo (record : FieldValues) (e : Expr) (within : Option Join) :
    (e.evalWithin Clock.unlimited record within).ComesTo (e.outcome record) := by
  induction e generalizing within with
  | text s => exact (ComesTo.value _).part within
  | number d => exact (ComesTo.value _).part within
  | field f => exact (ComesTo.ofExcept _).part within
  | datePart p argument ih =>
    apply ComesTo.part
    exact (ih none).andThen fun v => .ofExcept _
  | compare op l r ihl ihr =>
    apply ComesTo.part
    apply ComesTo.checked
    exact (ihl none).andThen fun v => (ihr none).andThen fun u => .ofExcept _
  | join kind l r ihl ihr =>
    have hrun : (andThen (l.evalWithin Clock.unlimited record (some kind)) fun v =>
        kind.goOn Clock.unlimited v (r.evalWithin Clock.unlimited record none)).ComesTo
          ((Expr.join kind l r).outcome record) := by
      rw [outcome_join]
      exact (ihl (some kind)).andThen fun v => (ihr none).goOn kind v
    rw [evalWithin_join]
    dsimp only
    split
    · exact hrun
    · exact hrun.part within
  | includes target needle iht ihn =>
    apply ComesTo.part
    apply (iht none).andThen
    intro v
    apply (ComesTo.ofExcept _).andThen
    intro s
    apply (ihn none).andThen
    intro u
    exact (ComesTo.ofExcept _).andThen fun n => .value _
  | changeCase upper target ih =>
    apply ComesTo.part
    apply (ih none).andThen
    intro v
    exact (ComesTo.ofExcept _).andThen fun s => .value _
  | search pattern target ih =>
    apply ComesTo.part
    apply (ih none).andThen
    intro v
    apply (ComesTo.ofExcept _).andThen
    intro s
    exact fun _ => rfl

/-- Without a limit of time the operands in turn come to what the recursion gives. -/
theorem eval_eq_outcome (record : FieldValues) (e : Expr) :
    e.eval Clock.unlimited record = e.outcome record := e.evalWithin_comesTo record none 0

end Expr

end

theorem Join.after_truthy (kind : Join) (left : Value) (right : Except EvalFault Value) :
    (kind.after left right >>= fun u => pure (.bool u.truthy)) = kind.after left right := by
  unfold after
  split
  · rfl
  · cases right with
    | ok u => rfl
    | error f => rfl

theorem Join.after_after (kind : Join) (v : Value) (x y : Except EvalFault Value) :
    (kind.after v x >>= fun u => kind.after u y) =
      kind.after v (x >>= fun u => kind.after u y) := by
  by_cases h : kind.decidedBy v.truthy = true
  · rw [after, if_pos h, after, if_pos h]
    exact if_pos h
  · rw [after, if_neg h, after, if_neg h]
    cases x with
    | ok u => exact (kind.after_truthy u y).symm
    | error f => rfl

namespace Expr

inductive Regrouped : Expr → Expr → Prop
  | refl (e : Expr) : Regrouped e e
  | symm {e e' : Expr} : Regrouped e e' → Regrouped e' e
  | trans {e e' e'' : Expr} : Regrouped e e' → Regrouped e' e'' → Regrouped e e''
  | brackets (kind : Join) (a b c : Expr) :
      Regrouped (.join kind (.join kind a b) c) (.join kind a (.join kind b c))
  | datePart (p : DatePart) {a a' : Expr} :
      Regrouped a a' → Regrouped (.datePart p a) (.datePart p a')
  | compare (op : CompareOp) {l l' r r' : Expr} :
      Regrouped l l' → Regrouped r r' → Regrouped (.compare op l r) (.compare op l' r')
  | join (kind : Join) {l l' r r' : Expr} :
      Regrouped l l' → Regrouped r r' → Regrouped (.join kind l r) (.join kind l' r')
  | includes {t t' n n' : Expr} :
      Regrouped t t' → Regrouped n n' → Regrouped (.includes t n) (.includes t' n')
  | changeCase (upper : Bool) {t t' : Expr} :
      Regrouped t t' → Regrouped (.changeCase upper t) (.changeCase upper t')
  | search (pattern : Pattern) {t t' : Expr} :
      Regrouped t t' → Regrouped (.search pattern t) (.search pattern t')

variable {e e' l l' r r' : Expr}

theorem Regrouped.field_iff (h : e.Regrouped e') (f : Field) : e = .field f ↔ e' = .field f := by
  induction h with
  | refl => exact .rfl
  | symm _ ih => exact ih.symm
  | trans _ _ ih ih' => exact ih.trans ih'
  | _ => simp

theorem readsSame_iff : l.readsSame r = true ↔ ∃ f, l = .field f ∧ r = .field f := by
  unfold readsSame
  split
  next f g =>
    simp only [decide_eq_true_eq, field.injEq]
    exact ⟨fun h => ⟨f, rfl, h.symm⟩, fun ⟨h, hf, hg⟩ => hf.trans hg.symm⟩
  next hne =>
    simp only [Bool.false_eq_true, false_iff, not_exists, not_and]
    exact fun f hl hr => hne f f hl hr

theorem Regrouped.operands (hl : l.Regrouped l') (hr : r.Regrouped r') (op : CompareOp)
    (v w : Value) : evalOperands op l r v w = evalOperands op l' r' v w := by
  have hsame : l.readsSame r = l'.readsSame r' := by
    rw [Bool.eq_iff_iff, readsSame_iff, readsSame_iff]
    simp only [hl.field_iff, hr.field_iff]
  rw [evalOperands, evalOperands, hsame]

theorem Regrouped.outcome [Pattern.Engine] (h : e.Regrouped e') (record : FieldValues) :
    e.outcome record = e'.outcome record := by
  induction h with
  | refl => rfl
  | symm _ ih => exact ih.symm
  | trans _ _ ih ih' => exact ih.trans ih'
  | brackets kind a b c =>
    simp only [outcome_join]
    cases a.outcome record with
    | error f => rfl
    | ok v => exact kind.after_after v _ _
  | datePart p _ ih => rw [Expr.outcome, Expr.outcome, ih]
  | compare op hl hr ihl ihr => simp only [Expr.outcome, ihl, ihr, hl.operands hr]
  | join kind _ _ ihl ihr => rw [outcome_join, outcome_join, ihl, ihr]
  | includes _ _ iht ihn => simp only [Expr.outcome, iht, ihn]
  | changeCase upper _ ih => rw [Expr.outcome, Expr.outcome, ih]
  | search pattern _ ih => rw [Expr.outcome, Expr.outcome, ih]

end Expr

/-- A join takes the operands of its run in turn, whatever the clock shows, and leaves alone what
comes after a fault or a decision. Without a limit of time this gives every expression the value or
the fault that the recursion over its parts does, in which a join takes its left part first and the
right one only if the left one does not decide; so the brackets within runs of one kind do not
matter. -/
theorem runs_follow_recursion [Pattern.Engine] (record : FieldValues) :
    (∀ clock kind l r, (Expr.join kind l r).evalWithin clock record none =
      kind.run clock record ((Expr.join kind l r).operands kind)) ∧
    (∀ (clock : Clock) (kind : Join) (before after : List Expr) (n : Nat),
      (∀ v, (kind.run clock record before n).1 = .ok v → kind.decidedBy v.truthy = true) →
        kind.run clock record (before ++ after) n = kind.run clock record before n) ∧
    (∀ e : Expr, e.eval Clock.unlimited record = e.outcome record) ∧
    ∀ e e' : Expr, e.Regrouped e' →
      e.eval Clock.unlimited record = e'.eval Clock.unlimited record := by
  refine ⟨?_, ?_, ?_, ?_⟩
  · intro clock kind l r
    exact Expr.evalWithin_operands l r
  · intro clock kind before after n h
    exact Join.run_cut h after
  · exact Expr.eval_eq_outcome record
  · intro e e' h
    rw [Expr.eval_eq_outcome, Expr.eval_eq_outcome]
    exact h.outcome record

open scoped Pattern.Builtin in
theorem runs_follow_recursion_categorized :
    let category : Expr := .compare .same (.field .category) (.text "A")
    let day : Expr := .compare .greater (.datePart .day (.field .date)) (.number (.ofInt 1))
    let amount : Expr := .compare .greater (.field .amount) (.number (.ofInt 5))
    let inRow : Predicate :=
      ⟨"transaction.category === \"A\" || day(transaction.date) > 1 || transaction.amount > 5",
        .join .any (.join .any category day) amount⟩
    let grouped : Predicate :=
      ⟨"transaction.category === \"A\" || (day(transaction.date) > 1 || transaction.amount > 5)",
        .join .any category (.join .any day amount)⟩
    let record : FieldValues := fun f => if f = .category then some (.text "A") else none
    Condition.compile inRow.source = .ok inRow ∧
      Condition.compile grouped.source = .ok grouped ∧
      Join.any.run Clock.unlimited record ([category] ++ [day, amount]) 0 =
        (.ok (.bool true), 2) ∧
      inRow.root.eval Clock.unlimited record = .ok (.bool true) ∧
      grouped.root.eval Clock.unlimited record = .ok (.bool true) := by
  intro category day amount inRow grouped record
  obtain ⟨-, hcut, hrecursion, hbrackets⟩ := runs_follow_recursion record
  have hfirst : Join.any.run Clock.unlimited record [category] 0 = (.ok (.bool true), 2) := rfl
  have hdecided : ∀ v, (Join.any.run Clock.unlimited record [category] 0).1 = .ok v →
      Join.any.decidedBy v.truthy = true := by
    intro v hv
    obtain rfl := Except.ok.inj hv
    rfl
  have hrun := hcut Clock.unlimited .any [category] [day, amount] 0 hdecided
  have hrow : inRow.root.eval Clock.unlimited record = .ok (.bool true) := hrecursion inRow.root
  have hsame := hbrackets inRow.root grouped.root (.brackets .any category day amount)
  refine ⟨by decide +kernel, by decide +kernel, hrun.trans hfirst, hrow, ?_⟩
  rw [← hsame]
  exact hrow

end LedgerRules
