import LedgerRules.Pattern.Builtin
import LedgerRules.Proofs.AlikeExpressions
import LedgerRules.Rule.Match

/-! Evaluation under a limit of time. Whatever the clock shows at the looks that are taken at it,
what an expression comes to is what it comes to without a limit, unless time runs out on the way;
nothing that stands around a part takes its end for an answer. So a limit can lose a match and never
makes one. -/

namespace LedgerRules
open Numeric Eval

namespace Eval
variable {α β : Type} {x y : Eval α}

/-- The first evaluation runs out of time or ends as the second does, which never runs out of it. -/
structure CutShort (x y : Eval α) : Prop where
  stops : ∀ n, (∃ cause, (x n).1 = .error (.timeout cause)) ∨ x n = y n
  lasts : ∀ n cause, (y n).1 ≠ .error (.timeout cause)

theorem CutShort.value (a : α) : CutShort (value a) (value a) :=
  ⟨fun _ => .inr rfl, fun _ _ => nofun⟩

theorem CutShort.ofExcept {r : Except EvalFault α} (h : ∀ cause, r ≠ .error (.timeout cause)) :
    CutShort (ofExcept r) (ofExcept r) := by
  cases r with
  | ok a => exact .value a
  | error f => exact ⟨fun _ => .inr rfl, fun _ cause => h cause⟩

theorem CutShort.andThen {f g : α → Eval β} (h : CutShort x y) (hf : ∀ a, CutShort (f a) (g a)) :
    CutShort (andThen x f) (andThen y g) := by
  constructor
  · intro n
    rcases h.stops n with ⟨cause, hstop⟩ | heq
    · left
      exact ⟨cause, by unfold Eval.andThen; split <;> simp_all⟩
    · unfold Eval.andThen
      rw [heq]
      split
      next a m _ => exact (hf a).stops m
      next => exact .inr rfl
  · intro n cause
    have hlasts := h.lasts n cause
    unfold Eval.andThen
    split
    next a m _ => exact (hf a).lasts m cause
    next heq =>
      rw [heq] at hlasts
      simpa using hlasts

theorem CutShort.check (clock : Clock) : CutShort (check clock) (check Clock.unlimited) := by
  constructor
  · intro n
    by_cases hexpired : clock n = .expired
    · left
      exact ⟨.exhausted, by simp [Eval.check, Eval.andThen, look, hexpired, fault]⟩
    · right
      simp [Eval.check, Eval.andThen, look, hexpired, Clock.unlimited]
  · intro n cause h
    simp [Eval.check, Eval.andThen, look, Clock.unlimited, Eval.value] at h

theorem CutShort.searchIn [Pattern.Engine] (clock : Clock) (pattern : Pattern) (s : String) :
    CutShort (searchIn clock pattern s) (searchIn Clock.unlimited pattern s) := by
  constructor
  · intro n
    cases hreading : clock n with
    | inTime =>
      right
      simp [LedgerRules.searchIn, Eval.andThen, look, hreading, Clock.unlimited]
    | expired =>
      left
      exact ⟨.beforeSearch, by simp [LedgerRules.searchIn, Eval.andThen, look, hreading, fault]⟩
    | interrupted =>
      left
      exact ⟨.duringSearch pattern.source,
        by simp [LedgerRules.searchIn, Eval.andThen, look, hreading, fault]⟩
  · intro n cause h
    simp [LedgerRules.searchIn, Eval.andThen, look, Clock.unlimited, Eval.value] at h

theorem CutShort.part {x y : Eval Value} (clock : Clock) (within : Option Join)
    (h : CutShort x y) : CutShort (Expr.evalWithin.part clock within x)
      (Expr.evalWithin.part Clock.unlimited within y) := by
  cases within with
  | none => exact h
  | some _ => exact (CutShort.check clock).andThen fun _ => h

theorem CutShort.goOn {x y : Eval Value} (clock : Clock) (kind : Join) (left : Value)
    (h : CutShort x y) :
    CutShort (kind.goOn clock left x) (kind.goOn Clock.unlimited left y) := by
  unfold Join.goOn
  split
  · exact .value _
  · exact (CutShort.check clock).andThen fun _ => h.andThen fun u => .value _

end Eval

theorem readField_lasts (record : FieldValues) (f : Field) (cause : Timeout) :
    readField record f ≠ .error (.timeout cause) := by
  unfold readField
  split <;> simp

theorem requireText_lasts (what : String) (v : Value) (cause : Timeout) :
    requireText what v ≠ .error (.timeout cause) := by
  cases v <;> simp [requireText]

theorem evalDatePart_lasts (p : DatePart) (v : Value) (cause : Timeout) :
    evalDatePart p v ≠ .error (.timeout cause) := by
  unfold evalDatePart
  split <;> simp

theorem evalEquality_lasts (v w : Value) (cause : Timeout) :
    evalEquality v w ≠ .error (.timeout cause) := by
  unfold evalEquality
  split <;> simp

theorem evalCompare_lasts (op : CompareOp) (v w : Value) (cause : Timeout) :
    evalCompare op v w ≠ .error (.timeout cause) := by
  have hequal := evalEquality_lasts v w cause
  cases op with
  | same => exact hequal
  | different =>
    simp only [evalCompare]
    cases h : evalEquality v w with
    | ok b => simp [Except.map]
    | error f =>
      rw [h] at hequal
      simpa [Except.map] using hequal
  | greater | less | atLeast | atMost =>
    simp only [evalCompare]
    split
    · split <;> simp
    · simp

theorem evalOperands_lasts (op : CompareOp) (l r : Expr) (v w : Value) (cause : Timeout) :
    (evalOperands op l r v w).map Value.bool ≠ .error (.timeout cause) := by
  have hcompare := evalCompare_lasts op v w cause
  unfold evalOperands
  split
  · simp [Except.map]
  · cases h : evalCompare op v w with
    | ok b => simp [Except.map]
    | error f =>
      rw [h] at hcompare
      simpa [Except.map] using hcompare

section
variable [Pattern.Engine]

theorem Expr.evalWithin_cutShort (clock : Clock) (record : FieldValues) (e : Expr)
    (within : Option Join) :
    CutShort (e.evalWithin clock record within) (e.evalWithin Clock.unlimited record within) := by
  induction e generalizing within with
  | text s => exact (CutShort.value _).part clock within
  | number d => exact (CutShort.value _).part clock within
  | field f => exact (CutShort.ofExcept (readField_lasts record f)).part clock within
  | datePart p arg ih =>
    refine CutShort.part clock within ((ih none).andThen fun v => ?_)
    exact .ofExcept (evalDatePart_lasts p v)
  | compare op l r ihl ihr =>
    refine CutShort.part clock within ((CutShort.check clock).andThen fun _ => ?_)
    refine (ihl none).andThen fun v => (ihr none).andThen fun u => ?_
    exact .ofExcept (evalOperands_lasts op l r v u)
  | join kind l r ihl ihr =>
    have hrun := (ihl (some kind)).andThen fun v => (ihr none).goOn clock kind v
    rw [evalWithin_join, evalWithin_join]
    dsimp only
    split
    · exact hrun
    · exact hrun.part clock within
  | includes target needle iht ihn =>
    refine CutShort.part clock within ((iht none).andThen fun v => ?_)
    refine (CutShort.ofExcept (requireText_lasts _ v)).andThen fun s => ?_
    refine (ihn none).andThen fun u => ?_
    exact (CutShort.ofExcept (requireText_lasts _ u)).andThen fun n => .value _
  | changeCase upper target ih =>
    refine CutShort.part clock within ((ih none).andThen fun v => ?_)
    exact (CutShort.ofExcept (requireText_lasts _ v)).andThen fun s => .value _
  | search pattern target ih =>
    refine CutShort.part clock within ((ih none).andThen fun v => ?_)
    refine (CutShort.ofExcept (requireText_lasts _ v)).andThen fun s => ?_
    exact (CutShort.searchIn clock pattern s).andThen fun b => .value _

theorem Expr.eval_cutShort (clock : Clock) (record : FieldValues) (e : Expr) :
    (∃ cause, e.eval clock record = .error (.timeout cause)) ∨
      e.eval clock record = e.eval Clock.unlimited record := by
  have hcut := e.evalWithin_cutShort clock record none
  exact (hcut.stops 0).imp_right (congrArg Prod.fst)

theorem Expr.eval_lasts (record : FieldValues) (e : Expr) (cause : Timeout) :
    e.eval Clock.unlimited record ≠ .error (.timeout cause) :=
  (e.evalWithin_cutShort Clock.unlimited record none).lasts 0 cause

theorem Predicate.holds_cutShort (p : Predicate) (clock : Clock) (record : FieldValues) :
    (∃ cause, p.holds clock record = .error (.timeout cause)) ∨
      p.holds clock record = p.holds Clock.unlimited record := by
  unfold holds
  refine (p.root.eval_cutShort clock record).imp ?_ fun heq => by rw [heq]
  intro ⟨cause, hstop⟩
  exact ⟨cause, by rw [hstop]; rfl⟩

theorem Rule.decide_cutShort (r : Rule) (clock : Clock) (s : Subject) (p : Predicate) :
    (∃ cause, r.decide clock s p = (false, [.timedOut r.id s.reportId cause])) ∨
      r.decide clock s p = r.decide Clock.unlimited s p := by
  unfold decide
  refine (p.holds_cutShort clock s.fields).imp ?_ fun heq => by rw [heq]
  intro ⟨cause, hstop⟩
  exact ⟨cause, by rw [hstop]⟩

def Rule.Evaluation.TimedOut (e : Rule.Evaluation) (s : Subject) : Prop :=
  e.answer = .ok false ∧ ∃ rule cause, e.reports.getLast? = some (.timedOut rule s.reportId cause)

theorem Rule.evaluate_cutShort (r : Rule) (clock : Clock) (s : Subject) (c : Cache) :
    let limited := r.evaluate clock s c
    let free := r.evaluate Clock.unlimited s c
    limited = free ∨ limited.TimedOut s ∧ limited.cache = free.cache := by
  unfold evaluate
  split
  · exact .inl rfl
  · dsimp only
    split
    next => exact .inl rfl
    next => exact .inl rfl
    next p _ =>
      rcases r.decide_cutShort clock s p with ⟨cause, hstop⟩ | heq
      · right
        rw [hstop]
        exact ⟨⟨rfl, r.id, cause, by simp⟩, rfl⟩
      · left
        rw [heq]

theorem RuleInput.evaluate_cutShort (input : RuleInput) (fresh : String) (clock : Clock)
    (s : Subject) (c : Cache) :
    let limited := input.evaluate fresh clock s c
    let free := input.evaluate fresh Clock.unlimited s c
    limited = free ∨ limited.TimedOut s ∧ limited.cache = free.cache := by
  unfold evaluate
  split
  next => exact .inl rfl
  next r reports _ =>
    rcases r.evaluate_cutShort clock s c with heq | ⟨⟨hanswer, rule, cause, hlast⟩, hcache⟩
    · left
      dsimp only
      rw [heq]
    · right
      refine ⟨⟨hanswer, rule, cause, ?_⟩, hcache⟩
      rw [List.getLast?_append, hlast]
      rfl

/-- A limit of time only cuts evaluation short. Whatever each look at the clock shows, an expression
times out or comes to the value or the fault that it comes to without a limit, where no time runs
out. A rule is then evaluated as without a limit, or it answers no and reports that time ran out; so
it matches under a limit only if it matches without one. -/
theorem limit_only_cuts_short (clock : Clock) :
    (∀ (e : Expr) (record : FieldValues),
      (∀ cause, e.eval Clock.unlimited record ≠ .error (.timeout cause)) ∧
      ((∃ cause, e.eval clock record = .error (.timeout cause)) ∨
        e.eval clock record = e.eval Clock.unlimited record)) ∧
    ∀ (input : RuleInput) (fresh : String) (s : Subject) (c : Cache),
      let limited := input.evaluate fresh clock s c
      let free := input.evaluate fresh Clock.unlimited s c
      (limited = free ∨ limited.TimedOut s ∧ limited.cache = free.cache) ∧
      (limited.answer = .ok true → free.answer = .ok true) := by
  constructor
  · intro e record
    exact ⟨e.eval_lasts record, e.eval_cutShort clock record⟩
  · intro input fresh s c limited free
    have hcut : limited = free ∨ limited.TimedOut s ∧ limited.cache = free.cache :=
      input.evaluate_cutShort fresh clock s c
    refine ⟨hcut, fun hmatch => ?_⟩
    rcases hcut with heq | ⟨⟨hno, -⟩, -⟩
    · rwa [← heq]
    · exact nomatch hmatch.symm.trans hno

end

open scoped Pattern.Builtin in
theorem limit_only_cuts_short_lunch :
    let rule := RuleInput.rule
      (Rule.ofText "r" "/shop/i.test(transaction.merchant) && transaction.amount < 80 -> \"Food\"")
    let lunch := Subject.record (.map [("merchant", .text "Shop"), ("amount", .int 7)])
    let late : Clock := fun n => if n < 4 then .inTime else .expired
    let interrupting : Clock := fun n => if n = 1 then .interrupted else .inTime
    (rule.evaluate "" late lunch .empty).answer = .ok true ∧
      (rule.evaluate "" Clock.unlimited lunch .empty).answer = .ok true ∧
      (rule.evaluate "" interrupting lunch .empty).TimedOut lunch := by
  intro rule lunch late interrupting
  have hmatch : (rule.evaluate "" late lunch .empty).answer = .ok true := by decide +kernel
  have hno : (rule.evaluate "" interrupting lunch .empty).answer = .ok false := by decide +kernel
  have hfree := ((limit_only_cuts_short late).2 rule "" lunch .empty).2 hmatch
  refine ⟨hmatch, hfree, ?_⟩
  rcases ((limit_only_cuts_short interrupting).2 rule "" lunch .empty).1 with heq | hstop
  · rw [heq, hfree] at hno
    exact nomatch hno
  · exact hstop.1

end LedgerRules
