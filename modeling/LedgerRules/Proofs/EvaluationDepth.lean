import LedgerRules.Pattern.Builtin
import LedgerRules.Proofs.BuiltTrees

/-! How deep evaluations lie in each other. The operands of a run of joins are evaluated one after
the other, so a run takes one level, however long it is. Brackets take levels: between two that are
open at once stand a run of each kind and a comparison at most, and so the limit on open brackets
bounds the depth of whatever a text or a tree compiles to. -/

namespace LedgerRules
open Condition

namespace Expr

/-- The depth of an expression that stands in a run of joins of kind `within`, if it does: a join of
that kind goes on with the run and takes no level of its own. -/
def depthWithin : Expr → Option Join → Nat
  | text _, _ => 1
  | number _, _ => 1
  | field _, _ => 1
  | datePart _ argument, _ => 1 + argument.depthWithin none
  | compare _ l r, _ => 1 + max (l.depthWithin none) (r.depthWithin none)
  | join kind l r, within =>
    let run := max (l.depthWithin (some kind)) (r.depthWithin none)
    if within = some kind then run else 1 + run
  | includes target needle, _ => max (target.depthWithin none) (1 + needle.depthWithin none)
  | changeCase _ target, _ => target.depthWithin none
  | search _ target, _ => 1 + target.depthWithin none

def depth (e : Expr) : Nat := e.depthWithin none

def deepest (es : List Expr) : Nat := (es.map depth).foldr max 0

theorem deepest_cons (e : Expr) (es : List Expr) : deepest (e :: es) = max e.depth (deepest es) :=
  rfl

theorem depthWithin_run (kind : Join) (l r : Expr) :
    (join kind l r).depthWithin (some kind) = max (l.depthWithin (some kind)) r.depth := by
  rw [depthWithin]
  exact if_pos rfl

theorem depth_run (kind : Join) (l r : Expr) :
    (join kind l r).depth = 1 + (join kind l r).depthWithin (some kind) := by
  rw [depthWithin_run]
  rfl

theorem depthWithin_bounds (e : Expr) (kind : Join) :
    e.depthWithin (some kind) ≤ e.depth ∧ e.depth ≤ 1 + e.depthWithin (some kind) := by
  cases e with
  | join k l r =>
    by_cases hk : k = kind
    · subst hk
      rw [depth_run]
      omega
    · have hne : (some kind : Option Join) ≠ some k := fun h => hk (Option.some.inj h).symm
      have hsame : (join k l r).depthWithin (some kind) = (join k l r).depth := by
        rw [depth, depthWithin, depthWithin]
        exact (if_neg hne).trans (if_neg (by simp)).symm
      omega
  | _ => exact ⟨Nat.le_refl _, Nat.le_add_left _ _⟩

theorem deepest_chain (kind : Join) (e : Expr) (rest : List Expr) :
    deepest (e.chain kind rest) = max (e.depthWithin (some kind)) (deepest rest) := by
  induction e generalizing rest with
  | join k l r ihl ihr =>
    by_cases hk : k = kind
    · subst hk
      rw [chain, if_pos rfl, ihl, deepest_cons, depthWithin_run, Nat.max_assoc]
    · have hne : (some kind : Option Join) ≠ some k := fun h => hk (Option.some.inj h).symm
      rw [chain, if_neg hk, deepest_cons, depth, depthWithin, depthWithin]
      simp [hne]
  | _ => rfl

theorem depth_join (kind : Join) (l r : Expr) :
    (join kind l r).depth = 1 + deepest ((join kind l r).operands kind) := by
  rw [operands, deepest_chain, depth_run]
  exact congrArg (1 + ·) (Nat.max_zero _).symm

end Expr

namespace Condition

def Construct.height : Construct → Nat
  | run .any => 4
  | run .all => 3
  | comparison => 2
  | operand => 1
  | primary => 1

/-- With `n` brackets open at once every expression of the construct is at most this deep. A run may
still go on, so it counts by its operands. -/
def Shallow (n : Nat) : Construct → Expr → Prop
  | .run kind, e => e.depthWithin (some kind) + 1 ≤ 3 * n + (Construct.run kind).height
  | c, e => e.depth ≤ 3 * n + c.height

theorem Shallow.depth_le {n : Nat} {c : Construct} {e : Expr} (h : Shallow n c e) :
    e.depth ≤ 3 * n + c.height := by
  cases c with
  | run kind =>
    have hrun : e.depthWithin (some kind) + 1 ≤ 3 * n + (Construct.run kind).height := h
    have hlevel := (e.depthWithin_bounds kind).2
    omega
  | _ => exact h

theorem height_run (kind : Join) :
    (Construct.run kind).height = (Construct.part kind).height + 1 := by
  cases kind <;> rfl

theorem Shallow.run {n : Nat} {kind : Join} {e : Expr} (h : Shallow n (Construct.part kind) e) :
    Shallow n (.run kind) e := by
  have hpart := h.depth_le
  have hlevel := (e.depthWithin_bounds kind).1
  show e.depthWithin (some kind) + 1 ≤ 3 * n + (Construct.run kind).height
  rw [height_run]
  omega

theorem Shallow.join {n : Nat} {kind : Join} {left e : Expr} (hleft : Shallow n (.run kind) left)
    (h : Shallow n (Construct.part kind) e) : Shallow n (.run kind) (.join kind left e) := by
  have hpart := h.depth_le
  have hrun : left.depthWithin (some kind) + 1 ≤ 3 * n + (Construct.run kind).height := hleft
  show (Expr.join kind left e).depthWithin (some kind) + 1 ≤ 3 * n + (Construct.run kind).height
  rw [Expr.depthWithin_run]
  rw [height_run] at hrun ⊢
  omega

theorem Shallow.bracketed {n k : Nat} {c : Construct} {e : Expr} (h : k + 1 ≤ n)
    (hinner : ∀ m, k ≤ m → Shallow m c e) : e.depth + 3 ≤ 3 * n + c.height := by
  have hle := (hinner (n - 1) (by omega)).depth_le
  omega

section
variable [Pattern.Engine]

namespace Phrase

def Flat {c : Construct} : {s : Shape} → Phrase c s → Prop
  | .whole, p => ∀ n e, p.depth ≤ n → p.build Numeric.Decimal.negated? = some e → Shallow n c e
  | .more, m => ∀ n left e, m.depth ≤ n → Shallow n c left →
      m.build Numeric.Decimal.negated? left = some e → Shallow n c e

theorem flat {c : Construct} {s : Shape} (p : Phrase c s) : p.Flat := by
  induction p with
  | run first more ihf ihm =>
    intro n e hn h
    obtain ⟨hfirst, hmore⟩ := Nat.max_le.mp hn
    obtain ⟨e₁, h₁, h₂⟩ := build_run.mp h
    exact ihm n e₁ e hmore (ihf n e₁ hfirst h₁).run h₂
  | noPart =>
    intro n left e _ hleft h
    exact Option.some.inj h ▸ hleft
  | part kind next more ihn ihm =>
    intro n left e hn hleft h
    obtain ⟨hnext, hmore⟩ := Nat.max_le.mp hn
    obtain ⟨e₁, h₁, h₂⟩ := build_part.mp h
    exact ihm n _ e hmore (hleft.join (ihn n e₁ hnext h₁)) h₂
  | alone o ih =>
    intro n e hn h
    exact Nat.le_succ_of_le (ih n e hn h)
  | compare op left right ihl ihr =>
    intro n e hn h
    obtain ⟨hl, hr⟩ := Nat.max_le.mp hn
    obtain ⟨l, r, hbl, hbr, -, rfl⟩ := build_compare.mp h
    have hleft : l.depth ≤ 3 * n + 1 := ihl n l hl hbl
    have hright : r.depth ≤ 3 * n + 1 := ihr n r hr hbr
    show 1 + max l.depth r.depth ≤ 3 * n + 2
    omega
  | called p calls ihp ihc =>
    intro n e hn h
    obtain ⟨hp, hc⟩ := Nat.max_le.mp hn
    obtain ⟨e₁, h₁, h₂⟩ := build_called.mp h
    exact ihc n e₁ e hc (ihp n e₁ hp h₁) h₂
  | noCall =>
    intro n left e _ hleft h
    exact Option.some.inj h ▸ hleft
  | includes needle calls ihn ihc =>
    intro n left e hn hleft h
    obtain ⟨hneedle, hcalls⟩ := Nat.max_le.mp hn
    obtain ⟨e₁, h₁, -, h⟩ := build_includes.mp h
    refine ihc n _ e hcalls ?_ h
    have hinner : e₁.depth + 3 ≤ 3 * n + 1 := Shallow.bracketed hneedle fun m hm => ihn m e₁ hm h₁
    have htarget : left.depth ≤ 3 * n + 1 := hleft
    show max left.depth (1 + e₁.depth) ≤ 3 * n + 1
    omega
  | changeCase upper calls ih =>
    intro n left e hn hleft h
    exact ih n (.changeCase upper left) e hn hleft (build_changeCase.mp h).2
  | group inner ih =>
    intro n e hn h
    have hinner : e.depth + 3 ≤ 3 * n + 4 := Shallow.bracketed hn fun m hm => ih m e hm h
    exact Nat.le_of_add_le_add_right hinner
  | datePart d argument ih =>
    intro n e hn h
    obtain ⟨a, ha, -, rfl⟩ := build_datePart.mp h
    have hinner : a.depth + 3 ≤ 3 * n + 1 := Shallow.bracketed hn fun m hm => ih m a hm ha
    show 1 + a.depth ≤ 3 * n + 1
    omega
  | pattern body flags target ih =>
    intro n e hn h
    obtain ⟨a, p, ha, -, -, rfl⟩ := build_pattern.mp h
    have hinner : a.depth + 3 ≤ 3 * n + 1 := Shallow.bracketed hn fun m hm => ih m a hm ha
    show 1 + a.depth ≤ 3 * n + 1
    omega
  | newPattern body flags target ih =>
    intro n e hn h
    obtain ⟨a, p, ha, -, -, rfl⟩ := build_newPattern.mp h
    have hinner : a.depth + 3 ≤ 3 * n + 1 := Shallow.bracketed hn fun m hm => ih m a hm ha
    show 1 + a.depth ≤ 3 * n + 1
    omega
  | negative value =>
    intro n e _ h
    obtain ⟨d, -, rfl⟩ := build_negative.mp h
    exact Nat.le_add_left 1 _
  | text | number | field =>
    intro n e _ h
    obtain rfl := Option.some.inj h
    exact Nat.le_add_left 1 _

end Phrase

theorem Built.depth_le {c : Construct} {n : Nat} {e : Expr} {w : List Terminal}
    (h : Built c n e w) : e.depth ≤ 3 * n + c.height := by
  obtain ⟨p, -, hn, hb⟩ := h
  exact (p.flat n e hn hb).depth_le

theorem parseOperand_depth_le {source : String} {e : Expr} (h : parseOperand source = .ok e) :
    e.depth ≤ 3 * maxNesting + 1 := by
  obtain ⟨ts, -, hb⟩ := built_of_parseOperand h
  exact hb.depth_le

end

end Condition

namespace Tree

theorem joinParts_depthWithin_le {kind : Join} {n : Nat} {parts : List Expr} {e : Expr}
    (he : e.depthWithin (some kind) ≤ n) (h : ∀ part ∈ parts, part.depth ≤ n) :
    (joinParts kind e parts).depthWithin (some kind) ≤ n := by
  induction parts generalizing e with
  | nil => exact he
  | cons part parts ih =>
    obtain ⟨hpart, hparts⟩ := List.forall_mem_cons.mp h
    apply ih _ hparts
    rw [Expr.depthWithin_run]
    exact Nat.max_le.mpr ⟨he, hpart⟩

theorem denotes_depth_le [Pattern.Engine] {room : Nat} {v : Value} {e : Expr}
    (h : Denotes room v e) :
    e.depth ≤ room + (3 * maxNesting + 1) := by
  induction room generalizing v e with
  | zero => exact h.elim
  | succ room ih =>
    cases h with
    | @compare _ _ _ op _ target value _ _ _ _ hfield _ hvalue _ =>
      have htarget := parseOperand_depth_le hfield
      have hliteral : value.depth = 1 := by cases hvalue <;> rfl
      show 1 + max target.depth value.depth ≤ _
      omega
    | @contains _ _ needle target _ _ hfield _ _ =>
      have htarget := parseOperand_depth_le hfield
      show max target.depth (1 + 1) ≤ _
      unfold maxNesting at *
      omega
    | @«matches» _ _ _ _ target pattern _ _ hfield _ _ _ _ =>
      have htarget := parseOperand_depth_le hfield
      show 1 + target.depth ≤ _
      omega
    | @join _ _ kind _ _ first parts _ _ _ hfirst hparts =>
      have hrun : (joinParts kind first parts).depthWithin (some kind) ≤
          room + (3 * maxNesting + 1) := by
        apply joinParts_depthWithin_le
        · exact (first.depthWithin_bounds kind).1.trans (ih hfirst)
        · intro part hpart
          obtain ⟨w, -, hw⟩ := exists_of_forall₂ hparts hpart
          exact ih hw
      have hlevel := ((joinParts kind first parts).depthWithin_bounds kind).2
      omega

end Tree

/-- Whatever a condition or a tree of any size compiles to is of limited depth: a run of joins is one
level above its deepest operand, a text gives three levels a bracket and four more at most, and a
tree one for each level of nodes above that of its fields. -/
theorem compiled_depth_bounded [Pattern.Engine] :
    (∀ kind l r, (Expr.join kind l r).depth =
      1 + (((Expr.join kind l r).operands kind).map Expr.depth).foldr max 0) ∧
    (∀ source e, parseCondition source = .ok e → e.depth ≤ 3 * maxNesting + 4) ∧
    ∀ indices v e, Tree.build (maxNesting + 1) indices v = .ok e → e.depth ≤ 4 * maxNesting + 2 := by
  refine ⟨Expr.depth_join, ?_, ?_⟩
  · intro source e h
    obtain ⟨ts, -, hb⟩ := built_of_parseCondition h
    exact hb.depth_le
  · intro indices v e h
    have hdepth := Tree.denotes_depth_le (Tree.build_denotes h)
    omega

def lateOrLarge : String :=
  "(day(transaction.date) > 20 && transaction.amount > 5 || transaction.amount > 80) === (1 < 2)"

def lateTree : Value :=
  .map [("operator", .text "and"), ("conditions", .list
    [.map [("operator", .text ">"), ("field", .text "(day(transaction.date))"), ("value", .int 20)],
      .map [("operator", .text "contains"), ("field", .text "transaction.merchant"),
        ("value", .text "Shop")]])]

open scoped Pattern.Builtin in
theorem compiled_depth_bounded_late :
    ∃ e e', parseCondition lateOrLarge = .ok e ∧ e.depth = 6 ∧ e.depth ≤ 3 * maxNesting + 4 ∧
      Tree.build (maxNesting + 1) [] lateTree = .ok e' ∧ e'.depth = 4 ∧
      e'.depth ≤ 4 * maxNesting + 2 := by
  let late (n : Nat) : Expr :=
    .compare .greater (.datePart .day (.field .date)) (.number (.finite false n 0))
  let large (n : Nat) : Expr := .compare .greater (.field .amount) (.number (.finite false n 0))
  have hparse : parseCondition lateOrLarge = .ok (.compare .same
      (.join .any (.join .all (late 20) (large 5)) (large 80))
      (.compare .less (.number (.finite false 1 0)) (.number (.finite false 2 0)))) := by
    decide +kernel
  have hbuild : Tree.build (maxNesting + 1) [] lateTree = .ok (.join .all (late 20)
      (.includes (.field .merchant) (.text "Shop"))) := by
    decide +kernel
  obtain ⟨-, htext, htree⟩ := compiled_depth_bounded
  exact ⟨_, _, hparse, rfl, htext _ _ hparse, hbuild, rfl, htree _ _ _ hbuild⟩

end LedgerRules
