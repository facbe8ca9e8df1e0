import LedgerRules.Pattern.Builtin
import LedgerRules.Proofs.JoinedRuns
import LedgerRules.Proofs.NumberOrder

/-! The six comparisons on numbers. Equality and order are decided by different code, but both come
down to the positions of the two numbers on one line. So the comparisons of any two numbers fit
together, whatever sorts of number they are and however they are written; only a not-a-number, which
has no position, cannot be ordered and equals nothing. -/

namespace LedgerRules
open Numeric

section
variable {op : CompareOp} {v w : Value} {a b : Decimal} {p q : Position}

def CompareOp.relates (op : CompareOp) (p q : Position) : Prop :=
  match op with
  | same => p = q
  | different => p ≠ q
  | greater => q < p
  | less => p < q
  | atLeast => q ≤ p
  | atMost => p ≤ q

theorem CompareOp.accepts_compare (op : CompareOp) (p q : Position) :
    op.accepts (compare p q) = true ↔ op.relates p q := by
  cases op with
  | same => exact beq_iff_eq.trans compare_eq_iff_eq
  | different => exact bne_iff_ne.trans (not_congr compare_eq_iff_eq)
  | greater => exact beq_iff_eq.trans compare_gt_iff_gt
  | less => exact beq_iff_eq.trans compare_lt_iff_lt
  | atLeast => exact bne_iff_ne.trans ((not_congr compare_lt_iff_lt).trans not_lt)
  | atMost => exact bne_iff_ne.trans ((not_congr compare_gt_iff_gt).trans not_lt)

theorem evalEquality_positions (hv : v.number? = some a) (hw : w.number? = some b)
    (ha : a.position? = some p) (hb : b.position? = some q) :
    evalEquality v w = .ok (compare p q == .eq) := by
  rw [evalEquality, Value.strictEquals_numbers hv hw, Value.decimalEquals_positions ha hb,
    Value.compare_beq]

theorem evalCompare_positions (hv : v.number? = some a) (hw : w.number? = some b)
    (ha : a.position? = some p) (hb : b.position? = some q) (op : CompareOp) :
    evalCompare op v w = .ok (op.accepts (compare p q)) := by
  have horder : a.order? b = some (compare p q) := by
    rw [Decimal.order?_eq, ha, hb, Option.map₂_some_some]
  cases op with
  | same => exact evalEquality_positions hv hw ha hb
  | different =>
    rw [evalCompare, evalEquality_positions hv hw ha hb]
    rfl
  | greater | less | atLeast | atMost => simp only [evalCompare, hv, hw, horder]

theorem evalCompare_nan (hv : v.number? = some a) (hw : w.number? = some b)
    (hnan : a.isNan = true ∨ b.isNan = true) (hop : op.isOrdering = true) :
    evalCompare op v w = .error (.rule (.unordered a b)) := by
  have horder := Decimal.order?_nan hnan
  cases op with
  | same | different => simp [CompareOp.isOrdering] at hop
  | greater | less | atLeast | atMost => simp only [evalCompare, hv, hw, horder]

theorem evalEquality_nan (hv : v.number? = some a) (hw : w.number? = some b)
    (hnan : a.isNan = true ∨ b.isNan = true) (ha : a.isSignaling = false)
    (hb : b.isSignaling = false) : evalEquality v w = .ok false := by
  have horder := Decimal.order?_nan hnan
  simp [evalEquality, Value.strictEquals_numbers hv hw, Value.decimalEquals, ha, hb, horder]

end

namespace Expr
variable {record : FieldValues} {x y z : Expr} {v w : Value} {p q : Position}

section
variable [Pattern.Engine]

theorem eval_compare (hx : x.eval Clock.unlimited record = .ok v)
    (hy : y.eval Clock.unlimited record = .ok w) (op : CompareOp) :
    (compare op x y).eval Clock.unlimited record = (evalOperands op x y v w).map .bool := by
  rw [eval_eq_outcome] at hx hy
  rw [eval_eq_outcome, outcome, hx, hy]
  rfl

theorem eval_compare_number {a : Decimal} (hx : x.eval Clock.unlimited record = .ok v)
    (hy : y.eval Clock.unlimited record = .ok w) (hv : v.number? = some a) (op : CompareOp) :
    (compare op x y).eval Clock.unlimited record = (evalCompare op v w).map .bool := by
  have hscalar : v.isCollection = false := by
    cases v with
    | list | map => simp [Value.number?] at hv
    | _ => rfl
  rw [eval_compare hx hy, evalOperands_scalar hscalar]

/-- The operand comes to a number on the record, and not to a not-a-number. -/
def IsNumber (record : FieldValues) (e : Expr) : Prop :=
  ∃ v, e.eval Clock.unlimited record = .ok v ∧ v.Number ∧ v.isNan = false

/-- The operand comes to a number with this position. -/
def StandsAt (record : FieldValues) (e : Expr) (p : Position) : Prop :=
  ∃ v a, e.eval Clock.unlimited record = .ok v ∧ v.number? = some a ∧ a.position? = some p

theorem IsNumber.standsAt (h : x.IsNumber record) : ∃ p, x.StandsAt record p := by
  obtain ⟨v, hx, hv, hnan⟩ := h
  obtain ⟨a, ha, hsame⟩ := hv.number?
  obtain ⟨p, hp⟩ := Decimal.position?_isSome (hsame.trans hnan)
  exact ⟨p, v, a, hx, ha, hp⟩

theorem StandsAt.answer (hx : x.StandsAt record p) (hy : y.StandsAt record q) (op : CompareOp) :
    (compare op x y).eval Clock.unlimited record =
      .ok (.bool (op.accepts (Ord.compare p q))) := by
  obtain ⟨v, a, hx, hv, ha⟩ := hx
  obtain ⟨w, b, hy, hw, hb⟩ := hy
  rw [eval_compare_number hx hy hv, evalCompare_positions hv hw ha hb]
  rfl

def Compares (record : FieldValues) (op : CompareOp) (x y : Expr) : Prop :=
  (compare op x y).eval Clock.unlimited record = .ok (.bool true)

theorem StandsAt.compares_iff (hx : x.StandsAt record p) (hy : y.StandsAt record q)
    (op : CompareOp) : Compares record op x y ↔ op.relates p q := by
  rw [Compares, hx.answer hy, ← op.accepts_compare]
  simp

structure Coherent (record : FieldValues) (x y : Expr) : Prop where
  answers : ∀ op, ∃ b, (compare op x y).eval Clock.unlimited record = .ok (.bool b)
  exactlyOne :
    Compares record .less x y ∧ ¬Compares record .same x y ∧ ¬Compares record .greater x y ∨
    ¬Compares record .less x y ∧ Compares record .same x y ∧ ¬Compares record .greater x y ∨
    ¬Compares record .less x y ∧ ¬Compares record .same x y ∧ Compares record .greater x y
  atMost : Compares record .atMost x y ↔ Compares record .less x y ∨ Compares record .same x y
  atLeast : Compares record .atLeast x y ↔
    Compares record .greater x y ∨ Compares record .same x y
  different : Compares record .different x y ↔ ¬Compares record .same x y

theorem StandsAt.coherent (hx : x.StandsAt record p) (hy : y.StandsAt record q) :
    Coherent record x y := by
  constructor
  · intro op
    exact ⟨_, hx.answer hy op⟩
  · simp only [hx.compares_iff hy, CompareOp.relates]
    rcases lt_trichotomy p q with h | h | h
    · exact .inl ⟨h, h.ne, h.asymm⟩
    · exact .inr (.inl ⟨h.not_lt, h, h.not_gt⟩)
    · exact .inr (.inr ⟨h.asymm, h.ne', h⟩)
  · simp only [hx.compares_iff hy, CompareOp.relates]
    exact le_iff_lt_or_eq
  · simp only [hx.compares_iff hy, CompareOp.relates]
    rw [le_iff_lt_or_eq, eq_comm]
  · simp only [hx.compares_iff hy, CompareOp.relates]

theorem StandsAt.compares_trans {r : Position} (hx : x.StandsAt record p) (hy : y.StandsAt record q)
    (hz : z.StandsAt record r) (hxy : Compares record .less x y) (hyz : Compares record .less y z) :
    Compares record .less x z := by
  rw [hx.compares_iff hy] at hxy
  rw [hy.compares_iff hz] at hyz
  rw [hx.compares_iff hz]
  exact lt_trans hxy hyz

theorem StandsAt.compares_congr {r : Position} (hx : x.StandsAt record p) (hy : y.StandsAt record q)
    (hz : z.StandsAt record r) (hxy : Compares record .same x y) (op : CompareOp) :
    (compare op x z).eval Clock.unlimited record = (compare op y z).eval Clock.unlimited record ∧
      (compare op z x).eval Clock.unlimited record =
        (compare op z y).eval Clock.unlimited record := by
  rw [hx.compares_iff hy] at hxy
  obtain rfl : p = q := hxy
  rw [hx.answer hz, hy.answer hz, hz.answer hx, hz.answer hy]
  exact ⟨rfl, rfl⟩

theorem compare_nan (hx : x.eval Clock.unlimited record = .ok v)
    (hy : y.eval Clock.unlimited record = .ok w) (hv : v.Number) (hw : w.Number)
    (hnan : v.isNan = true ∨ w.isNan = true) :
    ∃ a b, v.number? = some a ∧ w.number? = some b ∧
      (∀ op : CompareOp, op.isOrdering = true →
        (compare op x y).eval Clock.unlimited record = .error (.rule (.unordered a b))) ∧
      (a.isSignaling = false → b.isSignaling = false →
        (compare .same x y).eval Clock.unlimited record = .ok (.bool false)) := by
  obtain ⟨a, ha, hva⟩ := hv.number?
  obtain ⟨b, hb, hwb⟩ := hw.number?
  rw [← hva, ← hwb] at hnan
  refine ⟨a, b, ha, hb, ?_, ?_⟩
  · intro op hop
    rw [eval_compare_number hx hy ha, evalCompare_nan ha hb hnan hop]
    rfl
  · intro hquiet hquiet'
    rw [eval_compare_number hx hy ha, evalCompare, evalEquality_nan ha hb hnan hquiet hquiet']
    rfl

/-- The comparisons of numbers fit together. They go by the positions of the two numbers, so any two
operands that come to numbers, whatever sorts of number, are less, equal or greater and just one of
these, and the other three operators go by that; less is transitive, and equal operands can stand
for each other in every comparison. Where an operand is a not-a-number no ordering has an answer,
and a quiet one equals nothing. -/
theorem comparisons_coherent (record : FieldValues) :
    (∀ (x y : Expr) (p q : Position), x.StandsAt record p → y.StandsAt record q →
      ∀ op : CompareOp, Compares record op x y ↔ op.relates p q) ∧
    (∀ x y : Expr, x.IsNumber record → y.IsNumber record → Coherent record x y) ∧
    (∀ x y z : Expr, x.IsNumber record → y.IsNumber record → z.IsNumber record →
      (Compares record .less x y → Compares record .less y z → Compares record .less x z) ∧
      (Compares record .same x y → ∀ op : CompareOp,
        (compare op x z).eval Clock.unlimited record =
            (compare op y z).eval Clock.unlimited record ∧
          (compare op z x).eval Clock.unlimited record =
            (compare op z y).eval Clock.unlimited record)) ∧
    ∀ (x y : Expr) (v w : Value), x.eval Clock.unlimited record = .ok v →
      y.eval Clock.unlimited record = .ok w → v.Number → w.Number →
      v.isNan = true ∨ w.isNan = true → ∃ a b, v.number? = some a ∧ w.number? = some b ∧
      (∀ op : CompareOp, op.isOrdering = true →
        (compare op x y).eval Clock.unlimited record = .error (.rule (.unordered a b))) ∧
      (a.isSignaling = false → b.isSignaling = false →
        (compare .same x y).eval Clock.unlimited record = .ok (.bool false)) := by
  refine ⟨?_, ?_, ?_, ?_⟩
  · intro x y p q hx hy op
    exact hx.compares_iff hy op
  · intro x y hx hy
    obtain ⟨p, hp⟩ := hx.standsAt
    obtain ⟨q, hq⟩ := hy.standsAt
    exact hp.coherent hq
  · intro x y z hx hy hz
    obtain ⟨p, hp⟩ := hx.standsAt
    obtain ⟨q, hq⟩ := hy.standsAt
    obtain ⟨r, hr⟩ := hz.standsAt
    exact ⟨hp.compares_trans hq hr, hp.compares_congr hq hr⟩
  · intro x y v w hx hy hv hw hnan
    exact compare_nan hx hy hv hw hnan

end

open scoped Pattern.Builtin in
theorem comparisons_coherent_powers :
    let power : Expr := .number (.finite false 1 22)
    let record : FieldValues := fun
      | .amount => some (.int 10000000000000000000000)
      | .merchant => some (.float (.zero true))
      | .account => some (.decimal (.nan false false 0))
      | _ => none
    Compares record .same power (.field .amount) ∧
      Coherent record (.field .merchant) power ∧
      Compares record .less (.field .merchant) power ∧
      Compares record .less (.field .merchant) (.field .amount) ∧
      (compare .less (.field .account) power).eval Clock.unlimited record =
        .error (.rule (.unordered (.nan false false 0) (.finite false 1 22))) ∧
      (compare .same (.field .account) power).eval Clock.unlimited record = .ok (.bool false) := by
  intro power record
  obtain ⟨hpositions, hcoherent, hthree, hnan⟩ := comparisons_coherent record
  have hpower : power.IsNumber record := ⟨_, rfl, .decimal _, rfl⟩
  have hamount : (Expr.field .amount).IsNumber record := ⟨_, rfl, .int _, rfl⟩
  have hzero : (Expr.field .merchant).IsNumber record :=
    ⟨_, rfl, .float (Binary64.zero_canonical true), rfl⟩
  have hsame : Compares record .same power (.field .amount) := by
    refine (hpositions _ _ _ _ ⟨_, _, rfl, rfl, rfl⟩ ⟨_, _, rfl, rfl, rfl⟩ .same).mpr ?_
    norm_num [CompareOp.relates, Decimal.signed, magnitude]
  have hless : Compares record .less (.field .merchant) power := rfl
  obtain ⟨-, hreplace⟩ := hthree power (.field .amount) (.field .merchant) hpower hamount hzero
  obtain ⟨a, b, ha, hb, hordering, hequal⟩ := hnan (.field .account) power
    (.decimal (.nan false false 0)) (.decimal (.finite false 1 22)) rfl rfl (.decimal _)
    (.decimal _) (.inl rfl)
  obtain rfl := Option.some.inj ha
  obtain rfl := Option.some.inj hb
  refine ⟨hsame, hcoherent _ _ hzero hpower, hless, ?_, hordering .less rfl, hequal rfl rfl⟩
  rw [Compares, ← (hreplace hsame .less).2]
  exact hless

end Expr

end LedgerRules
