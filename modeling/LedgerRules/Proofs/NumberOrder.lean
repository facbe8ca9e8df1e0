import Mathlib.Order.WithBotTop
import LedgerRules.Proofs.ShortestDigits
import LedgerRules.Value.Equality

/-! The order of all numbers. Every number but a not-a-number has a position on the line of the
rational numbers with an end added on either side, and comparison goes by the positions. So
integers, doubles taken by their shortest digits, and decimal numbers of any exponent stand in one
linear order. -/

namespace LedgerRules.Numeric

abbrev Position := WithBotTop ℚ

namespace Decimal
variable {a b : Decimal}

def position? : Decimal → Option Position
  | finite n c e => some (WithBotTop.coe (signed n (magnitude c e)))
  | infinite n => some (if n then ⊥ else ⊤)
  | nan .. => none

theorem position?_eq_none : a.position? = none ↔ a.isNan = true := by
  cases a <;> simp [position?, isNan]

theorem position?_isSome (h : a.isNan = false) : ∃ p, a.position? = some p := by
  cases a with
  | finite n c e => exact ⟨_, rfl⟩
  | infinite n => exact ⟨_, rfl⟩
  | nan => simp [isNan] at h

theorem compare_coe (x y : ℚ) : compare (WithBotTop.coe x) (WithBotTop.coe y) = compare x y :=
  compare_congr WithBotTop.coe_lt_coe WithBotTop.coe_lt_coe

theorem bot_lt_coe (x : ℚ) : ⊥ < WithBotTop.coe x := bot_lt_iff_ne_bot.mpr (WithBotTop.coe_ne_bot x)

theorem coe_lt_top (x : ℚ) : WithBotTop.coe x < ⊤ := lt_top_iff_ne_top.mpr (WithBotTop.coe_ne_top x)

theorem compare_ends (n n' : Bool) :
    compare (if n then ⊥ else ⊤ : Position) (if n' then ⊥ else ⊤) = compare n' n := by
  have hends : (⊥ : Position) < ⊤ := bot_lt_top
  cases n with
  | false =>
    cases n' with
    | false => exact compare_eq_iff_eq.mpr rfl
    | true => exact compare_gt_iff_gt.mpr hends
  | true =>
    cases n' with
    | false => exact compare_lt_iff_lt.mpr hends
    | true => exact compare_eq_iff_eq.mpr rfl

theorem order?_eq (a b : Decimal) : a.order? b = Option.map₂ compare a.position? b.position? := by
  cases a with
  | finite n c e =>
    cases b with
    | finite n' c' e' =>
      rw [order?_finite, position?, position?, Option.map₂_some_some, compare_coe]
    | infinite n' =>
      cases n' with
      | false => exact congrArg some (compare_lt_iff_lt.mpr (coe_lt_top _)).symm
      | true => exact congrArg some (compare_gt_iff_gt.mpr (bot_lt_coe _)).symm
    | nan => rfl
  | infinite n =>
    cases b with
    | finite n' c' e' =>
      cases n with
      | false => exact congrArg some (compare_gt_iff_gt.mpr (coe_lt_top _)).symm
      | true => exact congrArg some (compare_lt_iff_lt.mpr (bot_lt_coe _)).symm
    | infinite n' => exact congrArg some (compare_ends n n').symm
    | nan => rfl
  | nan => exact order?_nan_left _ _ _ b

theorem order?_nan (h : a.isNan = true ∨ b.isNan = true) : a.order? b = none := by
  rw [order?_eq]
  rcases h with h | h
  · rw [position?_eq_none.mpr h, Option.map₂_none_left]
  · rw [position?_eq_none.mpr h, Option.map₂_none_right]

theorem isSignaling_of_position? {p : Position} (h : a.position? = some p) :
    a.isSignaling = false := by
  cases a with
  | nan => simp [position?] at h
  | _ => rfl

end Decimal

theorem Binary64.isNan_toDecimal {x : Binary64} (h : x.Canonical) :
    x.toDecimal.isNan = true ↔ x = .nan := by
  cases x with
  | finite n m e =>
    obtain ⟨numeral, htext, hparse, -⟩ := toChars_numeral n h
    rw [parse?, ← htext] at hparse
    obtain ⟨d, hd, hvalue⟩ := Option.map_eq_some_iff.mp hparse
    rw [toDecimal, hd, Option.getD_some]
    cases d with
    | nan => simp [ofDecimal] at hvalue
    | _ => simp [Decimal.isNan]
  | infinite n => cases n <;> decide
  | nan => decide

end LedgerRules.Numeric

namespace LedgerRules.Value
open Numeric

variable {v w : Value} {a b : Decimal} {p q : Position}

def isNan : Value → Bool
  | float x => x = .nan
  | decimal d => d.isNan
  | _ => false

/-- A number of any sort; a binary one is a double. -/
inductive Number : Value → Prop
  | int (i : Int) : Number (.int i)
  | float {x : Binary64} : x.Canonical → Number (.float x)
  | decimal (d : Decimal) : Number (.decimal d)

theorem Number.number? (h : v.Number) : ∃ d, v.number? = some d ∧ d.isNan = v.isNan := by
  cases h with
  | int i => exact ⟨.ofInt i, rfl, rfl⟩
  | @float x hx =>
    refine ⟨x.toDecimal, rfl, ?_⟩
    rw [Bool.eq_iff_iff, Binary64.isNan_toDecimal hx]
    simp [isNan]
  | decimal d => exact ⟨d, rfl, rfl⟩

theorem compare_beq (p q : Position) : (compare p q == .eq) = decide (p = q) := by
  rw [Bool.eq_iff_iff, beq_iff_eq, compare_eq_iff_eq, decide_eq_true_iff]

theorem decimalEquals_positions (ha : a.position? = some p) (hb : b.position? = some q) :
    decimalEquals a b = .ok (decide (p = q)) := by
  have hquiet : (a.isSignaling || b.isSignaling) = false := by
    rw [Decimal.isSignaling_of_position? ha, Decimal.isSignaling_of_position? hb, Bool.or_self]
  rw [decimalEquals, if_neg (by rw [hquiet]; decide), Decimal.order?_eq, ha, hb, ← compare_beq]
  rfl

theorem decimalEquals_comm (a b : Decimal) : decimalEquals a b = decimalEquals b a := by
  have horder : (a.order? b == some .eq) = (b.order? a == some .eq) := by
    rw [Decimal.order?_eq, Decimal.order?_eq]
    cases a.position? with
    | none => cases b.position? <;> rfl
    | some p =>
      cases b.position? with
      | none => rfl
      | some q =>
        rw [Option.map₂_some_some, Option.map₂_some_some, Option.some_beq_some,
          Option.some_beq_some, compare_beq, compare_beq, decide_eq_decide]
        exact eq_comm
  rw [decimalEquals, decimalEquals, horder, Bool.or_comm]

end LedgerRules.Value
