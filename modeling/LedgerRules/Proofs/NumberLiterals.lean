import LedgerRules.Pattern.Builtin
import LedgerRules.Proofs.FieldComparisons

/-! Numbers in conditions. A number is kept with all its digits, so a comparison with it goes by the
number that the digits spell. A minus sign is an operation that rounds: a comparison with a number
behind one goes by the opposite number if that one can be held in working precision, and by some
other number, or none at all, if it cannot. -/

namespace LedgerRules
open Numeric Text Condition

namespace Condition

structure DigitText where
  whole : List Char
  fraction : List Char
  begins : whole ≠ []
  digits : ∀ c ∈ whole ++ fraction, isDecimalDigit c = true

namespace DigitText

def text (n : DigitText) : List Char := n.whole ++ pointOf n.fraction ++ n.fraction

def value (n : DigitText) : ℚ :=
  digitsValue n.whole + digitsValue n.fraction / 10 ^ n.fraction.length

def read (n : DigitText) : Decimal := numberValue n.whole n.fraction

theorem magnitude_eq (n : DigitText) :
    magnitude (digitsValue (n.whole ++ n.fraction)) (-(n.fraction.length : Int)) = n.value := by
  have hten : (10 : ℚ) ^ n.fraction.length ≠ 0 := by positivity
  rw [magnitude, digitsValue_append_digits, value, zpow_neg, zpow_natCast]
  push_cast
  field_simp

theorem position (n : DigitText) : n.read.position? = some (WithBotTop.coe n.value) := by
  rw [← n.magnitude_eq]
  rfl

theorem negates_iff (n : DigitText) :
    (∃ d, n.read.negated? = some d ∧ d.HasValue (-n.value)) ↔ Decimal.Holdable n.value := by
  rw [← n.magnitude_eq]
  exact Decimal.negates_iff

theorem spells (n : DigitText) : Spells n.text (Phrase.number n.read).yield [] :=
  spells_number n.begins n.digits ⟨nofun, nofun⟩

theorem spells_negative (n : DigitText) :
    Spells ('-' :: n.text) (Phrase.negative n.read).yield [] :=
  (spells_plain (s := .minus) rfl (n.text ++ [])).append n.spells

end DigitText

end Condition

theorem CompareOp.eq_of_relates (op : CompareOp) {p q : Position}
    (hp : op.relates p p ↔ op.relates p q) (hq : op.relates q p ↔ op.relates q q) : p = q := by
  cases op with
  | same => exact hp.mp rfl
  | different =>
    by_contra hne
    exact hp.mpr hne rfl
  | greater =>
    have hqp : ¬q < p := fun h => lt_irrefl p (hp.mpr h)
    have hpq : ¬p < q := fun h => lt_irrefl q (hq.mp h)
    exact le_antisymm (not_lt.mp hqp) (not_lt.mp hpq)
  | less =>
    have hpq : ¬p < q := fun h => lt_irrefl p (hp.mpr h)
    have hqp : ¬q < p := fun h => lt_irrefl q (hq.mp h)
    exact le_antisymm (not_lt.mp hqp) (not_lt.mp hpq)
  | atLeast => exact le_antisymm (hq.mpr le_rfl) (hp.mp le_rfl)
  | atMost => exact le_antisymm (hp.mp le_rfl) (hq.mpr le_rfl)

section
variable {v : Value} {d : Decimal} {p : Position} {op : CompareOp}

theorem evalEquality_unplaced (hv : ∀ a, v.number? = some a → a.position? = none) (d : Decimal) :
    evalEquality v (.decimal d) ≠ .ok true := by
  cases hnumber : v.number? with
  | none =>
    have hunequal : v.strictEquals (.decimal d) = .ok false := by
      cases v with
      | int | float | decimal => simp [Value.number?] at hnumber
      | _ => rfl
    simp [evalEquality, hunequal]
  | some a =>
    have hnan := Decimal.position?_eq_none.mp (hv a hnumber)
    have hnumber' : (Value.decimal d).number? = some d := rfl
    rw [evalEquality, Value.strictEquals_numbers hnumber hnumber', Value.decimalEquals,
      Decimal.order?_nan (.inl hnan)]
    cases a.isSignaling || d.isSignaling <;> simp

theorem evalCompare_unplaced (hv : ∀ a, v.number? = some a → a.position? = none)
    (hop : op.isOrdering = true) (d : Decimal) : evalCompare op v (.decimal d) ≠ .ok true := by
  cases hnumber : v.number? with
  | none =>
    cases op with
    | same | different => simp [CompareOp.isOrdering] at hop
    | _ => simp [evalCompare, hnumber]
  | some a =>
    have hnan := Decimal.position?_eq_none.mp (hv a hnumber)
    rw [evalCompare_nan hnumber rfl (.inl hnan) hop]
    simp

theorem evalCompare_number_iff (hd : d.position? = some p) (hop : op ≠ .different) :
    evalCompare op v (.decimal d) = .ok true ↔
      ∃ a q, v.number? = some a ∧ a.position? = some q ∧ op.relates q p := by
  constructor
  · intro h
    by_contra hnone
    have hunplaced : ∀ a, v.number? = some a → a.position? = none := by
      intro a ha
      by_contra hplaced
      obtain ⟨q, hq⟩ := Option.ne_none_iff_exists'.mp hplaced
      rw [evalCompare_positions ha rfl hq hd, Except.ok.injEq, op.accepts_compare] at h
      exact hnone ⟨a, q, ha, hq, h⟩
    cases op with
    | same => exact evalEquality_unplaced hunplaced d h
    | different => exact hop rfl
    | _ => exact evalCompare_unplaced hunplaced rfl d h
  · rintro ⟨a, q, ha, hq, hrelates⟩
    rw [evalCompare_positions ha rfl hq hd, Except.ok.injEq, op.accepts_compare]
    exact hrelates

end

def FieldValues.AmountRelates (record : FieldValues) (op : CompareOp) (p : Position) : Prop :=
  ∃ v a q, record .amount = some v ∧ v.number? = some a ∧ a.position? = some q ∧ op.relates q p

def Predicate.ComparesAmount [Pattern.Engine] (p : Predicate) (op : CompareOp) (x : ℚ) : Prop :=
  ∀ record : FieldValues, p.holds Clock.unlimited record = .ok true ↔
    record.AmountRelates op (WithBotTop.coe x)

section
variable {op : CompareOp} {source : String} {d : Decimal} {p : Position}

theorem holds_amount_iff [Pattern.Engine] (hd : d.position? = some p) (hop : op ≠ .different)
    (record : FieldValues) :
    (Predicate.mk source (.compare op (.field .amount) (.number d))).holds Clock.unlimited record =
      .ok true ↔ record.AmountRelates op p := by
  rw [holds_comparison_iff (e := .number d) nofun rfl]
  simp only [evalCompare_number_iff hd hop, FieldValues.AmountRelates, exists_and_left]

theorem amountRelates_decimal {a : Decimal} {q : Position} (ha : a.position? = some q) :
    FieldValues.AmountRelates (fun _ => some (.decimal a)) op p ↔ op.relates q p := by
  constructor
  · rintro ⟨v, b, q', hv, hb, hq', h⟩
    obtain rfl := Option.some.inj hv
    obtain rfl := Option.some.inj hb
    obtain rfl := Option.some.inj (ha.symm.trans hq')
    exact h
  · intro h
    exact ⟨_, a, q, rfl, rfl, ha, h⟩

theorem comparesAmount_iff [Pattern.Engine] {x : ℚ} {b : Decimal} (hd : d.position? = some p)
    (hb : b.position? = some (WithBotTop.coe x)) (hop : op ≠ .different) :
    (Predicate.mk source (.compare op (.field .amount) (.number d))).ComparesAmount op x ↔
      p = WithBotTop.coe x := by
  constructor
  · intro h
    have hagree : ∀ a q, Decimal.position? a = some q →
        (op.relates q p ↔ op.relates q (WithBotTop.coe x)) := by
      intro a q ha
      have hrecord := h fun _ => some (.decimal a)
      rwa [holds_amount_iff hd hop, amountRelates_decimal ha, amountRelates_decimal ha] at hrecord
    exact op.eq_of_relates (hagree d p hd) (hagree b _ hb)
  · rintro rfl record
    exact holds_amount_iff hd hop record

end

section
variable [Pattern.Engine]

namespace Condition

variable {op : CompareOp}

theorem DigitText.compares (n : DigitText) (hop : op ≠ .different) :
    ∃ p, compile (String.ofList (comparisonText .amount op n.text)) = .ok p ∧
      p.ComparesAmount op n.value := by
  have hcompile := (compile_comparison_iff .amount op n.spells rfl).mpr
    ⟨.number n.read, rfl, fun _ => ⟨rfl, rfl⟩, rfl⟩
  exact ⟨_, hcompile, (comparesAmount_iff n.position n.position hop).mpr rfl⟩

theorem DigitText.compares_negative_iff (n : DigitText) (hop : op ≠ .different) :
    (∃ p, compile (String.ofList (comparisonText .amount op ('-' :: n.text))) = .ok p ∧
      p.ComparesAmount op (-n.value)) ↔ Decimal.Holdable n.value := by
  have hopposite : (Decimal.finite true (digitsValue (n.whole ++ n.fraction))
      (-(n.fraction.length : Int))).position? = some (WithBotTop.coe (-n.value)) := by
    rw [← n.magnitude_eq]
    rfl
  rw [← n.negates_iff]
  constructor
  · rintro ⟨p, hp, hcompares⟩
    obtain ⟨value, hvalue, -, rfl⟩ :=
      (compile_comparison_iff .amount op n.spells_negative rfl).mp hp
    obtain ⟨d, hd, rfl⟩ := Option.map_eq_some_iff.mp hvalue
    obtain ⟨⟨c, e⟩, hw, rfl⟩ := Option.map_eq_some_iff.mp hd
    have hposition := (comparesAmount_iff rfl hopposite hop).mp hcompares
    exact ⟨_, hd, _, c, e, rfl, WithBotTop.coe_injective hposition⟩
  · rintro ⟨d, hd, _, c, e, rfl, hvalue⟩
    have hcompile := (compile_comparison_iff .amount op n.spells_negative rfl).mpr
      ⟨.number _, Option.map_eq_some_iff.mpr ⟨_, hd, rfl⟩, fun _ => ⟨rfl, rfl⟩, rfl⟩
    exact ⟨_, hcompile, (comparesAmount_iff rfl hopposite hop).mpr (congrArg WithBotTop.coe hvalue)⟩

end Condition

/-- What number literals say. A comparison of the amount with digits compiles, however many there
are, and goes by the number that they spell. With a minus sign in front it compiles and goes by the
opposite number just when that number has at most 28 significant digits, none of them below the
working exponents or beyond. -/
theorem number_literals (n : DigitText) (op : CompareOp) (hop : op ≠ .different) :
    (∃ p, compile (String.ofList (comparisonText .amount op n.text)) = .ok p ∧
      p.ComparesAmount op n.value) ∧
    ((∃ p, compile (String.ofList (comparisonText .amount op ('-' :: n.text))) = .ok p ∧
      p.ComparesAmount op (-n.value)) ↔ Decimal.Holdable n.value) :=
  ⟨n.compares hop, n.compares_negative_iff hop⟩

end

def paddedDigits : DigitText where
  whole := ['0', '7']
  fraction := ['5', '0']
  begins := by decide
  digits := List.all_eq_true.mp (by decide +kernel)

open scoped Pattern.Builtin in
theorem number_literals_padded :
    String.ofList (comparisonText .amount .less ('-' :: paddedDigits.text)) =
        "transaction.amount < -07.50" ∧
      (∃ p, compile "transaction.amount < 07.50" = .ok p ∧ p.ComparesAmount .less (15 / 2)) ∧
      ∃ p, compile "transaction.amount < -07.50" = .ok p ∧ p.ComparesAmount .less (-(15 / 2)) := by
  have hless : CompareOp.less ≠ .different := by decide
  have htext : String.ofList (comparisonText .amount .less paddedDigits.text) =
      "transaction.amount < 07.50" := by decide
  have hnegative : String.ofList (comparisonText .amount .less ('-' :: paddedDigits.text)) =
      "transaction.amount < -07.50" := by decide
  have hvalue : paddedDigits.value = 15 / 2 := by
    have hwhole : digitsValue ['0', '7'] = 7 := by decide
    have hfraction : digitsValue ['5', '0'] = 50 := by decide
    norm_num [DigitText.value, paddedDigits, hwhole, hfraction]
  have hholdable : Decimal.Holdable (15 / 2) := by
    refine ⟨⟨75, -1, by decide, by decide, by norm_num [magnitude]⟩, ?_⟩
    calc (15 / 2 : ℚ) < 10 ^ (1 : Int) := by norm_num
      _ ≤ 10 ^ (Decimal.workingMax + 1) := zpow_le_zpow_right₀ (by norm_num) (by decide)
  obtain ⟨hplain, hiff⟩ := number_literals paddedDigits .less hless
  rw [hvalue] at hplain hiff
  rw [htext] at hplain
  rw [hnegative] at hiff
  exact ⟨hnegative, hplain, hiff.mpr hholdable⟩

open scoped Pattern.Builtin in
/-- A number of 29 digits behind a minus sign loses the last one, and is not equal to itself. -/
theorem negative_literal_rounds :
    ∃ p, compile "transaction.amount === -12345678901234567890123456789" = .ok p ∧
      p.holds Clock.unlimited
        (fun _ => some (.decimal (.finite true 12345678901234567890123456789 0))) = .ok false :=
  ⟨⟨"transaction.amount === -12345678901234567890123456789",
    .compare .same (.field .amount) (.number (.finite true 1234567890123456789012345679 1))⟩,
    by decide +kernel, by decide +kernel⟩

end LedgerRules
