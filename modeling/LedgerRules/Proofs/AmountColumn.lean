import LedgerRules.Pattern.Builtin
import LedgerRules.Proofs.DatabaseHistory
import LedgerRules.Proofs.ShortestDigits

/-! Amounts in a column of two digits after the point. An amount is kept as the nearest binary number
and read back as the nearest hundredth of that. The hundredths are met again as long as the binary
numbers lie close enough to each other, and exactly where some binary number is read back so. -/

namespace LedgerRules

namespace Numeric
open Binary64 (Fitting)

structure Rounds (k : Nat) (x : ℚ) : Prop where
  near : |x - k| ≤ 1 / 2
  tie : k % 2 = 0 ∨ |x - k| < 1 / 2

theorem Rounds.closer {k : Nat} {x y : ℚ} (h : Rounds k x) (hle : |y - k| ≤ |x - k|) :
    Rounds k y := by
  constructor
  · exact hle.trans h.near
  · exact h.tie.imp_right hle.trans_lt

theorem divHalfEven_tie (num : Nat) {den : Nat} (hden : 0 < den) :
    divHalfEven num den % 2 = 0 ∨ |(num / den : ℚ) - divHalfEven num den| < 1 / 2 := by
  have hpos : (0 : ℚ) < den := by exact_mod_cast hden
  have hcut := Nat.div_add_mod num den
  have hrest := Nat.mod_lt num hden
  unfold divHalfEven
  dsimp only
  generalize num / den = q at *
  generalize num % den = r at *
  have hnum : (num : ℚ) = den * q + r := by exact_mod_cast hcut.symm
  have hquotient : (num / den : ℚ) = q + r / den := by
    rw [hnum]
    field_simp
  rw [hquotient]
  split
  next hlow =>
    right
    have hhalf : (r : ℚ) / den < 1 / 2 := by
      rw [div_lt_iff₀ hpos]
      have : (2 * r : ℚ) < den := by exact_mod_cast hlow
      linarith
    rwa [add_sub_cancel_left, abs_of_nonneg (by positivity)]
  next =>
    split
    next hhigh =>
      right
      have hhalf : 1 / 2 < (r : ℚ) / den := by
        rw [lt_div_iff₀ hpos]
        have : (den : ℚ) < 2 * r := by exact_mod_cast hhigh
        linarith
      have hone : (r : ℚ) / den < 1 := by
        rw [div_lt_one hpos]
        exact_mod_cast hrest
      push_cast
      rw [abs_lt]
      constructor <;> linarith
    next =>
      left
      omega

theorem divHalfEven_iff {num den k : Nat} (hden : 0 < den) :
    divHalfEven num den = k ↔ Rounds k (num / den) := by
  have hpos : (den : ℚ) ≠ 0 := by exact_mod_cast hden.ne'
  constructor
  · rintro rfl
    constructor
    · rw [abs_sub_comm]
      exact Binary64.Neighbourhood.divHalfEven_error num hden
    · exact divHalfEven_tie num hden
  · intro h
    have hnear := abs_le.mp h.near
    apply divHalfEven_near hden (div_mul_cancel₀ _ hpos)
    · linarith
    · linarith
    · refine h.tie.imp_right fun htie => ?_
      have hstrict := abs_lt.mp htie
      constructor <;> linarith

theorem divHalfEven_nearest (num : Nat) {den : Nat} (hden : 0 < den) (j : Nat) :
    |(divHalfEven num den : ℚ) - num / den| ≤ |(j : ℚ) - num / den| := by
  have herror := Binary64.Neighbourhood.divHalfEven_error num hden
  by_cases hsame : j = divHalfEven num den
  · rw [hsame]
  · have hapart : (1 : ℚ) ≤ |(j : ℚ) - divHalfEven num den| := by
      have hint : (1 : ℤ) ≤ |(j : ℤ) - divHalfEven num den| := Int.one_le_abs (by omega)
      exact_mod_cast hint
    have htriangle := abs_sub_le (j : ℚ) (num / den) (divHalfEven num den)
    rw [abs_sub_comm (num / den : ℚ)] at htriangle
    linarith

namespace Binary64
variable {negative n : Bool} {num den m m' : Nat} {e e' : Int}

theorem ofRatio_multiple (hnum : num ≠ 0) (hden : den ≠ 0)
    (h : ofRatio negative num den = finite n m e) :
    let unit := max minExponent (floorLog num den - 52)
    |(m * 2 ^ e : ℚ) - num / den| ≤ 2 ^ unit / 2 ∧
      ∀ j : Nat, |(m * 2 ^ e : ℚ) - num / den| ≤ |(j * 2 ^ unit : ℚ) - num / den| := by
  generalize hunit : max minExponent (floorLog num den - 52) = unit
  let whole := num * Nat.pow 2 (-unit).toNat
  let part := den * Nat.pow 2 unit.toNat
  have hpart : 0 < part := Nat.mul_pos (by omega) (Nat.pow_pos (by decide))
  have htwo : (0 : ℚ) < 2 ^ unit := by positivity
  have hvalue : (m * 2 ^ e : ℚ) = divHalfEven whole part * 2 ^ unit := by
    rw [ofRatio_eq negative hnum hunit rfl] at h
    split at h
    next hcarry =>
      split at h
      next => exact nomatch h
      next =>
        injection h with _ hm he
        rw [show divHalfEven whole part = 2 ^ 53 from hcarry, ← hm, ← he,
          zpow_add₀ (by norm_num)]
        push_cast
        ring
    next =>
      split at h
      next => exact nomatch h
      next =>
        injection h with _ hm he
        rw [← hm, ← he]
  have hscale (i : ℚ) : i * 2 ^ unit - num / den = (i - whole / part) * 2 ^ unit := by
    have hratio : (whole / part : ℚ) = num / den * 2 ^ (-unit) := by
      rw [div_eq_iff (by exact_mod_cast hpart.ne')]
      exact (ratio_scale_two num hden unit).symm
    rw [hratio, sub_mul, mul_assoc (num / den : ℚ), ← zpow_add₀ (by norm_num), Int.add_left_neg,
      zpow_zero, mul_one]
  constructor
  · have herror := Neighbourhood.divHalfEven_error whole hpart
    rw [hvalue, hscale, abs_mul, abs_of_pos htwo]
    nlinarith
  · intro j
    rw [hvalue, hscale, hscale, abs_mul, abs_mul]
    exact mul_le_mul_of_nonneg_right (divHalfEven_nearest whole hpart j) (abs_nonneg _)

theorem ofRatio_zero (h : ofRatio negative 0 den = finite n m e) : m = 0 := by
  injection h with _ hm
  exact hm.symm

theorem ofRatio_nearest (hden : den ≠ 0) (h : ofRatio negative num den = finite n m e)
    (hfit : Fitting m' e') : |(m * 2 ^ e : ℚ) - num / den| ≤ |(m' * 2 ^ e' : ℚ) - num / den| := by
  by_cases hnum : num = 0
  · subst hnum
    simp only [ofRatio_zero h, Nat.cast_zero, zero_mul, zero_div, sub_zero, abs_zero]
    exact abs_nonneg _
  · obtain ⟨-, hbest⟩ := ofRatio_multiple hnum hden h
    have hlow := (floorLog_spec hnum hden).1
    have hsmallest := hfit.smallest
    generalize hunit : max minExponent (floorLog num den - 52) = unit at hbest
    have htwo : (0 : ℚ) < 2 ^ unit := by positivity
    by_cases hcoarse : unit ≤ e'
    · have hmultiple : (m' * 2 ^ e' : ℚ) = (m' * 2 ^ (e' - unit).toNat : Nat) * 2 ^ unit := by
        have hexp : e' = (e' - unit).toNat + unit := by omega
        conv_lhs => rw [hexp, zpow_add₀ (by norm_num), zpow_natCast]
        push_cast
        ring
      rw [hmultiple]
      exact hbest _
    · -- A finer number lies below the power of two that the quotient reaches.
      have hreached : (2 ^ 52 : Nat) * 2 ^ unit ≤ (num / den : ℚ) := by
        have hexp : floorLog num den = 52 + unit := by omega
        rw [hexp, zpow_add₀ (by norm_num)] at hlow
        exact_mod_cast hlow
      have hfine : (m' * 2 ^ e' : ℚ) ≤ (2 ^ 52 : Nat) * 2 ^ unit := by
        have hm : (m' : ℚ) ≤ 2 ^ 53 := by exact_mod_cast hfit.below.le
        calc (m' * 2 ^ e' : ℚ) ≤ 2 ^ 53 * 2 ^ (unit - 1) := by
              gcongr
              · norm_num
              · omega
          _ = (2 ^ 52 : Nat) * 2 ^ unit := by
            rw [zpow_sub₀ (by norm_num)]
            push_cast
            ring
      have hpower := hbest (2 ^ 52)
      generalize ((2 ^ 52 : Nat) * 2 ^ unit : ℚ) = p at *
      rw [abs_sub_comm p, abs_of_nonneg (sub_nonneg.mpr hreached)] at hpower
      rw [abs_sub_comm (m' * 2 ^ e' : ℚ), abs_of_nonneg (sub_nonneg.mpr (hfine.trans hreached))]
      linarith

theorem ofRatio_error {k : Nat} (hden : den ≠ 0) (h : ofRatio negative num den = finite n m e)
    (hbelow : (num / den : ℚ) < 2 ^ k) : |(m * 2 ^ e : ℚ) - num / den| ≤ 2 ^ (k - 54 : Int) := by
  by_cases hnum : num = 0
  · subst hnum
    simp only [ofRatio_zero h, Nat.cast_zero, zero_mul, zero_div, sub_zero, abs_zero]
    positivity
  · obtain ⟨herror, -⟩ := ofRatio_multiple hnum hden h
    have hlog : floorLog num den < k := by
      rw [← zpow_lt_zpow_iff_right₀ (by norm_num : (1 : ℚ) < 2), zpow_natCast]
      exact (floorLog_spec hnum hden).1.trans_lt hbelow
    have hunit : max minExponent (floorLog num den - 52) ≤ k - 53 := by
      unfold minExponent
      omega
    calc |(m * 2 ^ e : ℚ) - num / den|
        ≤ 2 ^ max minExponent (floorLog num den - 52) / 2 := herror
      _ ≤ 2 ^ (k - 53 : Int) / 2 := by
        gcongr
        norm_num
      _ = 2 ^ (k - 54 : Int) := by
        rw [show (k - 53 : Int) = k - 54 + 1 by omega, zpow_add₀ (by norm_num)]
        ring

theorem fixedTwo_eq (n : Bool) (m : Nat) (e : Int) {k : Nat} :
    fixedTwo n m e = .finite n k (-2) ↔ Rounds k (100 * (m * 2 ^ e)) := by
  have hden : 0 < Nat.pow 2 (-e).toNat := Nat.pow_pos (by decide)
  have hratio : ((m * 100 * Nat.pow 2 e.toNat : Nat) / (Nat.pow 2 (-e).toNat : Nat) : ℚ) =
      100 * (m * 2 ^ e) := by
    have hscale := ratio_scale_two (m * 100) one_ne_zero (-e)
    rw [neg_neg, Nat.one_mul] at hscale
    rw [div_eq_iff (by exact_mod_cast hden.ne'), ← hscale]
    push_cast
    ring
  rw [← hratio, ← divHalfEven_iff hden, fixedTwo, Decimal.finite.injEq]
  simp

theorem ofRatio_sign (h : ofRatio negative num den = finite n m e) : n = negative := by
  unfold ofRatio at h
  split at h
  next => exact (finite.inj h).1.symm
  next =>
    dsimp only at h
    split at h <;> split at h <;> simp_all

theorem ofScaled_ofRatio (negative : Bool) {c : Nat} {k : Int}
    (h : c = 0 ∨ -400 ≤ Decimal.adjusted c k ∧ Decimal.adjusted c k ≤ 400) :
    ∃ num den, den ≠ 0 ∧ ofScaled negative c k = ofRatio negative num den ∧
      (num / den : ℚ) = Numeric.magnitude c k := by
  by_cases hc : c = 0
  · subst hc
    exact ⟨0, 1, one_ne_zero, rfl, by simp [magnitude_zero]⟩
  · obtain ⟨hlow, hhigh⟩ := h.resolve_left hc
    have hden : Nat.pow 10 (-k).toNat ≠ 0 := (Nat.pow_pos (by decide)).ne'
    refine ⟨c * Nat.pow 10 k.toNat, Nat.pow 10 (-k).toNat, hden, ?_, ?_⟩
    · rw [ofScaled, if_neg hc]
      dsimp only
      rw [if_neg (by omega), if_neg (by omega)]
    · rw [div_eq_iff (by exact_mod_cast hden)]
      exact_mod_cast (magnitude_split c k).symm

end Binary64

theorem magnitude_hundredths (cents : Nat) : magnitude cents (-2) = cents / 100 := by
  rw [magnitude, zpow_neg, ← div_eq_mul_inv]
  norm_num

theorem hundredths_error (x : ℚ) (cents : Nat) :
    |100 * x - cents| = 100 * |x - magnitude cents (-2)| := by
  have hscale : 100 * x - cents = 100 * (x - magnitude cents (-2)) := by
    rw [magnitude_hundredths]
    ring
  rw [hscale, abs_mul]
  norm_num

section Column
variable {n n' : Bool} {c cents m m' : Nat} {e k k' : Int} {d : Decimal}

theorem ofScaled_hundredths (n : Bool) (hvalue : magnitude c e = magnitude cents (-2))
    (hmost : cents < 10 ^ 18) :
    ∃ (num den m : Nat) (k : Int), den ≠ 0 ∧ (num / den : ℚ) = magnitude cents (-2) ∧
      Binary64.ofScaled n c e = .finite n m k ∧
      Binary64.ofRatio n num den = .finite n m k := by
  have hbelow : magnitude c e < 10 ^ 16 := by
    have hcents : (cents : ℚ) < 10 ^ 18 := by exact_mod_cast hmost
    rw [hvalue, magnitude_hundredths, div_lt_iff₀ (by norm_num)]
    linarith
  have hrange : c = 0 ∨ -400 ≤ Decimal.adjusted c e ∧ Decimal.adjusted c e ≤ 400 := by
    by_cases hc : c = 0
    · exact .inl hc
    · have hpositive := magnitude_pos hc e
      have hleast : (10 : ℚ) ^ (-2 : Int) ≤ magnitude c e := by
        have hcents : cents ≠ 0 := by
          rintro rfl
          rw [hvalue, magnitude_zero] at hpositive
          exact hpositive.false
        have hone : (1 : ℚ) ≤ cents := by exact_mod_cast Nat.pos_of_ne_zero hcents
        rw [hvalue, magnitude_hundredths]
        norm_num
        linarith
      have hlow := hleast.trans_lt (magnitude_lt c e)
      have hhigh := (le_magnitude hc e).trans_lt (hbelow.trans_eq (zpow_natCast 10 16).symm)
      have hlow' := (zpow_lt_zpow_iff_right₀ (by norm_num : (1 : ℚ) < 10)).mp hlow
      have hhigh' := (zpow_lt_zpow_iff_right₀ (by norm_num : (1 : ℚ) < 10)).mp hhigh
      unfold Decimal.adjusted
      omega
  obtain ⟨num, den, hden, hratio, heq⟩ := Binary64.ofScaled_ofRatio n hrange
  obtain ⟨n', m, k, hfinite⟩ := ofScaled_finite n hbelow
  obtain rfl := Binary64.ofRatio_sign (hratio ▸ hfinite)
  exact ⟨num, den, m, k, hden, heq.trans hvalue, hfinite, hratio ▸ hfinite⟩

theorem Decimal.HasValue.unique {x y : ℚ} (hx : d.HasValue x) (hy : d.HasValue y) : x = y := by
  obtain ⟨n, c, e, rfl, rfl⟩ := hx
  obtain ⟨n', c', e', heq, rfl⟩ := hy
  injection heq with hn hc he
  rw [hn, hc, he]

theorem Decimal.Same.trans {a b : Decimal} (h : d.Same a) (h' : a.Same b) : d.Same b := by
  obtain ⟨x, hd, ha⟩ := h
  obtain ⟨y, ha', hb⟩ := h'
  obtain rfl := ha.unique ha'
  exact ⟨x, hd, hb⟩

theorem same_fixedTwo (n : Bool) (hvalue : magnitude c e = magnitude cents (-2))
    (h : Rounds cents (100 * (m * 2 ^ k))) :
    (Decimal.finite n c e).Same (Binary64.fixedTwo n m k) := by
  rw [(Binary64.fixedTwo_eq n m k).mpr h]
  exact ⟨_, ⟨n, c, e, rfl, rfl⟩, n, cents, -2, rfl, by rw [hvalue]⟩

theorem rounds_of_same (hvalue : magnitude c e = magnitude cents (-2))
    (h : (Decimal.finite n c e).Same (Binary64.fixedTwo n' m k)) :
    Rounds cents (100 * (m * 2 ^ k)) := by
  obtain ⟨j, hj⟩ : ∃ j, Binary64.fixedTwo n' m k = .finite n' j (-2) := ⟨_, rfl⟩
  rw [hj] at h
  obtain ⟨x, ⟨n₁, c₁, e₁, heq, hx⟩, n₂, c₂, e₂, heq', hx'⟩ := h
  injection heq with hn hc he
  injection heq' with hn' hc' he'
  have habs := congrArg abs (hx.trans hx'.symm)
  rw [Decimal.abs_signed, Decimal.abs_signed, ← hc, ← he, ← hc', ← he', hvalue, magnitude_inj] at habs
  exact (Binary64.fixedTwo_eq n' m k).mp (habs ▸ hj)

/-- The number of hundredths is whole and has eighteen digits at most. -/
def Decimal.FitsColumn (d : Decimal) : Prop :=
  ∃ n c e cents, d = finite n c e ∧ magnitude c e = magnitude cents (-2) ∧ cents < 10 ^ 18

end Column

end Numeric

namespace Database
open Numeric

variable {d : Decimal}

theorem keptAmount_canonical (d : Decimal) : (keptAmount d).Canonical := by
  unfold keptAmount
  dsimp only
  split
  · exact Binary64.zero_canonical false
  · exact Binary64.ofDecimal_canonical d

theorem readAmount_kept {n : Bool} {m : Nat} {k : Int} (h : Binary64.ofDecimal d = .finite n m k) :
    ∃ a, readAmount (keptAmount d) = .ok a ∧ (Binary64.fixedTwo n m k).Same a := by
  unfold keptAmount
  rw [h]
  by_cases hm : m = 0
  · subst hm
    have hnone (n : Bool) (k : Int) : Binary64.fixedTwo n 0 k = .finite n 0 (-2) := by
      apply (Binary64.fixedTwo_eq n 0 k).mpr
      constructor
      · norm_num
      · exact .inl rfl
    refine ⟨_, rfl, 0, ⟨n, 0, -2, hnone n k, ?_⟩, false, 0, -2, hnone false _, ?_⟩
    · cases n <;> simp [Decimal.signed, magnitude_zero]
    · simp [Decimal.signed, magnitude_zero]
  · have hzero : (Binary64.finite n m k).isZero = false := by simpa [Binary64.isZero] using hm
    dsimp only
    rw [hzero]
    exact ⟨_, rfl, _, ⟨_, _, _, rfl, rfl⟩, _, _, _, rfl, rfl⟩

/-- An amount that fits is read back with its value if any binary number is, and if it is below
`2^46` in magnitude. -/
theorem readAmount_keptAmount (h : d.FitsColumn) : ∃ a, readAmount (keptAmount d) = .ok a ∧
    (d.Same a ↔ ∃ y b, y.Canonical ∧ readAmount y = .ok b ∧ d.Same b) ∧
    ((∃ x, d.HasValue x ∧ |x| < 2 ^ 46) → d.Same a) := by
  obtain ⟨n, c, e, cents, rfl, hvalue, hmost⟩ := h
  obtain ⟨num, den, m, k, hden, hratio, hscaled, hround⟩ := ofScaled_hundredths n hvalue hmost
  obtain ⟨a, ha, hsame⟩ := readAmount_kept (d := .finite n c e) hscaled
  -- It is enough that the nearest binary number is read back as these hundredths.
  have hback (hnear : Rounds cents (100 * (m * 2 ^ k))) : (Decimal.finite n c e).Same a :=
    (same_fixedTwo n hvalue hnear).trans hsame
  refine ⟨a, ha, ⟨fun h => ?_, ?_⟩, ?_⟩
  · exact ⟨_, a, keptAmount_canonical _, ha, h⟩
  · rintro ⟨y, b, hy, hb, hsameb⟩
    cases y with
    | finite n' m' k' =>
      obtain rfl := Except.ok.inj hb
      have hcandidate := rounds_of_same hvalue hsameb
      apply hback
      apply hcandidate.closer
      have hnearest := Binary64.ofRatio_nearest hden hround hy
      rw [hundredths_error, hundredths_error, ← hratio]
      linarith
    | infinite => exact nomatch hb
    | nan => exact nomatch hb
  · rintro ⟨x, hx, hbelow⟩
    apply hback
    obtain rfl := hx.unique ⟨n, c, e, rfl, rfl⟩
    rw [Decimal.abs_signed, hvalue, ← hratio] at hbelow
    have herror := Binary64.ofRatio_error hden hround hbelow
    have hstrict : |100 * (m * 2 ^ k : ℚ) - cents| < 1 / 2 := by
      rw [hundredths_error, ← hratio]
      norm_num at herror ⊢
      linarith
    exact ⟨hstrict.le, .inr hstrict⟩

open Reapply (shopPurchase)

theorem block_save [Pattern.Engine] (t : Transaction) (db : Database) :
    block [.save t] db = (.ok ⟨[t], []⟩, (db.save t).1) := rfl

theorem read_ofTransaction {t : Transaction} {a : Decimal} (ht : t.Valid)
    (ha : readAmount (keptAmount t.amount) = .ok a) :
    TransactionRow.read (TransactionRow.ofTransaction t) = .ok { t with amount := a } := by
  simp only [TransactionRow.read, TransactionRow.ofTransaction, ha, readDate_keptDate ht.date]

theorem listTransactions_save {db : Database} {t u : Transaction} {ts : List Transaction}
    (hlist : db.listTransactions = .ok ts) (hnew : t.id ∉ ts.map (·.id))
    (hread : TransactionRow.read (TransactionRow.ofTransaction t) = .ok u) :
    (db.save t).1.listTransactions = .ok (ts ++ [u]) := by
  rw [listed_ids hlist] at hnew
  unfold listTransactions at hlist ⊢
  rw [save_new hnew, List.mapM_append, hlist, List.mapM_cons, hread]
  rfl

/-- A valid transaction is saved under a new id. In a later session it is listed after those that
were there, with the same id, merchant, date, account and category. Its amount has the value that was
saved if and only if some binary number is read back with that value, and so always below `2^46`. -/
theorem saved_transaction_read_back [Pattern.Engine] {db : Database} {t : Transaction}
    {ts : List Transaction} (hvalid : t.Valid) (hfits : t.amount.FitsColumn)
    (hlist : db.listTransactions = .ok ts) (hnew : t.id ∉ ts.map (·.id)) :
    ∃ a, (block [.save t] db).1 = .ok ⟨[t], []⟩ ∧
      (block [.save t] db).2.listTransactions = .ok (ts ++ [{ t with amount := a }]) ∧
      (t.amount.Same a ↔ ∃ y b, y.Canonical ∧ readAmount y = .ok b ∧ t.amount.Same b) ∧
      ((∃ x, t.amount.HasValue x ∧ |x| < 2 ^ 46) → t.amount.Same a) := by
  obtain ⟨a, ha, hsame, hsmall⟩ := readAmount_keptAmount hfits
  refine ⟨a, ?_, ?_, hsame, hsmall⟩
  · rw [block_save]
  · rw [block_save]
    exact listTransactions_save hlist hnew (read_ofTransaction hvalid ha)

open scoped Pattern.Builtin in
theorem saved_transaction_read_back_refund :
    let refund := { shopPurchase with amount := .finite true 451 (-1) }
    ∃ a, (block [.save refund] .empty).2.listTransactions = .ok [{ refund with amount := a }] ∧
      refund.amount.Same a := by
  intro refund
  have hfits : refund.amount.FitsColumn := by
    refine ⟨true, 451, -1, 4510, rfl, ?_, by norm_num⟩
    norm_num [magnitude]
  have hvalid : refund.Valid := ⟨rfl, rfl⟩
  have hempty : Database.empty.listTransactions = .ok [] := rfl
  obtain ⟨a, -, hlisted, -, hsmall⟩ :=
    saved_transaction_read_back hvalid hfits hempty List.not_mem_nil
  refine ⟨a, hlisted, hsmall ⟨-451 / 10, ⟨true, 451, -1, rfl, ?_⟩, ?_⟩⟩
  · norm_num [Decimal.signed, magnitude]
  · norm_num [abs_lt]

open scoped Pattern.Builtin in
/-- From `2^46` on hundredths lie between binary numbers that are read back as other hundredths. -/
theorem saved_amount_changes :
    let deposit := { shopPurchase with amount := .finite false 7036874417766401 (-2) }
    deposit.Valid ∧ deposit.amount.FitsColumn ∧
      (block [.save deposit] .empty).2.listTransactions =
        .ok [{ deposit with amount := .finite false 7036874417766402 (-2) }] ∧
      ¬deposit.amount.Same (.finite false 7036874417766402 (-2)) := by
  intro deposit
  refine ⟨⟨rfl, rfl⟩, ⟨false, _, -2, 7036874417766401, rfl, rfl, by norm_num⟩, ?_, ?_⟩
  · have hamount : readAmount (keptAmount deposit.amount) =
        .ok (.finite false 7036874417766402 (-2)) := by decide +kernel
    have hempty : Database.empty.listTransactions = .ok [] := rfl
    rw [block_save]
    exact listTransactions_save hempty List.not_mem_nil (read_ofTransaction ⟨rfl, rfl⟩ hamount)
  · intro h
    obtain ⟨x, hx, hx'⟩ := h
    have hsaved : deposit.amount.HasValue (7036874417766401 / 100) :=
      ⟨false, _, -2, rfl, by norm_num [Decimal.signed, magnitude]⟩
    have hlisted : (Decimal.finite false 7036874417766402 (-2)).HasValue (7036874417766402 / 100) :=
      ⟨false, _, -2, rfl, by norm_num [Decimal.signed, magnitude]⟩
    have heq := (hsaved.unique hx).trans (hlisted.unique hx').symm
    norm_num at heq

end Database

end LedgerRules
