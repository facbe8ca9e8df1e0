import Mathlib.Data.Nat.Cast.Order.Field
import LedgerRules.Numeric.Binary64
import LedgerRules.Proofs.Numerals

/-! The shortest digits of a binary number. They lie where numbers round to it, seventeen of them are
always enough, and so the text of the number is read back as the number itself. -/

namespace LedgerRules.Numeric

theorem divHalfEven_eq {num den m : Nat} (hlow : 2 * (m * den) ≤ 2 * num + den)
    (hhigh : 2 * num ≤ 2 * (m * den) + den)
    (htie : m % 2 = 0 ∨ 2 * (m * den) < 2 * num + den ∧ 2 * num < 2 * (m * den) + den)
    (hden : 0 < den) : divHalfEven num den = m := by
  have hcut := Nat.div_add_mod num den
  have hrest := Nat.mod_lt num hden
  unfold divHalfEven
  dsimp only
  generalize num / den = q at *
  generalize num % den = r at *
  have hupper : m < q + 2 := by
    by_contra hge
    have hmul : (q + 2) * den ≤ m * den := Nat.mul_le_mul_right den (by omega)
    rw [Nat.add_mul, Nat.mul_comm q] at hmul
    omega
  have hlower : q < m + 1 := by
    by_contra hge
    have hmul : (m + 1) * den ≤ q * den := Nat.mul_le_mul_right den (by omega)
    rw [Nat.add_mul, Nat.mul_comm q] at hmul
    omega
  obtain rfl | rfl : m = q ∨ m = q + 1 := by omega
  · rw [Nat.mul_comm m] at *
    split
    · rfl
    · split <;> omega
  · rw [Nat.add_mul, Nat.mul_comm q] at *
    split
    · omega
    · split
      · rfl
      · omega

theorem divHalfEven_near {num den m : Nat} {x : ℚ} (hden : 0 < den) (hx : x * den = num)
    (hlow : (m - 1 / 2 : ℚ) ≤ x) (hhigh : x ≤ m + 1 / 2)
    (htie : m % 2 = 0 ∨ (m - 1 / 2 : ℚ) < x ∧ x < m + 1 / 2) : divHalfEven num den = m := by
  have hpos : (0 : ℚ) < den := by exact_mod_cast hden
  have hlow' := mul_le_mul_of_nonneg_right hlow hpos.le
  have hhigh' := mul_le_mul_of_nonneg_right hhigh hpos.le
  rw [hx] at hlow' hhigh'
  refine divHalfEven_eq ?_ ?_ (htie.imp_right fun h => ?_) hden
  · have : (2 * (m * den) : ℚ) ≤ 2 * num + den := by linarith
    exact_mod_cast this
  · have : (2 * num : ℚ) ≤ 2 * (m * den) + den := by linarith
    exact_mod_cast this
  · have hlow'' := mul_lt_mul_of_pos_right h.1 hpos
    have hhigh'' := mul_lt_mul_of_pos_right h.2 hpos
    rw [hx] at hlow'' hhigh''
    constructor
    · have : (2 * (m * den) : ℚ) < 2 * num + den := by linarith
      exact_mod_cast this
    · have : (2 * num : ℚ) < 2 * (m * den) + den := by linarith
      exact_mod_cast this

namespace Binary64

theorem ratio_scale {base : Nat} (hbase : base ≠ 0) (num : Nat) {den : Nat} (hden : den ≠ 0)
    (e : Int) : (num / den * (base : ℚ) ^ (-e)) * (den * Nat.pow base e.toNat : Nat) =
      (num * Nat.pow base (-e).toNat : Nat) := by
  have hne : (den : ℚ) ≠ 0 := by exact_mod_cast hden
  have hbase' : (base : ℚ) ≠ 0 := by exact_mod_cast hbase
  have hexp : (-e : Int) + e.toNat = (-e).toNat := by omega
  have hpow : (base : ℚ) ^ (-e) * base ^ e.toNat = base ^ (-e).toNat := by
    rw [← zpow_natCast, ← zpow_natCast, ← zpow_add₀ hbase', hexp]
  simp only [Nat.pow_eq]
  push_cast
  rw [← hpow]
  field_simp

theorem ratio_scale_two (num : Nat) {den : Nat} (hden : den ≠ 0) (e : Int) :
    (num / den * 2 ^ (-e) : ℚ) * (den * Nat.pow 2 e.toNat : Nat) =
      (num * Nat.pow 2 (-e).toNat : Nat) := by
  simpa using ratio_scale two_ne_zero num hden e

theorem ratio_lt_iff {num den : Nat} (hden : den ≠ 0) (e : Int) :
    num * Nat.pow 2 (-e).toNat < den * Nat.pow 2 e.toNat ↔ (num / den : ℚ) < 2 ^ e := by
  have hscale := ratio_scale_two num hden e
  have hpos : (0 : ℚ) < (den * Nat.pow 2 e.toNat : Nat) := by
    have hnat : 0 < den * Nat.pow 2 e.toNat := Nat.mul_pos (by omega) (Nat.pow_pos (by decide))
    exact_mod_cast hnat
  rw [← Nat.cast_lt (α := ℚ), ← hscale, mul_lt_iff_lt_one_left hpos, zpow_neg,
    ← div_eq_mul_inv, div_lt_one₀ (by positivity)]

theorem log2_bounds {n : Nat} (h : n ≠ 0) :
    (2 : ℚ) ^ (n.log2 : Int) ≤ n ∧ (n : ℚ) < 2 ^ ((n.log2 : Int) + 1) := by
  have hlow : 2 ^ n.log2 ≤ n := Nat.log2_self_le h
  have hhigh : n < 2 ^ (n.log2 + 1) := Nat.lt_log2_self
  constructor
  · rw [zpow_natCast]
    exact_mod_cast hlow
  · rw [show (n.log2 : Int) + 1 = (n.log2 + 1 : Nat) by omega, zpow_natCast]
    exact_mod_cast hhigh

theorem floorLog_spec {num den : Nat} (hnum : num ≠ 0) (hden : den ≠ 0) :
    (2 : ℚ) ^ floorLog num den ≤ num / den ∧ (num / den : ℚ) < 2 ^ (floorLog num den + 1) := by
  obtain ⟨hn, hn'⟩ := log2_bounds hnum
  obtain ⟨hd, hd'⟩ := log2_bounds hden
  have hpos : (0 : ℚ) < den := lt_of_lt_of_le (by positivity) hd
  have hbelow : (2 : ℚ) ^ ((num.log2 : Int) - den.log2 - 1) ≤ num / den := by
    rw [le_div_iff₀ hpos]
    calc (2 : ℚ) ^ ((num.log2 : Int) - den.log2 - 1) * den
        ≤ 2 ^ ((num.log2 : Int) - den.log2 - 1) * 2 ^ ((den.log2 : Int) + 1) := by gcongr
      _ = 2 ^ (num.log2 : Int) := by
        rw [← zpow_add₀ (by norm_num)]
        congr 1
        omega
      _ ≤ num := hn
  have habove : (num / den : ℚ) < 2 ^ ((num.log2 : Int) - den.log2 + 1) := by
    rw [div_lt_iff₀ hpos]
    calc (num : ℚ) < 2 ^ ((num.log2 : Int) + 1) := hn'
      _ = 2 ^ ((num.log2 : Int) - den.log2 + 1) * 2 ^ (den.log2 : Int) := by
        rw [← zpow_add₀ (by norm_num)]
        congr 1
        omega
      _ ≤ 2 ^ ((num.log2 : Int) - den.log2 + 1) * den := by gcongr
  unfold floorLog
  dsimp only
  split
  next h => exact ⟨hbelow, by rw [Int.sub_add_cancel]; exact (ratio_lt_iff hden _).mp h⟩
  next h => exact ⟨not_lt.mp fun hlt => h ((ratio_lt_iff hden _).mpr hlt), habove⟩

theorem floorLog_eq {num den : Nat} {k : Int} (hnum : num ≠ 0) (hden : den ≠ 0)
    (hlow : (2 : ℚ) ^ k ≤ num / den) (hhigh : (num / den : ℚ) < 2 ^ (k + 1)) :
    floorLog num den = k := by
  obtain ⟨hspec, hspec'⟩ := floorLog_spec hnum hden
  have hle := (zpow_lt_zpow_iff_right₀ (by norm_num : (1 : ℚ) < 2)).mp (hspec.trans_lt hhigh)
  have hge := (zpow_lt_zpow_iff_right₀ (by norm_num : (1 : ℚ) < 2)).mp (hlow.trans_lt hspec')
  omega

structure Fitting (m : Nat) (e : Int) : Prop where
  below : m < 2 ^ 53
  smallest : minExponent ≤ e
  largest : e ≤ maxExponent
  full : 2 ^ 52 ≤ m ∨ e = minExponent

def Canonical : Binary64 → Prop
  | finite _ m e => Fitting m e
  | _ => True

theorem zero_canonical (negative : Bool) : (zero negative).Canonical :=
  ⟨by norm_num, le_refl _, by decide, .inr rfl⟩

theorem scaled_bounds {num den : Nat} (hnum : num ≠ 0) (hden : den ≠ 0) {e : Int}
    (he : e = max minExponent (floorLog num den - 52)) :
    num * Nat.pow 2 (-e).toNat / (den * Nat.pow 2 e.toNat) < 2 ^ 53 ∧
      (2 ^ 52 ≤ num * Nat.pow 2 (-e).toNat / (den * Nat.pow 2 e.toNat) ∨ e = minExponent ∧
        num * Nat.pow 2 (-e).toNat / (den * Nat.pow 2 e.toNat) < 2 ^ 52) := by
  have hpos : 0 < den * Nat.pow 2 e.toNat :=
    Nat.mul_pos (by omega) (Nat.pow_pos (by decide))
  have hscale := ratio_scale_two num hden e
  obtain ⟨hlow, hhigh⟩ := floorLog_spec hnum hden
  have hbits {k : Nat} {x : Int} (hx : x = e + k) :
      (num / den : ℚ) < 2 ^ x ↔
        num * Nat.pow 2 (-e).toNat / (den * Nat.pow 2 e.toNat) < 2 ^ k := by
    rw [Nat.div_lt_iff_lt_mul hpos, ← Nat.cast_lt (α := ℚ), ← hscale, Nat.cast_mul (2 ^ k),
      mul_lt_mul_iff_of_pos_right (by exact_mod_cast hpos), hx, zpow_add₀ (by norm_num),
      zpow_natCast, Nat.cast_pow, Nat.cast_ofNat]
    generalize (num / den : ℚ) = q
    rw [zpow_neg, ← div_eq_mul_inv, div_lt_iff₀ (by positivity), mul_comm]
  constructor
  · refine (hbits (x := e + 53) rfl).mp (hhigh.trans_le ?_)
    exact zpow_le_zpow_right₀ (by norm_num) (by omega)
  · by_cases hsmall : floorLog num den < e + 52
    · refine .inr ⟨by omega, (hbits (x := e + 52) rfl).mp (hhigh.trans_le ?_)⟩
      exact zpow_le_zpow_right₀ (by norm_num) (by omega)
    · refine .inl (not_lt.mp fun hlt => ?_)
      have habove := (hbits (x := e + 52) rfl).mpr hlt
      have hexp := (zpow_lt_zpow_iff_right₀ (by norm_num : (1 : ℚ) < 2)).mp
        (hlow.trans_lt habove)
      omega

theorem ofRatio_canonical (negative : Bool) (num : Nat) {den : Nat} (hden : den ≠ 0) :
    (ofRatio negative num den).Canonical := by
  unfold ofRatio
  split
  · exact zero_canonical negative
  next hnum =>
    generalize he : max minExponent (floorLog num den - 52) = e
    obtain ⟨hbelow, hfull⟩ := scaled_bounds hnum hden he.symm
    have hmost := divHalfEven_le hbelow
    have hlowest : minExponent ≤ e := by omega
    dsimp only
    split
    next hcarry =>
      dsimp only
      split
      · trivial
      next hrange =>
        exact ⟨by norm_num, by omega, by omega, .inl (Nat.le_refl _)⟩
    next hcarry =>
      dsimp only
      split
      · trivial
      next hrange =>
        refine ⟨lt_of_le_of_ne hmost hcarry, hlowest, by omega, ?_⟩
        exact hfull.imp le_divHalfEven And.left

theorem ofScaled_canonical (negative : Bool) (c : Nat) (e : Int) :
    (ofScaled negative c e).Canonical := by
  unfold ofScaled
  split
  · exact zero_canonical negative
  · dsimp only
    split
    · trivial
    · split
      · exact zero_canonical negative
      · exact ofRatio_canonical _ _ (Nat.pow_pos (by decide)).ne'

theorem ofDecimal_canonical (d : Decimal) : (ofDecimal d).Canonical := by
  cases d with
  | finite n c e => exact ofScaled_canonical n c e
  | infinite | nan => trivial

def gap (m : Nat) (e : Int) : ℚ := if m = 2 ^ 52 ∧ minExponent < e then 1 / 4 else 1 / 2

theorem gap_bounds (m : Nat) (e : Int) : 1 / 4 ≤ gap m e ∧ gap m e ≤ 1 / 2 := by
  unfold gap
  split <;> norm_num

/-- The reals that round to a number; the ends of the interval do if its mantissa is even. -/
structure Near (m : Nat) (e : Int) (x : ℚ) : Prop where
  low : (m - gap m e) * 2 ^ e ≤ x
  high : x ≤ (m + 1 / 2) * 2 ^ e
  tie : m % 2 = 0 ∨ (m - gap m e) * 2 ^ e < x ∧ x < (m + 1 / 2) * 2 ^ e

variable {m : Nat} {e : Int} {num den : Nat}

theorem Near.pos {x : ℚ} (h : Near m e x) (hm : m ≠ 0) : 0 < x := by
  have hone : (1 : ℚ) ≤ m := by exact_mod_cast Nat.pos_of_ne_zero hm
  have hgap := gap_bounds m e
  have hpos : (0 : ℚ) < m - gap m e := by linarith
  exact (by positivity : (0 : ℚ) < (m - gap m e) * 2 ^ e).trans_le h.low

theorem Near.below {x : ℚ} (h : Near m e x) (hm : m < 2 ^ 53) : x < 2 ^ (e + 53) := by
  have hmost : (m : ℚ) + 1 / 2 < 2 ^ 53 := by
    have hle : (m : ℚ) ≤ 2 ^ 53 - 1 := by
      have : (m + 1 : ℚ) ≤ 2 ^ 53 := by exact_mod_cast hm
      linarith
    linarith
  calc x ≤ (m + 1 / 2) * 2 ^ e := h.high
    _ < 2 ^ 53 * 2 ^ e := by gcongr
    _ = 2 ^ (e + 53) := by rw [zpow_add₀ (by norm_num), mul_comm]; rfl

theorem ofRatio_eq {n : Nat} (negative : Bool) (hnum : num ≠ 0)
    (hexp : max minExponent (floorLog num den - 52) = e)
    (hdiv : divHalfEven (num * Nat.pow 2 (-e).toNat) (den * Nat.pow 2 e.toNat) = n) :
    ofRatio negative num den =
      if n = 2 ^ 53 then (if e + 1 > maxExponent then infinite negative
        else finite negative (2 ^ 52) (e + 1))
      else if e > maxExponent then infinite negative else finite negative n e := by
  unfold ofRatio
  rw [if_neg hnum]
  simp only [hexp, hdiv]
  by_cases hcarry : n = Nat.pow 2 53
  · rw [if_pos hcarry, if_pos (show n = 2 ^ 53 from hcarry)]
    rfl
  · rw [if_neg hcarry, if_neg (show ¬n = 2 ^ 53 from hcarry)]

theorem ofRatio_near_above (negative : Bool) (hfit : Fitting m e) (hnum : num ≠ 0)
    (hden : den ≠ 0) (h : Near m e (num / den))
    (habove : (2 : ℚ) ^ (e + 52) ≤ num / den ∨ e = minExponent) :
    ofRatio negative num den = finite negative m e := by
  have hbelow := h.below hfit.below
  have hexp : max minExponent (floorLog num den - 52) = e := by
    by_cases hfull : (2 : ℚ) ^ (e + 52) ≤ num / den
    · have hlog := floorLog_eq hnum hden hfull (by rwa [Int.add_assoc])
      have hsmallest := hfit.smallest
      omega
    · have hlog := (zpow_lt_zpow_iff_right₀ (by norm_num : (1 : ℚ) < 2)).mp
        ((floorLog_spec hnum hden).1.trans_lt (not_le.mp hfull))
      have hsmall := habove.resolve_left hfull
      omega
  have hpos : 0 < den * Nat.pow 2 e.toNat := Nat.mul_pos (by omega) (Nat.pow_pos (by decide))
  have hgap := gap_bounds m e
  have htwo : (0 : ℚ) < 2 ^ e := by positivity
  have hdiv : divHalfEven (num * Nat.pow 2 (-e).toNat) (den * Nat.pow 2 e.toNat) = m := by
    refine divHalfEven_near hpos (ratio_scale_two num hden e) ?_ ?_ (h.tie.imp_right fun ht => ?_)
    · rw [zpow_neg, ← div_eq_mul_inv, le_div_iff₀ htwo]
      have hlow := h.low
      nlinarith
    · rw [zpow_neg, ← div_eq_mul_inv, div_le_iff₀ htwo]
      exact h.high
    · rw [zpow_neg, ← div_eq_mul_inv, lt_div_iff₀ htwo, div_lt_iff₀ htwo]
      refine ⟨?_, ht.2⟩
      have hlow := ht.1
      nlinarith
  have hlargest := hfit.largest
  rw [ofRatio_eq negative hnum hexp hdiv, if_neg hfit.below.ne, if_neg (by omega)]

theorem ofRatio_near_below (negative : Bool) (hfit : Fitting m e) (hnum : num ≠ 0)
    (hden : den ≠ 0) (h : Near m e (num / den)) (he : minExponent < e)
    (hunder : (num / den : ℚ) < 2 ^ (e + 52)) : ofRatio negative num den = finite negative m e := by
  have htwo : (0 : ℚ) < 2 ^ e := by positivity
  have hgap := gap_bounds m e
  have hpow (k : Nat) : (2 : ℚ) ^ (e + k) = 2 ^ k * 2 ^ e := by
    rw [zpow_add₀ (by norm_num), zpow_natCast, mul_comm]
  have hfull : 2 ^ 52 ≤ m := hfit.full.resolve_right he.ne'
  obtain rfl : m = 2 ^ 52 := by
    have hlt : ((m : ℚ) - gap m e) * 2 ^ e < 2 ^ 52 * 2 ^ e :=
      (h.low.trans_lt hunder).trans_eq (hpow 52)
    have hlt' := lt_of_mul_lt_mul_right hlt htwo.le
    have hm : (m : ℚ) < (2 ^ 52 + 1 : Nat) := by
      push_cast
      linarith
    have hm' : m < 2 ^ 52 + 1 := by exact_mod_cast hm
    omega
  have hquarter : gap (2 ^ 52) e = 1 / 4 := if_pos ⟨rfl, he⟩
  have hlow := h.low
  rw [hquarter] at hlow
  push_cast at hlow
  have hlog : floorLog num den = e + 51 := by
    refine floorLog_eq hnum hden ?_ ?_
    · rw [show e + 51 = e + (51 : Nat) from rfl, hpow]
      nlinarith
    · rwa [Int.add_assoc]
  have hexp : max minExponent (floorLog num den - 52) = e - 1 := by omega
  have hpos : 0 < den * Nat.pow 2 (e - 1).toNat :=
    Nat.mul_pos (by omega) (Nat.pow_pos (by decide))
  have hhalf : (2 : ℚ) ^ (e - 1) = 2 ^ e / 2 := by
    rw [zpow_sub₀ (by norm_num), zpow_one]
  have hdiv : divHalfEven (num * Nat.pow 2 (-(e - 1)).toNat)
      (den * Nat.pow 2 (e - 1).toNat) = 2 ^ 53 := by
    refine divHalfEven_near hpos (ratio_scale_two num hden (e - 1)) ?_ ?_ (.inl (by norm_num))
    · rw [zpow_neg, ← div_eq_mul_inv, le_div_iff₀ (by positivity), hhalf]
      push_cast
      nlinarith
    · rw [zpow_neg, ← div_eq_mul_inv, div_le_iff₀ (by positivity), hhalf]
      have hunder' := hunder.trans_eq (hpow 52)
      push_cast
      nlinarith
  have hlargest := hfit.largest
  rw [ofRatio_eq negative hnum hexp hdiv, if_pos rfl, if_neg (by omega), Int.sub_add_cancel]

/-- What is near a number is rounded to it. -/
theorem ofRatio_near (negative : Bool) (hfit : Fitting m e) (hm : m ≠ 0) (hden : den ≠ 0)
    (h : Near m e (num / den)) : ofRatio negative num den = finite negative m e := by
  have hnum : num ≠ 0 := by
    rintro rfl
    have hpos := h.pos hm
    simp at hpos
  by_cases habove : (2 : ℚ) ^ (e + 52) ≤ num / den ∨ e = minExponent
  · exact ofRatio_near_above negative hfit hnum hden h habove
  · have hne := not_or.mp habove
    have he : minExponent < e := lt_of_le_of_ne hfit.smallest (Ne.symm hne.2)
    exact ofRatio_near_below negative hfit hnum hden h he (not_le.mp hne.1)

theorem near_of_close {x : ℚ} {k : Int} (hfit : Fitting m e) (hlead : (10 : ℚ) ^ (k + 16) ≤ m * 2 ^ e)
    (hclose : |x - m * 2 ^ e| ≤ 10 ^ k / 2) : Near m e x := by
  have htwo : (0 : ℚ) < 2 ^ e := by positivity
  have hunit : (10 : ℚ) ^ k ≤ m * 2 ^ e / 10 ^ 16 := by
    rw [le_div_iff₀ (by positivity), show (10 : ℚ) ^ 16 = 10 ^ (16 : Int) by norm_num,
      ← zpow_add₀ (by norm_num)]
    exact hlead
  have hgap : (m : ℚ) / (2 * 10 ^ 16) < gap m e := by
    unfold gap
    split
    next hpower =>
      rw [hpower.1]
      norm_num
    next =>
      have hm : (m : ℚ) < 2 ^ 53 := by exact_mod_cast hfit.below
      rw [div_lt_iff₀ (by positivity)]
      norm_num at hm ⊢
      linarith
  have hwithin : |x - m * 2 ^ e| < gap m e * 2 ^ e := by
    calc |x - m * 2 ^ e| ≤ 10 ^ k / 2 := hclose
      _ ≤ m / (2 * 10 ^ 16) * 2 ^ e := by
        have heq : (m : ℚ) / (2 * 10 ^ 16) * 2 ^ e = m * 2 ^ e / 10 ^ 16 / 2 := by ring
        rw [heq]
        gcongr
      _ < gap m e * 2 ^ e := by gcongr
  obtain ⟨hbelow, habove⟩ := abs_lt.mp hwithin
  have hmost : gap m e * 2 ^ e ≤ 1 / 2 * 2 ^ e := by
    have hgap' := (gap_bounds m e).2
    gcongr
  have hlow : (m - gap m e) * 2 ^ e < x := by linarith
  have hhigh : x < (m + 1 / 2) * 2 ^ e := by linarith
  exact ⟨hlow.le, hhigh.le, .inr ⟨hlow, hhigh⟩⟩

namespace Neighbourhood

theorem den_ne (m : Nat) (e : Int) : (neighbourhood m e).den ≠ 0 :=
  (Nat.pow_pos (by decide)).ne'

theorem quarters (n m : Nat) (e : Int) :
    ((n * Nat.pow 2 (e - 2).toNat : Nat) / (neighbourhood m e).den : ℚ) = n / 4 * 2 ^ e := by
  have hscale := ratio_scale_two n one_ne_zero (2 - e)
  have hden : ((neighbourhood m e).den : ℚ) ≠ 0 := by exact_mod_cast den_ne m e
  have hfour : (2 : ℚ) ^ (e - 2) = 2 ^ e / 4 := by
    rw [zpow_sub₀ (by norm_num)]
    norm_num
  rw [Nat.one_mul, Int.neg_sub, hfour] at hscale
  rw [div_eq_iff hden, ← hscale]
  simp only [neighbourhood]
  push_cast
  ring

theorem low_eq (hm : m ≠ 0) (e : Int) :
    ((neighbourhood m e).low / (neighbourhood m e).den : ℚ) = (m - gap m e) * 2 ^ e := by
  have hquarters := quarters (4 * m - if m = 2 ^ 52 ∧ minExponent < e then 1 else 2) m e
  have hlow : (neighbourhood m e).low =
      (4 * m - if m = 2 ^ 52 ∧ minExponent < e then 1 else 2) * Nat.pow 2 (e - 2).toNat := by
    simp [neighbourhood]
  rw [hlow, hquarters]
  unfold gap
  split
  · rw [Nat.cast_sub (by omega)]
    push_cast
    ring
  · rw [Nat.cast_sub (by omega)]
    push_cast
    ring

theorem value_eq (m : Nat) (e : Int) :
    ((neighbourhood m e).value / (neighbourhood m e).den : ℚ) = m * 2 ^ e := by
  have hquarters := quarters (4 * m) m e
  push_cast at hquarters
  rw [show (4 * m / 4 : ℚ) = m by ring] at hquarters
  rw [← hquarters]
  simp [neighbourhood]

theorem high_eq (m : Nat) (e : Int) :
    ((neighbourhood m e).high / (neighbourhood m e).den : ℚ) = (m + 1 / 2) * 2 ^ e := by
  have hquarters := quarters (4 * m + 2) m e
  push_cast at hquarters
  rw [show ((4 * m + 2) / 4 : ℚ) = m + 1 / 2 by ring] at hquarters
  rw [← hquarters]
  simp [neighbourhood]

theorem admits_iff (hm : m ≠ 0) (e : Int) (n : Nat) (k : Int) :
    (neighbourhood m e).admits n k = true ↔ Near m e (Numeric.magnitude n k) := by
  have hden : (0 : ℚ) < (neighbourhood m e).den := by
    exact_mod_cast Nat.pos_of_ne_zero (den_ne m e)
  have hscale : (0 : ℚ) < 10 ^ (-k).toNat := by positivity
  have hpoint : ((n * Nat.pow 10 k.toNat * (neighbourhood m e).den : Nat) : ℚ) =
      Numeric.magnitude n k * (neighbourhood m e).den * 10 ^ (-k).toNat := by
    have hsplit := magnitude_split n k
    rw [Nat.cast_mul, mul_right_comm, hsplit]
    rfl
  have hle (a : Nat) : a * Nat.pow 10 (-k).toNat ≤ n * Nat.pow 10 k.toNat * (neighbourhood m e).den ↔
      (a / (neighbourhood m e).den : ℚ) ≤ Numeric.magnitude n k := by
    rw [← Nat.cast_le (α := ℚ), hpoint, Nat.cast_mul, Nat.pow_eq, Nat.cast_pow, Nat.cast_ofNat,
      mul_le_mul_iff_of_pos_right hscale, div_le_iff₀ hden]
  have hge (a : Nat) : n * Nat.pow 10 k.toNat * (neighbourhood m e).den ≤ a * Nat.pow 10 (-k).toNat ↔
      Numeric.magnitude n k ≤ a / (neighbourhood m e).den := by
    rw [← Nat.cast_le (α := ℚ), hpoint, Nat.cast_mul, Nat.pow_eq, Nat.cast_pow, Nat.cast_ofNat,
      mul_le_mul_iff_of_pos_right hscale, le_div_iff₀ hden]
  have hclosed : (neighbourhood m e).closed = (m % 2 == 0) := rfl
  unfold admits
  dsimp only
  rw [hclosed]
  by_cases heven : m % 2 = 0
  · simp only [heven, beq_self_eq_true, if_true, Bool.and_eq_true, decide_eq_true_eq, hle, hge,
      low_eq hm, high_eq]
    exact ⟨fun h => ⟨h.1, h.2, .inl heven⟩, fun h => ⟨h.low, h.high⟩⟩
  · simp only [beq_eq_false_iff_ne.mpr heven, Bool.false_eq_true, if_false, Bool.and_eq_true,
      decide_eq_true_eq, ← not_le, hle, hge, low_eq hm, high_eq]
    simp only [not_le]
    exact ⟨fun h => ⟨h.1.le, h.2.le, .inr h⟩, fun h => h.tie.resolve_left heven⟩

theorem value_pos (hm : m ≠ 0) (e : Int) : 0 < (neighbourhood m e).value :=
  Nat.mul_pos (by omega) (Nat.pow_pos (by decide))

theorem leading_le (hm : m ≠ 0) (e : Int) :
    (10 : ℚ) ^ (neighbourhood m e).leading ≤ m * 2 ^ e := by
  have hden := Nat.pos_of_ne_zero (den_ne m e)
  have hden' : (0 : ℚ) < (neighbourhood m e).den := by exact_mod_cast hden
  have hvalue := value_pos hm e
  rw [← value_eq]
  unfold leading
  generalize (neighbourhood m e).value = value at *
  generalize (neighbourhood m e).den = den at *
  split
  next hle =>
    have hne : value / den ≠ 0 := (Nat.div_pos hle hden).ne'
    have hpow := pow_le_of_digitCount hne
    have hcount := digitCount_pos (value / den)
    rw [show (digitCount (value / den) : Int) - 1 = (digitCount (value / den) - 1 : Nat) by omega,
      zpow_natCast]
    calc (10 : ℚ) ^ (digitCount (value / den) - 1) ≤ (value / den : Nat) := by exact_mod_cast hpow
      _ ≤ value / den := Nat.cast_div_le
  next =>
    have hlt := lt_pow_digitCount ((den - 1) / value)
    rw [Nat.div_lt_iff_lt_mul hvalue] at hlt
    have hle : den ≤ 10 ^ digitCount ((den - 1) / value) * value := by omega
    have hle' : (den : ℚ) ≤ 10 ^ digitCount ((den - 1) / value) * value := by exact_mod_cast hle
    rw [zpow_neg, zpow_natCast, le_div_iff₀ hden', inv_mul_le_iff₀ (by positivity)]
    exact hle'

theorem leading_ge (m : Nat) (e : Int) : -((2 - e).toNat + 1) ≤ (neighbourhood m e).leading := by
  unfold leading
  split
  · have hcount := digitCount_pos ((neighbourhood m e).value / (neighbourhood m e).den)
    omega
  · have hle := Nat.div_le_self ((neighbourhood m e).den - 1) (neighbourhood m e).value
    have hten : (neighbourhood m e).den ≤ 10 ^ (2 - e).toNat := Nat.pow_le_pow_left (by decide) _
    have hmore : (10 : Nat) ^ (2 - e).toNat < 10 ^ ((2 - e).toNat + 1) :=
      Nat.pow_lt_pow_right (by decide) (Nat.lt_succ_self _)
    have hcount := digitCount_le (Nat.succ_pos _) (show
      ((neighbourhood m e).den - 1) / (neighbourhood m e).value < 10 ^ ((2 - e).toNat + 1) by omega)
    omega

theorem onGrid_admits {k : Int} {n : Nat} (h : (neighbourhood m e).onGrid k = some n) :
    (neighbourhood m e).admits n k = true := by
  have hchosen {a b : Nat} (h : (if (neighbourhood m e).admits a k = true then some a
      else if (neighbourhood m e).admits b k = true then some b else none) = some n) :
      (neighbourhood m e).admits n k = true := by
    split at h
    next ha => exact Option.some.inj h ▸ ha
    next =>
      split at h
      next hb => exact Option.some.inj h ▸ hb
      next => simp at h
  exact hchosen h

theorem divHalfEven_error (num : Nat) {den : Nat} (hden : 0 < den) :
    |(divHalfEven num den : ℚ) - num / den| ≤ 1 / 2 := by
  have hcut := Nat.div_add_mod num den
  have hrest := Nat.mod_lt num hden
  have hpos : (0 : ℚ) < den := by exact_mod_cast hden
  have hbounds : 2 * (den * divHalfEven num den) ≤ 2 * num + den ∧
      2 * num ≤ 2 * (den * divHalfEven num den) + den := by
    unfold divHalfEven
    dsimp only
    generalize num / den = q at *
    generalize num % den = r at *
    split
    · omega
    · split
      · rw [Nat.mul_add]
        omega
      · rcases Nat.mod_two_eq_zero_or_one q with hq | hq <;> rw [hq, Nat.mul_add] <;> omega
  obtain ⟨hlow, hhigh⟩ := hbounds
  have hlow' : (2 * (den * divHalfEven num den) : ℚ) ≤ 2 * num + den := by exact_mod_cast hlow
  have hhigh' : (2 * num : ℚ) ≤ 2 * (den * divHalfEven num den) + den := by exact_mod_cast hhigh
  rw [abs_le, le_sub_iff_add_le, sub_le_iff_le_add, ← le_sub_iff_add_le', div_le_iff₀ hpos,
    ← sub_le_iff_le_add', le_div_iff₀ hpos]
  constructor <;> linarith

theorem onGrid_isSome {k : Int} (hfit : Fitting m e) (hm : m ≠ 0)
    (hlead : (10 : ℚ) ^ (k + 16) ≤ m * 2 ^ e) : ((neighbourhood m e).onGrid k).isSome := by
  let num := (neighbourhood m e).value * Nat.pow 10 (-k).toNat
  let den := (neighbourhood m e).den * Nat.pow 10 k.toNat
  have hden : 0 < den :=
    Nat.mul_pos (Nat.pos_of_ne_zero (den_ne m e)) (Nat.pow_pos (by decide))
  have hscale := ratio_scale (by decide : 10 ≠ 0) (neighbourhood m e).value (den_ne m e) k
  rw [value_eq] at hscale
  have hratio : (num / den : ℚ) = m * 2 ^ e * 10 ^ (-k) := by
    rw [div_eq_iff (by exact_mod_cast hden.ne')]
    exact_mod_cast hscale.symm
  have herror := divHalfEven_error num hden
  have hclose : |Numeric.magnitude (divHalfEven num den) k - m * 2 ^ e| ≤ 10 ^ k / 2 := by
    have hten : (0 : ℚ) < 10 ^ k := by positivity
    have hshift : Numeric.magnitude (divHalfEven num den) k - m * 2 ^ e =
        (divHalfEven num den - num / den) * 10 ^ k := by
      rw [hratio, Numeric.magnitude, sub_mul, mul_assoc (m * 2 ^ e : ℚ), ← zpow_add₀ (by norm_num),
        Int.add_left_neg, zpow_zero, mul_one]
    rw [hshift, abs_mul, abs_of_pos hten]
    nlinarith
  have hadmits := (admits_iff hm e _ k).mpr (near_of_close hfit hlead hclose)
  have hgrid : (neighbourhood m e).onGrid k = some (divHalfEven num den) := if_pos hadmits
  rw [hgrid]
  rfl

end Neighbourhood

/-- The shortest digits of a number are near it. -/
theorem shortest_near (hfit : Fitting m e) (hm : m ≠ 0) :
    Near m e (Numeric.magnitude (shortest m e).1 (shortest m e).2) ∧ -1100 ≤ (shortest m e).2 := by
  have hlead := Neighbourhood.leading_le hm e
  have hleast : -1077 ≤ (neighbourhood m e).leading := by
    have hsmallest := hfit.smallest
    have hge := Neighbourhood.leading_ge m e
    unfold minExponent at hsmallest
    omega
  unfold shortest
  dsimp only
  generalize hhit : (List.range 17).findSome? _ = hit
  cases hit with
  | none =>
    rw [List.findSome?_eq_none_iff] at hhit
    have hlast := hhit 16 (by decide)
    rw [Option.map_eq_none_iff, Nat.cast_ofNat] at hlast
    have hsome := Neighbourhood.onGrid_isSome (k := (neighbourhood m e).leading - 16) hfit hm
      (by rwa [Int.sub_add_cancel])
    simp [hlast] at hsome
  | some found =>
    obtain ⟨i, hi, hfound⟩ := List.exists_of_findSome?_eq_some hhit
    obtain ⟨n, hn, rfl⟩ := Option.map_eq_some_iff.mp hfound
    have hnear := (Neighbourhood.admits_iff hm e n _).mp (Neighbourhood.onGrid_admits hn)
    have hi' := List.mem_range.mp hi
    rw [Option.getD_some]
    split
    next hten =>
      refine ⟨?_, by dsimp only; omega⟩
      have hone := magnitude_scale 1 1 ((neighbourhood m e).leading - i)
      rw [hten] at hnear
      exact hone ▸ hnear
    next => exact ⟨hnear, by dsimp only; omega⟩

theorem eight_pow_le (k : Nat) : (2 : ℚ) ^ ((3 * k : Nat) : Int) ≤ 10 ^ (k : Int) := by
  rw [zpow_natCast, zpow_natCast, pow_mul]
  exact pow_le_pow_left₀ (by norm_num) (by norm_num) k

theorem near_adjusted {c : Nat} {k : Int} (hfit : Fitting m e) (hm : m ≠ 0)
    (h : Near m e (Numeric.magnitude c k)) :
    c ≠ 0 ∧ -400 ≤ Decimal.adjusted c k ∧ Decimal.adjusted c k ≤ 400 := by
  have hc : c ≠ 0 := by
    rintro rfl
    have hpos := h.pos hm
    rw [magnitude_zero] at hpos
    exact hpos.false
  have hsmallest := hfit.smallest
  have hlargest := hfit.largest
  unfold minExponent at hsmallest
  unfold maxExponent at hlargest
  have hhigh : (10 : ℚ) ^ (Decimal.adjusted c k) < 10 ^ ((342 : Nat) : Int) := by
    calc (10 : ℚ) ^ (Decimal.adjusted c k) ≤ Numeric.magnitude c k := le_magnitude hc k
      _ < 2 ^ (e + 53) := h.below hfit.below
      _ ≤ 2 ^ ((3 * 342 : Nat) : Int) := zpow_le_zpow_right₀ (by norm_num) (by omega)
      _ ≤ 10 ^ ((342 : Nat) : Int) := eight_pow_le 342
  have hlow : (10 : ℚ) ^ (-((359 : Nat) : Int)) < 10 ^ (Decimal.adjusted c k + 1) := by
    have hone : (1 : ℚ) ≤ m := by exact_mod_cast Nat.pos_of_ne_zero hm
    have hgap := gap_bounds m e
    calc (10 : ℚ) ^ (-((359 : Nat) : Int)) ≤ 2 ^ (-((3 * 359 : Nat) : Int)) := by
          rw [zpow_neg, zpow_neg]
          exact inv_anti₀ (by positivity) (eight_pow_le 359)
      _ ≤ 2 ^ (e - 1) := zpow_le_zpow_right₀ (by norm_num) (by omega)
      _ = 1 / 2 * 2 ^ e := by
        rw [zpow_sub₀ (by norm_num), zpow_one]
        ring
      _ ≤ (m - gap m e) * 2 ^ e := by
        gcongr
        linarith
      _ ≤ Numeric.magnitude c k := h.low
      _ < 10 ^ (k + digitCount c) := magnitude_lt c k
      _ = 10 ^ (Decimal.adjusted c k + 1) := by rw [Decimal.adjusted, Int.sub_add_cancel]
  have hhigh' := (zpow_lt_zpow_iff_right₀ (by norm_num : (1 : ℚ) < 10)).mp hhigh
  have hlow' := (zpow_lt_zpow_iff_right₀ (by norm_num : (1 : ℚ) < 10)).mp hlow
  exact ⟨hc, by omega, by omega⟩

theorem ofScaled_near (negative : Bool) {c : Nat} {k : Int} (hfit : Fitting m e) (hm : m ≠ 0)
    (h : Near m e (Numeric.magnitude c k)) : ofScaled negative c k = finite negative m e := by
  obtain ⟨hc, hlow, hhigh⟩ := near_adjusted hfit hm h
  have hden : Nat.pow 10 (-k).toNat ≠ 0 := (Nat.pow_pos (by decide)).ne'
  have hratio : ((c * Nat.pow 10 k.toNat : Nat) / (Nat.pow 10 (-k).toNat : Nat) : ℚ) =
      Numeric.magnitude c k := by
    rw [div_eq_iff (by exact_mod_cast hden)]
    exact_mod_cast (magnitude_split c k).symm
  unfold ofScaled
  dsimp only
  rw [if_neg hc, if_neg (by omega), if_neg (by omega)]
  exact ofRatio_near negative hfit hm hden (hratio ▸ h)

theorem parse?_near (negative : Bool) (x : Numeral) (hfit : Fitting m e) (hm : m ≠ 0)
    (h : Near m e (Numeric.magnitude x.coefficient x.scale)) (hscale : -1100 ≤ x.scale) :
    parse? (Decimal.signText negative ++ x.chars) = some (finite negative m e) := by
  obtain ⟨hc, -, hhigh⟩ := near_adjusted hfit hm h
  have hfits : Decimal.fits x.coefficient x.scale = true := by
    unfold Decimal.fits Decimal.largestExponent
    simp only [hc, if_false, Bool.and_eq_true, decide_eq_true_eq]
    omega
  rw [parse?, x.parse? negative hfits, Option.map_some, ofDecimal,
    ofScaled_near negative hfit hm h]

theorem exponentText_power (e : Int) : PowerText (exponentText e) e :=
  powerText_of_int (.inl rfl) e (2 - (Text.digitsOf e.natAbs).length)

theorem digitsText_numeral {n : Nat} (hn : n ≠ 0) (k : Int) :
    ∃ x : Numeral, digitsText n k = x.chars ∧
      Numeric.magnitude x.coefficient x.scale = Numeric.magnitude n k ∧ min k (-1) ≤ x.scale ∧
      x.NoZeroAhead ∧ (x.fraction ≠ [] ∨ x.exponent ≠ []) := by
  unfold digitsText
  dsimp only
  split
  next hrange =>
    obtain ⟨x, htext, hc, hlength, hexponent, hpower, hzero⟩ := plain_numeral n k
    rw [Condition.positionalText_eq] at htext
    rw [htext]
    by_cases hk : 0 ≤ k
    · -- A fraction is added, which makes the coefficient ten times as large.
      have hfraction : x.fraction = [] := List.eq_nil_of_length_eq_zero (by omega)
      have hdigits := x.digits
      rw [hfraction, List.append_nil] at hdigits
      refine ⟨⟨x.whole, ['0'], [], 0, x.whole_ne,
        List.forall_mem_append.mpr ⟨hdigits, by simp⟩, .none⟩, ?_, ?_, ?_, hzero hn, .inl (by simp)⟩
      · simp [Numeral.chars, hk, hfraction, hexponent, Condition.pointOf]
      · have hten := Condition.digitsValue_append_zeros x.whole 1
        rw [Numeral.coefficient, hfraction, List.append_nil] at hc
        simp only [Numeral.coefficient, Numeral.scale]
        rw [show ['0'] = List.replicate 1 '0' from rfl, hten, hc, magnitude_scale, magnitude_scale]
        congr 1
        simp only [List.length_replicate]
        omega
      · simp [Numeral.scale]
    · have hfraction : x.fraction ≠ [] := by
        rw [← List.length_pos_iff, hlength]
        omega
      have hscale : x.scale = k := by
        rw [Numeral.scale, hpower, hlength]
        omega
      refine ⟨x, by simp [hk], ?_, by omega, hzero hn, .inl hfraction⟩
      rw [hc, hscale, magnitude_scale]
      congr 1
      omega
  next hrange =>
    obtain ⟨x, htext, hc, hscale, hexponent, hzero⟩ :=
      scientific_numeral (exponentText_power (k + (Text.digitsOf n).length - 1))
    refine ⟨x, htext, by rw [hc, hscale], by omega, hzero hn, .inr ?_⟩
    rw [hexponent]
    simp [exponentText]

theorem toChars_numeral (negative : Bool) (hfit : Fitting m e) :
    ∃ x : Numeral, (finite negative m e).toChars = Decimal.signText negative ++ x.chars ∧
      parse? (Decimal.signText negative ++ x.chars) = some (finite negative m e) ∧
      x.NoZeroAhead ∧ (x.fraction ≠ [] ∨ x.exponent ≠ []) := by
  by_cases hm : m = 0
  · subst hm
    obtain rfl : e = minExponent := hfit.full.resolve_left (by norm_num)
    let x : Numeral := ⟨['0'], ['0'], [], 0, by simp, by simp, .none⟩
    refine ⟨x, by simp [toChars, x, Numeral.chars, Condition.pointOf], ?_, .inl rfl,
      .inl (by simp [x])⟩
    rw [parse?, x.parse? negative (by decide)]
    rfl
  · obtain ⟨hnear, hk⟩ := shortest_near hfit hm
    obtain ⟨hn, -⟩ := near_adjusted hfit hm hnear
    obtain ⟨x, htext, hvalue, hscale, hzero, hmark⟩ :=
      digitsText_numeral hn (shortest m e).2
    refine ⟨x, ?_, parse?_near negative x hfit hm (hvalue ▸ hnear) (by omega), hzero, hmark⟩
    rw [toChars, if_neg hm, ← htext]

end Binary64

end LedgerRules.Numeric
