import LedgerRules.Proofs.AmountColumn

/-! Where quotients leave the range of the binary numbers. A quotient becomes infinite where it lies
nearer to the next power of two than to the largest number, and no quotient from the smallest number
on is rounded to zero. -/

namespace LedgerRules.Numeric.Binary64
variable {negative : Bool} {num den : Nat}

theorem ofRatio_cases (negative : Bool) (num den : Nat) :
    ofRatio negative num den = infinite negative ∨
      ∃ m e, ofRatio negative num den = finite negative m e := by
  unfold ofRatio
  split
  · exact .inr ⟨_, _, rfl⟩
  · dsimp only
    split
    · split
      · exact .inl rfl
      · exact .inr ⟨_, _, rfl⟩
    · split
      · exact .inl rfl
      · exact .inr ⟨_, _, rfl⟩

theorem divHalfEven_eq_above (num k : Nat) (hden : 0 < den) (hk : k % 2 = 0)
    (hbelow : (num / den : ℚ) < k) : divHalfEven num den = k ↔ (k - 1 / 2 : ℚ) ≤ num / den := by
  rw [divHalfEven_iff hden]
  constructor
  · intro h
    have hnear := (abs_le.mp h.near).1
    linarith
  · intro h
    refine ⟨abs_le.mpr ⟨?_, ?_⟩, .inl hk⟩
    · linarith
    · linarith

theorem scaled_pos (hden : den ≠ 0) (e : Int) : 0 < den * Nat.pow 2 e.toNat :=
  Nat.mul_pos (Nat.pos_of_ne_zero hden) (Nat.pow_pos (by decide))

theorem scaled_quotient (num : Nat) (hden : den ≠ 0) (e : Int) :
    ((num * Nat.pow 2 (-e).toNat : Nat) / (den * Nat.pow 2 e.toNat : Nat) : ℚ) =
      num / den / 2 ^ e := by
  have hpart := scaled_pos hden e
  rw [div_eq_iff (by exact_mod_cast hpart.ne'), ← ratio_scale_two num hden e, zpow_neg, ← div_eq_mul_inv]

theorem ofRatio_ne_infinite (hnum : num ≠ 0) (h : floorLog num den < 1023) :
    ofRatio negative num den ≠ infinite negative := by
  generalize hexp : max minExponent (floorLog num den - 52) = e
  have he : ¬e + 1 > maxExponent ∧ ¬e > maxExponent := by
    unfold maxExponent minExponent at *
    omega
  rw [ofRatio_eq negative hnum hexp rfl, if_neg he.1, if_neg he.2]
  split <;> simp

theorem ofRatio_eq_infinite (hnum : num ≠ 0) (h : 1023 < floorLog num den) :
    ofRatio negative num den = infinite negative := by
  generalize hexp : max minExponent (floorLog num den - 52) = e
  have he : e + 1 > maxExponent ∧ e > maxExponent := by
    unfold maxExponent minExponent at *
    omega
  rw [ofRatio_eq negative hnum hexp rfl, if_pos he.1, if_pos he.2]
  split <;> rfl

theorem ofRatio_infinite_of_edge (hnum : num ≠ 0) (h : floorLog num den = 1023) :
    ofRatio negative num den = infinite negative ↔
      divHalfEven (num * Nat.pow 2 (-971 : Int).toNat) (den * Nat.pow 2 (971 : Int).toNat) =
        2 ^ 53 := by
  have hexp : max minExponent (floorLog num den - 52) = 971 := by
    unfold minExponent
    omega
  rw [ofRatio_eq negative hnum hexp rfl, if_pos (show (971 : Int) + 1 > maxExponent by decide),
    if_neg (show ¬(971 : Int) > maxExponent by decide)]
  generalize divHalfEven _ _ = rounded
  split
  next hcarry => exact iff_of_true rfl hcarry
  next hcarry => exact iff_of_false (by simp) hcarry

theorem carry_iff (num : Nat) (hden : den ≠ 0)
    (h : (num / den : ℚ) < 2 ^ 53 * 2 ^ (971 : Int)) :
    divHalfEven (num * Nat.pow 2 (-971 : Int).toNat) (den * Nat.pow 2 (971 : Int).toNat) = 2 ^ 53 ↔
      ((2 ^ 54 - 1) * 2 ^ (970 : Int) : ℚ) ≤ num / den := by
  have htwice : (2 : ℚ) ^ (971 : Int) = 2 * 2 ^ (970 : Int) := by
    rw [show (971 : Int) = 1 + 970 by rfl, zpow_add₀ (by norm_num), zpow_one]
  have hbelow : (num / den / 2 ^ (971 : Int) : ℚ) < (2 ^ 53 : Nat) := by
    rw [div_lt_iff₀ (by positivity), Nat.cast_pow, Nat.cast_ofNat]
    exact h
  have hround := divHalfEven_eq_above (num * Nat.pow 2 (-971 : Int).toNat) (2 ^ 53)
    (scaled_pos hden 971) (by norm_num) (by rwa [scaled_quotient num hden])
  rw [scaled_quotient num hden, le_div_iff₀ (by positivity), htwice] at hround
  have hhalf (unit : ℚ) :
      (((2 ^ 53 : Nat) - 1 / 2) * (2 * unit) : ℚ) = (2 ^ 54 - 1) * unit := by
    push_cast
    ring
  rw [hround, hhalf]

/-- The largest number is `(2 ^ 53 - 1) * 2 ^ 971`; halfway from it to the next power of two the
rounding turns to that, which is no number any more. -/
theorem ofRatio_infinite_iff (negative : Bool) (num : Nat) (hden : den ≠ 0) :
    ofRatio negative num den = infinite negative ↔
      ((2 ^ 54 - 1) * 2 ^ (970 : Int) : ℚ) ≤ num / den := by
  have hunit : (0 : ℚ) < 2 ^ (970 : Int) := by positivity
  have hpower (k : Nat) : (2 : ℚ) ^ k * 2 ^ (970 : Int) = 2 ^ ((k : Int) + 970) := by
    rw [zpow_add₀ (by norm_num), zpow_natCast]
  by_cases hnum : num = 0
  · subst hnum
    have hpositive : ¬((2 ^ 54 - 1) * 2 ^ (970 : Int) : ℚ) ≤ (0 : Nat) / den := by
      rw [Nat.cast_zero, zero_div, not_le]
      exact mul_pos (by norm_num) hunit
    exact iff_of_false (by simp [ofRatio, zero]) hpositive
  obtain ⟨hlow, hhigh⟩ := floorLog_spec hnum hden
  rcases lt_trichotomy (floorLog num den) 1023 with hsmall | hedge | hlarge
  · have hapart : (num / den : ℚ) < (2 ^ 54 - 1) * 2 ^ (970 : Int) :=
      calc (num / den : ℚ) < 2 ^ (floorLog num den + 1) := hhigh
        _ ≤ 2 ^ ((53 : Nat) + 970 : Int) := zpow_le_zpow_right₀ (by norm_num) (by omega)
        _ = 2 ^ 53 * 2 ^ (970 : Int) := (hpower 53).symm
        _ ≤ (2 ^ 54 - 1) * 2 ^ (970 : Int) := mul_le_mul_of_nonneg_right (by norm_num) hunit.le
    exact iff_of_false (ofRatio_ne_infinite hnum hsmall) (not_le.mpr hapart)
  · rw [ofRatio_infinite_of_edge hnum hedge]
    refine carry_iff num hden (hhigh.trans_eq ?_)
    rw [hedge, ← zpow_natCast, ← zpow_add₀ (by norm_num)]
    rfl
  · have hreached : ((2 ^ 54 - 1) * 2 ^ (970 : Int) : ℚ) ≤ num / den :=
      calc ((2 ^ 54 - 1) * 2 ^ (970 : Int) : ℚ)
          ≤ 2 ^ 54 * 2 ^ (970 : Int) := mul_le_mul_of_nonneg_right (by norm_num) hunit.le
        _ = 2 ^ ((54 : Nat) + 970 : Int) := hpower 54
        _ ≤ 2 ^ floorLog num den := zpow_le_zpow_right₀ (by norm_num) (by omega)
        _ ≤ num / den := hlow
    exact iff_of_true (ofRatio_eq_infinite hnum hlarge) hreached

theorem ofRatio_positive {n : Bool} {m : Nat} {e : Int} (hden : den ≠ 0)
    (h : ofRatio negative num den = finite n m e) (hx : (2 ^ minExponent : ℚ) ≤ num / den) :
    0 < m := by
  have hsmallest : Fitting 1 minExponent := ⟨by norm_num, le_refl _, by decide, .inr rfl⟩
  have hnearest := ofRatio_nearest hden h hsmallest
  have hunit : (0 : ℚ) < 2 ^ minExponent := by positivity
  by_contra hm
  obtain rfl : m = 0 := by omega
  rw [Nat.cast_zero, zero_mul, zero_sub, abs_neg, Nat.cast_one, one_mul, abs_sub_comm,
    abs_of_nonneg (by linarith), abs_of_nonneg (by linarith)] at hnearest
  linarith

end LedgerRules.Numeric.Binary64
