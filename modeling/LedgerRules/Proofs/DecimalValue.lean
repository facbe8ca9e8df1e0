import Mathlib.Algebra.Order.Field.Power
import Mathlib.Data.Rat.Cast.Order
import Mathlib.Order.Compare
import Mathlib.Tactic.FieldSimp
import Mathlib.Tactic.Linarith
import Mathlib.Tactic.Ring
import LedgerRules.Numeric.Decimal

/-! The rational value of a finite decimal number. Comparison goes by it alone, and rounding to the
working precision keeps it if the number has few enough digits. -/

namespace LedgerRules.Numeric

theorem leadingDigit_eq {n base fuel : Nat} (hn : n ≠ 0) (hb : 1 < base)
    (h : n < base ^ 2 ^ fuel) :
    ∃ k, leadingDigit n fuel base = (n / base ^ k, k) ∧ base ^ k ≤ n ∧ n < base ^ (k + 1) := by
  have hzero : ∀ {b}, n < b → ∃ k, (n, 0) = (n / b ^ k, k) ∧ b ^ k ≤ n ∧ n < b ^ (k + 1) :=
    fun hlt => ⟨0, by simp, by simpa using Nat.one_le_iff_ne_zero.mpr hn, by simpa using hlt⟩
  induction fuel generalizing base with
  | zero => exact hzero (by simpa using h)
  | succ fuel ih =>
    simp only [leadingDigit]
    split
    next hlt => exact hzero hlt
    next hge =>
      have hsquare : ∀ m, (base * base) ^ m = base ^ (2 * m) := fun m => by rw [pow_mul, pow_two]
      have hb2 : 1 < base * base := Nat.one_lt_mul_iff.mpr ⟨by omega, by omega, .inl hb⟩
      obtain ⟨k, hk, hle, hlt⟩ := ih hb2 (by rwa [hsquare, ← pow_succ'])
      rw [hsquare] at hk hle hlt
      rw [hk]
      dsimp only
      split
      next hq =>
        rw [Nat.div_lt_iff_lt_mul (by positivity), ← pow_succ'] at hq
        exact ⟨2 * k, rfl, hle, hq⟩
      next hq =>
        rw [not_lt, Nat.le_div_iff_mul_le (by positivity), ← pow_succ'] at hq
        exact ⟨2 * k + 1, by rw [Nat.div_div_eq_div_mul, ← pow_succ], hq, hlt⟩

theorem digitCount_eq {n : Nat} (hn : n ≠ 0) :
    ∃ k, digitCount n = k + 1 ∧ 10 ^ k ≤ n ∧ n < 10 ^ (k + 1) := by
  have hpow : n < 10 ^ 2 ^ n :=
    Nat.lt_two_pow_self.trans (Nat.lt_pow_self (by decide))
  obtain ⟨k, hk, hle, hlt⟩ := leadingDigit_eq hn (by decide) hpow
  exact ⟨k, by rw [digitCount, hk], hle, hlt⟩

theorem lt_pow_digitCount (c : Nat) : c < 10 ^ digitCount c := by
  by_cases hc : c = 0
  · rw [hc]
    decide
  · obtain ⟨k, hk, -, hlt⟩ := digitCount_eq hc
    rwa [hk]

theorem digitCount_pos (c : Nat) : 0 < digitCount c := Nat.succ_pos _

theorem pow_le_of_digitCount {c : Nat} (h : c ≠ 0) : 10 ^ (digitCount c - 1) ≤ c := by
  obtain ⟨k, hk, hle, -⟩ := digitCount_eq h
  rwa [hk]

theorem digitCount_le {c k : Nat} (hk : 0 < k) (h : c < 10 ^ k) : digitCount c ≤ k := by
  by_cases hc : c = 0
  · rw [hc]
    exact hk
  · have hlt := (Nat.pow_lt_pow_iff_right (by decide)).mp ((pow_le_of_digitCount hc).trans_lt h)
    omega

theorem lt_digitCount {c k : Nat} (h : 10 ^ k ≤ c) : k < digitCount c :=
  (Nat.pow_lt_pow_iff_right (by decide)).mp (h.trans_lt (lt_pow_digitCount c))

theorem length_digitsOf (n : Nat) : (Text.digitsOf n).length = digitCount n := by
  apply le_antisymm
  · exact (Nat.length_toDigits_le_iff (by decide) (digitCount_pos n)).mpr (lt_pow_digitCount n)
  · exact digitCount_le Nat.length_toDigits_pos
      ((Nat.length_toDigits_le_iff (by decide) Nat.length_toDigits_pos).mp le_rfl)

def magnitude (c : Nat) (e : Int) : ℚ := c * 10 ^ e

theorem magnitude_zero (e : Int) : magnitude 0 e = 0 := by simp [magnitude]

theorem magnitude_nonneg (c : Nat) (e : Int) : 0 ≤ magnitude c e := by
  unfold magnitude
  positivity

theorem magnitude_pos {c : Nat} (h : c ≠ 0) (e : Int) : 0 < magnitude c e := by
  have hc : (0 : ℚ) < c := by exact_mod_cast Nat.pos_of_ne_zero h
  unfold magnitude
  positivity

theorem magnitude_scale (c k : Nat) (e : Int) :
    magnitude (c * 10 ^ k) e = magnitude c (e + k) := by
  unfold magnitude
  rw [zpow_add₀ (by norm_num), zpow_natCast]
  push_cast
  ring

theorem magnitude_split (c : Nat) (e : Int) :
    magnitude c e * 10 ^ (-e).toNat = ((c * 10 ^ e.toNat : Nat) : ℚ) := by
  have hexp : (e : Int) + (-e).toNat = e.toNat := by omega
  rw [magnitude, mul_assoc, ← zpow_natCast, ← zpow_add₀ (by norm_num), hexp]
  push_cast
  rw [zpow_natCast]

theorem magnitude_le_iff {a b : Nat} (e : Int) : magnitude a e ≤ magnitude b e ↔ a ≤ b := by
  have hpos : (0 : ℚ) < 10 ^ e := by positivity
  unfold magnitude
  rw [mul_le_mul_iff_of_pos_right hpos, Nat.cast_le]

theorem magnitude_lt_iff {a b : Nat} (e : Int) : magnitude a e < magnitude b e ↔ a < b := by
  rw [lt_iff_not_ge, magnitude_le_iff, Nat.not_le]

theorem magnitude_inj {a b : Nat} (e : Int) : magnitude a e = magnitude b e ↔ a = b := by
  rw [le_antisymm_iff, magnitude_le_iff, magnitude_le_iff, ← Nat.le_antisymm_iff]

theorem magnitude_lt_pow {c n : Nat} (h : c < 10 ^ n) (e : Int) : magnitude c e < 10 ^ (e + n) := by
  have hc := (magnitude_lt_iff e).mpr h
  have hone := magnitude_scale 1 n e
  rw [Nat.one_mul] at hone
  rw [hone] at hc
  simpa [magnitude] using hc

theorem magnitude_lt (c : Nat) (e : Int) : magnitude c e < 10 ^ (e + digitCount c) :=
  magnitude_lt_pow (lt_pow_digitCount c) e

theorem le_magnitude {c : Nat} (h : c ≠ 0) (e : Int) :
    (10 : ℚ) ^ (e + digitCount c - 1) ≤ magnitude c e := by
  have hc := (magnitude_le_iff e).mpr (pow_le_of_digitCount h)
  have hone := magnitude_scale 1 (digitCount c - 1) e
  rw [Nat.one_mul] at hone
  rw [hone] at hc
  have hexp : e + ((digitCount c - 1 : Nat) : Int) = e + digitCount c - 1 := by
    have hpos := digitCount_pos c
    omega
  rw [hexp] at hc
  simpa [magnitude] using hc

theorem compare_congr {α β : Type} [LinearOrder α] [LinearOrder β] {a b : α} {c d : β}
    (hlt : a < b ↔ c < d) (hgt : b < a ↔ d < c) : compare a b = compare c d := by
  rcases lt_trichotomy a b with h | h | h
  · rw [compare_lt_iff_lt.mpr h, compare_lt_iff_lt.mpr (hlt.mp h)]
  · have hne : ¬c < d := fun hcd => (h ▸ hlt.mpr hcd).false
    have hne' : ¬d < c := fun hdc => (h ▸ hgt.mpr hdc).false
    have heq := le_antisymm (not_lt.mp hne') (not_lt.mp hne)
    rw [compare_eq_iff_eq.mpr h, compare_eq_iff_eq.mpr heq]
  · rw [compare_gt_iff_gt.mpr h, compare_gt_iff_gt.mpr (hgt.mp h)]

namespace Decimal

theorem compareMagnitude_eq (c₁ : Nat) (e₁ : Int) (c₂ : Nat) (e₂ : Int) :
    compareMagnitude c₁ e₁ c₂ e₂ = compare (magnitude c₁ e₁) (magnitude c₂ e₂) := by
  unfold compareMagnitude
  by_cases h₁ : c₁ = 0
  · by_cases h₂ : c₂ = 0
    · simp [h₁, h₂, magnitude_zero]
    · have hpos := magnitude_pos h₂ e₂
      simp [h₁, h₂, magnitude_zero, compare_lt_iff_lt.mpr hpos]
  by_cases h₂ : c₂ = 0
  · have hpos := magnitude_pos h₁ e₁
    simp [h₁, h₂, magnitude_zero, compare_gt_iff_gt.mpr hpos]
  have hlow {c c' : Nat} {e e' : Int} (hc' : c' ≠ 0) (h : adjusted c e < adjusted c' e') :
      magnitude c e < magnitude c' e' := by
    calc magnitude c e < 10 ^ (e + digitCount c) := magnitude_lt c e
      _ ≤ 10 ^ (e' + digitCount c' - 1) := by
        apply zpow_le_zpow_right₀ (by norm_num)
        unfold adjusted at h
        omega
      _ ≤ magnitude c' e' := le_magnitude hc' e'
  rw [if_neg h₁, if_neg h₂]
  dsimp only
  split
  next hlt => rw [compare_lt_iff_lt.mpr (hlow h₂ hlt)]
  next =>
    split
    next hgt => rw [compare_gt_iff_gt.mpr (hlow h₁ hgt)]
    next =>
      split
      next he =>
        have hscale : magnitude (scaleUp c₂ (e₂ - e₁).toNat) e₁ = magnitude c₂ e₂ := by
          rw [show scaleUp c₂ (e₂ - e₁).toNat = c₂ * 10 ^ (e₂ - e₁).toNat from rfl, magnitude_scale]
          congr 1
          omega
        rw [← hscale]
        exact compare_congr (magnitude_lt_iff e₁).symm (magnitude_lt_iff e₁).symm
      next he =>
        have hscale : magnitude (scaleUp c₁ (e₁ - e₂).toNat) e₂ = magnitude c₁ e₁ := by
          rw [show scaleUp c₁ (e₁ - e₂).toNat = c₁ * 10 ^ (e₁ - e₂).toNat from rfl, magnitude_scale]
          congr 1
          omega
        rw [← hscale]
        exact compare_congr (magnitude_lt_iff e₂).symm (magnitude_lt_iff e₂).symm

def signed (negative : Bool) (x : ℚ) : ℚ := if negative then -x else x

theorem abs_signed (n : Bool) (c : Nat) (e : Int) :
    |signed n (magnitude c e)| = magnitude c e := by
  cases n <;> simp [signed, abs_of_nonneg (magnitude_nonneg c e)]

def HasValue (d : Decimal) (x : ℚ) : Prop :=
  ∃ n c e, d = finite n c e ∧ signed n (magnitude c e) = x

def Same (a b : Decimal) : Prop := ∃ x, a.HasValue x ∧ b.HasValue x

theorem order?_finite (n₁ n₂ : Bool) (c₁ c₂ : Nat) (e₁ e₂ : Int) :
    order? (finite n₁ c₁ e₁) (finite n₂ c₂ e₂) =
      some (compare (signed n₁ (magnitude c₁ e₁)) (signed n₂ (magnitude c₂ e₂))) := by
  have hnonneg₁ := magnitude_nonneg c₁ e₁
  have hnonneg₂ := magnitude_nonneg c₂ e₂
  simp only [order?, Option.some.injEq]
  by_cases hzero : c₁ = 0 ∧ c₂ = 0
  · obtain ⟨rfl, rfl⟩ := hzero
    cases n₁ <;> cases n₂ <;> simp [signed, magnitude_zero]
  · have hpos : 0 < magnitude c₁ e₁ ∨ 0 < magnitude c₂ e₂ := by
      by_cases h₁ : c₁ = 0
      · exact .inr (magnitude_pos (fun h₂ => hzero ⟨h₁, h₂⟩) e₂)
      · exact .inl (magnitude_pos h₁ e₁)
    rw [if_neg (by simpa using hzero)]
    cases n₁ with
    | false =>
      cases n₂ with
      | false => exact compareMagnitude_eq c₁ e₁ c₂ e₂
      | true =>
        refine (compare_gt_iff_gt.mpr ?_).symm
        show -magnitude c₂ e₂ < magnitude c₁ e₁
        rcases hpos with h | h <;> linarith
    | true =>
      cases n₂ with
      | false =>
        refine (compare_lt_iff_lt.mpr ?_).symm
        show -magnitude c₁ e₁ < magnitude c₂ e₂
        rcases hpos with h | h <;> linarith
      | true =>
        show compareMagnitude c₂ e₂ c₁ e₁ = compare (-magnitude c₁ e₁) (-magnitude c₂ e₂)
        rw [compareMagnitude_eq]
        exact compare_congr neg_lt_neg_iff.symm neg_lt_neg_iff.symm

theorem Same.order? {a b : Decimal} (h : Same a b) (d : Decimal) : d.order? a = d.order? b := by
  obtain ⟨x, ⟨n, c, e, rfl, hx⟩, ⟨n', c', e', rfl, hx'⟩⟩ := h
  cases d with
  | finite m k f => rw [order?_finite, order?_finite, hx, hx']
  | _ => rfl

theorem toWorking_eq {c q : Nat} {e target : Int} (hc : c ≠ 0)
    (ht : target = max (e + max ((digitCount c : Int) - precision) 0)
      (if e < tiny then tiny else e))
    (hq : c = q * 10 ^ (target - e).toNat) (ha : adjusted q target ≤ workingMax) :
    toWorking c e = some (q, target) := by
  have hle : e ≤ target ∧ digitCount c ≤ precision + (target - e).toNat := by omega
  have hfew : digitCount q ≤ precision := by
    apply digitCount_le (by decide)
    have hlt := lt_pow_digitCount c
    rw [hq] at hlt
    have hpow := hlt.trans_le (Nat.pow_le_pow_right (by decide) (hq ▸ hle.2))
    rw [Nat.pow_add] at hpow
    exact Nat.lt_of_mul_lt_mul_right hpow
  have hraise : (if e < target then raiseTo c e target else c) = q := by
    split
    next =>
      rw [raiseTo, hq]
      exact divHalfEven_mul q _ (Nat.pow_pos (by decide))
    next hlt =>
      have hsame : (target - e).toNat = 0 := by omega
      rw [hq, hsame, Nat.pow_zero, Nat.mul_one]
  simp only [toWorking, hc, ↓reduceIte, ← ht, hraise, if_neg (Nat.not_lt.mpr hfew)]
  simp [Int.not_lt.mpr ha]

theorem toWorking_bounds {c c' : Nat} {e e' : Int} (h : toWorking c e = some (c', e')) :
    c' < 10 ^ precision ∧ tiny ≤ e' ∧ magnitude c' e' < 10 ^ (workingMax + 1) := by
  have hbeyond : (0 : ℚ) < 10 ^ (workingMax + 1) := by positivity
  by_cases hc : c = 0
  · simp only [toWorking, hc, ↓reduceIte, Option.some.injEq, Prod.mk.injEq] at h
    obtain ⟨rfl, rfl⟩ := h
    refine ⟨by decide, le_max_left _ _, ?_⟩
    rw [magnitude_zero]
    exact hbeyond
  simp only [toWorking, hc, ↓reduceIte] at h
  generalize ht : max (e + max ((digitCount c : Int) - precision) 0)
    (if e < tiny then tiny else e) = target at h
  have htarget : tiny ≤ target ∧ digitCount c ≤ precision + (target - e).toNat := by
    split at ht <;> omega
  have hraise : (if e < target then raiseTo c e target else c) ≤ 10 ^ precision := by
    have hlt := (lt_pow_digitCount c).trans_le (Nat.pow_le_pow_right (by decide) htarget.2)
    split
    next =>
      apply divHalfEven_le
      rw [Nat.pow_add] at hlt
      exact Nat.div_lt_of_lt_mul (Nat.mul_comm _ _ ▸ hlt)
    next hle =>
      have hsame : (target - e).toNat = 0 := by omega
      rw [hsame] at hlt
      exact hlt.le
  generalize (if e < target then raiseTo c e target else c) = c₁ at h hraise
  have hcut : ∀ d : Nat, ∀ f : Int, (if digitCount c₁ > precision then (c₁ / 10, target + 1)
      else (c₁, target)) = (d, f) → d < 10 ^ precision ∧ tiny ≤ f := by
    intro d f hd
    split at hd
    next =>
      obtain ⟨rfl, rfl⟩ := Prod.mk.inj hd
      simp only [precision] at hraise ⊢
      omega
    next hfew =>
      obtain ⟨rfl, rfl⟩ := Prod.mk.inj hd
      have hpow := Nat.pow_le_pow_right (show 0 < 10 by decide) (Nat.not_lt.mp hfew)
      exact ⟨(lt_pow_digitCount c₁).trans_le hpow, htarget.1⟩
  generalize (if digitCount c₁ > precision then (c₁ / 10, target + 1) else (c₁, target)) = p
    at h hcut
  obtain ⟨d, f⟩ := p
  obtain ⟨hd, hf⟩ := hcut d f rfl
  dsimp only at h
  split at h
  next => cases h
  next hfits =>
    obtain ⟨rfl, rfl⟩ := Prod.mk.inj (Option.some.inj h)
    refine ⟨hd, hf, ?_⟩
    by_cases hzero : d = 0
    · rw [hzero, magnitude_zero]
      exact hbeyond
    · have hlow : adjusted d f ≤ workingMax := by simpa [hzero] using hfits
      unfold adjusted at hlow
      exact (magnitude_lt d f).trans_le (zpow_le_zpow_right₀ (by norm_num) (by omega))

theorem toWorking_eq_none {c : Nat} {e : Int} (hc : c ≠ 0) (h : workingMax < adjusted c e) :
    toWorking c e = none := by
  have htiny : tiny + precision = workingMin + 1 := by decide
  have hmin : workingMin < workingMax := by decide
  have hprecision : 1 < precision := by decide
  have hlead := pow_le_of_digitCount hc
  unfold adjusted at h
  simp only [toWorking, hc, ↓reduceIte]
  generalize ht : max (e + max ((digitCount c : Int) - precision) 0)
    (if e < tiny then tiny else e) = target
  have htarget : target = e + max ((digitCount c : Int) - precision) 0 := by split at ht <;> omega
  have hraise : 10 ^ (digitCount c - 1 - (target - e).toNat) ≤
      (if e < target then raiseTo c e target else c) := by
    split
    next =>
      apply le_divHalfEven
      show _ ≤ c / 10 ^ (target - e).toNat
      rw [Nat.le_div_iff_mul_le (Nat.pow_pos (by decide)), ← pow_add]
      exact (Nat.pow_le_pow_right (by decide) (by omega)).trans hlead
    next => exact (Nat.pow_le_pow_right (by decide) (by omega)).trans hlead
  generalize (if e < target then raiseTo c e target else c) = c₁ at hraise
  have hcount := lt_digitCount hraise
  have hbeyond {d : Nat} {f : Int} (hd : d ≠ 0) (hf : workingMax < adjusted d f) :
      (if adjusted d f > workingMax && d ≠ 0 then none else some (d, f)) = none :=
    if_pos (by simpa [hd] using hf)
  split
  next hcut =>
    -- One digit is dropped, and the number still begins where it began.
    have hdrop : 10 ^ (digitCount c₁ - 2) ≤ c₁ / 10 := by
      rw [Nat.le_div_iff_mul_le (by decide), ← pow_succ]
      have hc₁ : c₁ ≠ 0 := ((Nat.pow_pos (by decide)).trans_le hraise).ne'
      exact (Nat.pow_le_pow_right (by decide) (by omega)).trans (pow_le_of_digitCount hc₁)
    have hfewer := lt_digitCount hdrop
    apply hbeyond ((Nat.pow_pos (by decide)).trans_le hdrop).ne'
    unfold adjusted
    omega
  next =>
    apply hbeyond ((Nat.pow_pos (by decide)).trans_le hraise).ne'
    unfold adjusted
    omega

theorem negated?_eq_none {c : Nat} {e : Int} (n : Bool) (hc : c ≠ 0)
    (h : workingMax < adjusted c e) : (finite n c e).negated? = none := by
  rw [negated?, toWorking_eq_none hc h]
  rfl

/-- The value needs no rounding: it has at most 28 significant digits, none of them below the
working exponents or beyond. -/
def Holdable (x : ℚ) : Prop :=
  (∃ m k, m < 10 ^ precision ∧ tiny ≤ k ∧ x = magnitude m k) ∧ x < 10 ^ (workingMax + 1)

theorem holdable_zero : Holdable 0 := by
  refine ⟨⟨0, 0, by decide, by decide, (magnitude_zero 0).symm⟩, ?_⟩
  positivity

theorem toWorking_of_holdable {c : Nat} {e : Int} (h : Holdable (magnitude c e)) :
    ∃ c' e', toWorking c e = some (c', e') ∧ magnitude c' e' = magnitude c e := by
  by_cases hc : c = 0
  · subst hc
    exact ⟨0, _, rfl, by rw [magnitude_zero, magnitude_zero]⟩
  obtain ⟨⟨m, k, hm, hk, hsame⟩, hbelow⟩ := h
  have hone : (1 : ℚ) < 10 := by norm_num
  generalize ht : max (e + max ((digitCount c : Int) - precision) 0)
    (if e < tiny then tiny else e) = target
  -- The significant digits begin where the first digit stands, so they end at `k` or above.
  have hlead : e + digitCount c - precision ≤ k := by
    have hexp := (zpow_lt_zpow_iff_right₀ hone).mp
      (((le_magnitude hc e).trans_eq hsame).trans_lt (magnitude_lt_pow hm k))
    omega
  have hq : ∃ q, c = q * 10 ^ (target - e).toNat := by
    by_cases hlt : e < target
    · have hle : target ≤ k := by split at ht <;> omega
      refine ⟨m * 10 ^ (k - target).toNat, ?_⟩
      rw [← magnitude_inj e, magnitude_scale, magnitude_scale, hsame]
      congr 1
      omega
    · have hzero : (target - e).toNat = 0 := by omega
      exact ⟨c, by rw [hzero, Nat.pow_zero, Nat.mul_one]⟩
  obtain ⟨q, hq⟩ := hq
  have hvalue : magnitude q target = magnitude c e := by
    rw [hq, magnitude_scale]
    congr 1
    omega
  have hq0 : q ≠ 0 := by
    rintro rfl
    rw [Nat.zero_mul] at hq
    exact hc hq
  refine ⟨q, target, toWorking_eq hc ht.symm hq ?_, hvalue⟩
  have hexp := (zpow_lt_zpow_iff_right₀ hone).mp
    ((le_magnitude hq0 target).trans_lt (hvalue.trans_lt hbelow))
  simp only [adjusted]
  omega

theorem signed_not (n : Bool) (c : Nat) (e : Int) :
    signed (!n && c ≠ 0) (magnitude c e) = -signed n (magnitude c e) := by
  by_cases hc : c = 0
  · subst hc
    cases n <;> simp [signed, magnitude_zero]
  · cases n <;> simp [signed, hc]

theorem magnitude_of_signed {n n' : Bool} {c c' : Nat} {e e' : Int}
    (h : signed n (magnitude c e) = signed n' (magnitude c' e')) :
    magnitude c e = magnitude c' e' := by
  have habs := congrArg abs h
  rwa [abs_signed, abs_signed] at habs

theorem negates_iff {n : Bool} {c : Nat} {e : Int} :
    (∃ d, (finite n c e).negated? = some d ∧ d.HasValue (-signed n (magnitude c e))) ↔
      Holdable (magnitude c e) := by
  constructor
  · rintro ⟨d, hd, hvalue⟩
    obtain ⟨⟨c', e'⟩, hw, rfl⟩ := Option.map_eq_some_iff.mp hd
    obtain ⟨m, k, f, heq, hsame⟩ := hvalue
    obtain ⟨rfl, rfl, rfl⟩ := Decimal.finite.inj heq
    rw [← signed_not] at hsame
    have hmagnitude := magnitude_of_signed hsame
    obtain ⟨hc, he, hbelow⟩ := toWorking_bounds hw
    exact ⟨⟨c', e', hc, he, hmagnitude.symm⟩, hmagnitude ▸ hbelow⟩
  · intro h
    obtain ⟨c', e', hw, hsame⟩ := toWorking_of_holdable h
    refine ⟨finite (!n && c' ≠ 0) c' e', Option.map_eq_some_iff.mpr ⟨(c', e'), hw, rfl⟩, ?_⟩
    refine ⟨_, c', e', rfl, ?_⟩
    rw [signed_not]
    cases n <;> simp [signed, hsame]

/-- Zero, or a number of at most 28 significant digits from `10^-400` to `10^400` in magnitude. -/
def Moderate : Decimal → Prop
  | finite _ c e => c ≠ 0 →
      (∃ m k, m < 10 ^ 28 ∧ magnitude c e = magnitude m k) ∧
        10 ^ (-400 : Int) ≤ magnitude c e ∧ magnitude c e ≤ 10 ^ (400 : Int)
  | _ => False

theorem Moderate.isFinite {d : Decimal} (h : d.Moderate) : d.isFinite = true := by
  cases d with
  | finite => rfl
  | _ => exact h.elim

theorem Moderate.of_magnitude {n n' : Bool} {c c' : Nat} {e e' : Int}
    (h : (finite n c e).Moderate) (hm : magnitude c' e' = magnitude c e) :
    (finite n' c' e').Moderate := by
  intro hc'
  have hc : c ≠ 0 := by
    rintro rfl
    rw [magnitude_zero] at hm
    exact (magnitude_pos hc' e').ne' hm
  rw [hm]
  exact h hc

theorem Moderate.holdable {n : Bool} {c : Nat} {e : Int} (h : (finite n c e).Moderate) :
    Holdable (magnitude c e) := by
  by_cases hc : c = 0
  · rw [hc, magnitude_zero]
    exact holdable_zero
  obtain ⟨⟨m, k, hm, hsame⟩, hlow, hhigh⟩ := h hc
  have hone : (1 : ℚ) < 10 := by norm_num
  have hk := (zpow_lt_zpow_iff_right₀ hone).mp
    (hlow.trans_lt (hsame.trans_lt (magnitude_lt_pow hm k)))
  refine ⟨⟨m, k, hm, ?_, hsame⟩, hhigh.trans_lt ?_⟩
  · simp only [tiny, workingMin, precision]
    omega
  · exact zpow_lt_zpow_right₀ hone (by decide)

theorem Moderate.negated {n : Bool} {c : Nat} {e : Int} (h : (finite n c e).Moderate) :
    ∃ d, (finite n c e).negated? = some d ∧ d.HasValue (-signed n (magnitude c e)) :=
  negates_iff.mpr h.holdable

end Decimal

end LedgerRules.Numeric
