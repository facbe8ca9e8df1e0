import LedgerRules.Text.Digit

/-! Rounding of quotients of natural numbers, and the count of decimal digits. A quotient halfway
between two numbers goes to the even one. -/

namespace LedgerRules.Numeric

def divHalfEven (num den : Nat) : Nat :=
  let q := num / den
  let r := num % den
  if 2 * r < den then q else if den < 2 * r then q + 1 else q + q % 2

theorem divHalfEven_mul (n den : Nat) (h : 0 < den) : divHalfEven (n * den) den = n := by
  simp [divHalfEven, Nat.mul_div_cancel _ h, h]

theorem le_divHalfEven {num den n : Nat} (h : n ≤ num / den) : n ≤ divHalfEven num den := by
  unfold divHalfEven
  dsimp only
  split
  · exact h
  · split <;> omega

theorem divHalfEven_le {num den n : Nat} (h : num / den < n) : divHalfEven num den ≤ n := by
  unfold divHalfEven
  dsimp only
  split
  · omega
  · split <;> omega

/-- `n / base ^ k` and `k`, for the largest `k` whose power is not above `n`. The powers are found by
squaring, so that a long number is divided few times. -/
def leadingDigit (n : Nat) : (fuel base : Nat) → Nat × Nat
  | 0, _ => (n, 0)
  | fuel + 1, base =>
    if n < base then (n, 0)
    else
      let (q, k) := leadingDigit n fuel (base * base)
      if q < base then (q, 2 * k) else (q / base, 2 * k + 1)

def digitCount (n : Nat) : Nat := (leadingDigit n n 10).2 + 1

def scaleUp (n k : Nat) : Nat := n * Nat.pow 10 k

end LedgerRules.Numeric
