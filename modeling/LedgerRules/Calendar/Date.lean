/-! Days of the Gregorian calendar from year 1 to year 9999, counted by their ordinal: the first of
January of year 1, a Monday, has ordinal 1. Year, month and day of the month are read off it. -/

namespace LedgerRules.Calendar

def isLeap (y : Nat) : Bool := y % 4 == 0 && (y % 100 != 0 || y % 400 == 0)

def daysBeforeYear (y : Nat) : Nat :=
  let p := y - 1
  365 * p + p / 4 - p / 100 + p / 400

def daysInYear (y : Nat) : Nat := if isLeap y then 366 else 365

theorem succ_div_step (n k : Nat) (h : 0 < k) :
    (n + 1) / k = n / k + if (n + 1) % k = 0 then 1 else 0 := by
  have h₁ := Nat.div_add_mod n k
  have h₂ := Nat.div_add_mod (n + 1) k
  have h₃ := Nat.mod_lt n h
  have h₄ := Nat.mod_lt (n + 1) h
  have h₅ : n / k ≤ (n + 1) / k := Nat.div_le_div_right (by omega)
  have h₆ : (n + 1) / k ≤ n / k + 1 := by
    rw [← Nat.add_div_right n h]
    exact Nat.div_le_div_right (by omega)
  rcases Nat.lt_or_ge (n / k) ((n + 1) / k) with hlt | hge
  · have hq : (n + 1) / k = n / k + 1 := by omega
    rw [hq, Nat.mul_add] at h₂
    rw [hq, if_pos (by omega)]
  · have hq : (n + 1) / k = n / k := by omega
    rw [hq] at h₂
    rw [hq, if_neg (by omega), Nat.add_zero]

theorem daysBeforeYear_succ (y : Nat) (h : 1 ≤ y) :
    daysBeforeYear (y + 1) = daysBeforeYear y + daysInYear y := by
  obtain ⟨p, rfl⟩ : ∃ p, y = p + 1 := ⟨y - 1, by omega⟩
  have h₁ : (p + 1) % 100 = 0 → (p + 1) % 4 = 0 := by omega
  have h₂ : (p + 1) % 400 = 0 → (p + 1) % 100 = 0 := by omega
  have h₃ : p / 100 ≤ p / 4 := Nat.div_le_div_left (by decide) (by decide)
  simp only [daysBeforeYear, daysInYear, isLeap, Nat.add_sub_cancel]
  rw [succ_div_step p 4 (by decide), succ_div_step p 100 (by decide),
    succ_div_step p 400 (by decide)]
  generalize p / 4 = a at *
  generalize p / 100 = b at *
  by_cases c₁ : (p + 1) % 4 = 0 <;> by_cases c₂ : (p + 1) % 100 = 0 <;>
    by_cases c₃ : (p + 1) % 400 = 0 <;> simp_all <;> omega

def monthLengths (y : Nat) : List Nat :=
  [31, if isLeap y then 29 else 28, 31, 30, 31, 30, 31, 31, 30, 31, 30, 31]

def daysInMonth (y m : Nat) : Nat :=
  if m = 0 then 0 else (monthLengths y).getD (m - 1) 0

def daysBeforeMonth (y m : Nat) : Nat := ((monthLengths y).take (m - 1)).foldl (· + ·) 0

def ordinalOf (y m d : Nat) : Nat := daysBeforeYear y + daysBeforeMonth y m + d

def lastOrdinal : Nat := 3652059

structure Date where
  ordinal : Nat
  positive : 1 ≤ ordinal
  bounded : ordinal ≤ lastOrdinal
deriving DecidableEq

namespace Date

def ofOrdinal? (n : Nat) : Option Date :=
  if h : 1 ≤ n ∧ n ≤ lastOrdinal then some ⟨n, h.1, h.2⟩ else none

def first : Date := ⟨1, by decide, by decide⟩

def yearOf (ordinal : Nat) : Nat :=
  let guess := (ordinal - 1) * 400 / 146097 + 1
  if daysBeforeYear (guess + 1) < ordinal then guess + 1
  else if ordinal ≤ daysBeforeYear guess then guess - 1
  else guess

def year (d : Date) : Nat := yearOf d.ordinal

def dayOfYear (d : Date) : Nat := d.ordinal - daysBeforeYear d.year

def monthDay : (lengths : List Nat) → (m n : Nat) → Nat × Nat
  | [], m, n => (m, n)
  | length :: rest, m, n => if n ≤ length then (m, n) else monthDay rest (m + 1) (n - length)

def month (d : Date) : Nat := (monthDay (monthLengths d.year) 1 d.dayOfYear).1

def day (d : Date) : Nat := (monthDay (monthLengths d.year) 1 d.dayOfYear).2

def isoWeekday (d : Date) : Nat := (d.ordinal - 1) % 7 + 1

def weekday (d : Date) : Nat := d.ordinal % 7

def ofCivil? (y m d : Nat) : Option Date :=
  if 1 ≤ y && y ≤ 9999 && 1 ≤ m && m ≤ 12 && 1 ≤ d && d ≤ daysInMonth y m then
    ofOrdinal? (ordinalOf y m d)
  else none

def thursday? (d : Date) : Option Date := ofOrdinal? (d.ordinal + 4 - d.isoWeekday)

/-- Weeks are counted from the first of January of the year of the Thursday. -/
def weekNumber? (d : Date) : Option Nat :=
  d.thursday?.map fun t => (t.dayOfYear - 1) / 7 + 1

def firstMonday (y : Nat) : Int :=
  let fourth : Int := (if y = 0 then -366 else (daysBeforeYear y : Int)) + 4
  fourth - (fourth - 1).fmod 7

def weeksInYear (y : Nat) : Nat :=
  let first := daysBeforeYear y % 7
  if first = 3 || (first = 2 && isLeap y) then 53 else 52

end Date

end LedgerRules.Calendar
