import Mathlib.Data.List.GetD
import Mathlib.Logic.Function.Iterate
import Mathlib.Tactic.IntervalCases
import LedgerRules.Proofs.CivilDates

/-! Days one after the other. The year, month and day of a date are read off its ordinal; here they
are those that are reached from the first day of the calendar by going on from day to day, which
takes no more than the length of each month. -/

namespace LedgerRules.Calendar

theorem daysInMonth_ge {m : Nat} (y : Nat) (hpos : 1 ≤ m) (hle : m ≤ 12) :
    28 ≤ daysInMonth y m := by
  rw [daysInMonth, if_neg (by omega), monthLengths]
  interval_cases m <;> simp
  split <;> decide

theorem daysBeforeMonth_succ {m : Nat} (y : Nat) (hpos : 1 ≤ m) (hle : m ≤ 12) :
    daysBeforeMonth y (m + 1) = daysBeforeMonth y m + daysInMonth y m := by
  obtain ⟨k, rfl⟩ : ∃ k, m = k + 1 := ⟨m - 1, by omega⟩
  have hk : k < (monthLengths y).length := by
    change k < 12
    omega
  simp only [daysBeforeMonth, daysInMonth, ← List.sum_eq_foldl, Nat.add_sub_cancel,
    Nat.add_one_ne_zero, if_false]
  rw [List.sum_take_succ _ _ hk, List.getD_eq_getElem _ _ hk]

theorem daysBeforeMonth_one (y : Nat) : daysBeforeMonth y 1 = 0 := rfl

theorem daysBeforeMonth_end (y : Nat) : daysBeforeMonth y 13 = daysInYear y := by
  unfold daysBeforeMonth
  rw [← List.sum_eq_foldl, ← Date.sum_monthLengths]
  rfl

theorem daysBeforeMonth_le (y m : Nat) : daysBeforeMonth y m ≤ daysInYear y := by
  have hall := congrArg List.sum (List.take_append_drop (m - 1) (monthLengths y))
  rw [List.sum_append, Date.sum_monthLengths] at hall
  rw [daysBeforeMonth, ← List.sum_eq_foldl]
  omega

theorem daysBeforeYear_mono {y z : Nat} (hy : 1 ≤ y) (h : y ≤ z) :
    daysBeforeYear y ≤ daysBeforeYear z := by
  induction z, h using Nat.le_induction with
  | base => exact Nat.le_refl _
  | succ z hz ih =>
    rw [daysBeforeYear_succ z (hy.trans hz)]
    exact ih.trans (Nat.le_add_right _ _)

theorem yearOf_eq {y n : Nat} (hy : 1 ≤ y) (hafter : daysBeforeYear y < n)
    (hbefore : n ≤ daysBeforeYear (y + 1)) : Date.yearOf n = y := by
  obtain ⟨hpos, hlow, hhigh⟩ := Date.yearOf_spec (n := n) (by omega)
  rcases Nat.lt_trichotomy (Date.yearOf n) y with hlt | heq | hgt
  · have := daysBeforeYear_mono (y := Date.yearOf n + 1) (by omega) hlt
    omega
  · exact heq
  · have := daysBeforeYear_mono (y := y + 1) (by omega) hgt
    omega

structure CivilDay where
  year : Nat
  month : Nat
  day : Nat
deriving DecidableEq

namespace CivilDay

def first : CivilDay := ⟨1, 1, 1⟩

def next (c : CivilDay) : CivilDay :=
  if c.day < daysInMonth c.year c.month then ⟨c.year, c.month, c.day + 1⟩
  else if c.month < 12 then ⟨c.year, c.month + 1, 1⟩
  else ⟨c.year + 1, 1, 1⟩

def later (n : Nat) : CivilDay := next^[n] first

structure Valid (c : CivilDay) : Prop where
  year_pos : 1 ≤ c.year
  month_pos : 1 ≤ c.month
  month_le : c.month ≤ 12
  day_pos : 1 ≤ c.day
  day_le : c.day ≤ daysInMonth c.year c.month

def ordinal (c : CivilDay) : Nat := ordinalOf c.year c.month c.day

variable {c : CivilDay}

theorem valid_first : first.Valid := ⟨by decide, by decide, by decide, by decide, by decide⟩

theorem ordinal_first : first.ordinal = 1 := by decide

theorem Valid.next (h : c.Valid) : c.next.Valid := by
  unfold CivilDay.next
  split
  next hday => exact ⟨h.year_pos, h.month_pos, h.month_le, by simp, hday⟩
  next =>
    split
    next hmonth =>
      have hlength := daysInMonth_ge c.year (m := c.month + 1) (by simp) hmonth
      exact ⟨h.year_pos, by simp, hmonth, Nat.le_refl 1, le_trans (by simp) hlength⟩
    next =>
      have hlength := daysInMonth_ge (c.year + 1) (m := 1) (by simp) (by decide)
      exact ⟨by simp, Nat.le_refl 1, by simp, Nat.le_refl 1, le_trans (by simp) hlength⟩

theorem Valid.ordinal_next (h : c.Valid) : c.next.ordinal = c.ordinal + 1 := by
  have hlast := daysBeforeMonth_succ c.year h.month_pos h.month_le
  have hday := h.day_le
  unfold CivilDay.next
  split
  next => rfl
  next hend =>
    split
    next => simp only [ordinal, ordinalOf]; omega
    next hmonth =>
      obtain hdecember : c.month = 12 := le_antisymm h.month_le (Nat.le_of_not_lt hmonth)
      rw [hdecember, daysBeforeMonth_end] at hlast
      simp only [ordinal, ordinalOf, daysBeforeYear_succ _ h.year_pos, daysBeforeMonth_one]
      rw [hdecember] at hend hday ⊢
      omega

theorem Valid.dayOfYear_le (h : c.Valid) :
    daysBeforeMonth c.year c.month + c.day ≤ daysInYear c.year := by
  have hlast := daysBeforeMonth_succ c.year h.month_pos h.month_le
  have hall := daysBeforeMonth_le c.year (c.month + 1)
  have hday := h.day_le
  omega

theorem Valid.yearOf_ordinal (h : c.Valid) : Date.yearOf c.ordinal = c.year := by
  have hday := h.day_pos
  have hyear := h.dayOfYear_le
  refine yearOf_eq h.year_pos ?_ ?_
  · unfold ordinal ordinalOf
    omega
  · rw [daysBeforeYear_succ _ h.year_pos]
    unfold ordinal ordinalOf
    omega

end CivilDay

namespace Date

theorem monthDay_eq {lengths : List Nat} {k n : Nat} (m : Nat) (hk : k < lengths.length)
    (hpos : 1 ≤ n) (hle : n ≤ lengths.getD k 0) :
    monthDay lengths m ((lengths.take k).sum + n) = (m + k, n) := by
  induction lengths generalizing m k with
  | nil => exact absurd hk (by simp)
  | cons length rest ih =>
    cases k with
    | zero =>
      have hle' : n ≤ length := by simpa using hle
      simp [monthDay, hle']
    | succ k =>
      have hrest := ih (m + 1) (k := k) (by simpa using hk) (by simpa using hle)
      rw [List.take_succ_cons, List.sum_cons, monthDay, if_neg (by omega)]
      rw [show length + (rest.take k).sum + n - length = (rest.take k).sum + n by omega, hrest]
      exact Prod.ext (by simp only; omega) rfl

def civilDay (d : Date) : CivilDay := ⟨d.year, d.month, d.day⟩

theorem civilDay_valid (d : Date) : d.civilDay.Valid :=
  ⟨d.civil.year_pos, d.civil.month_pos, d.civil.month_le, d.civil.day_pos, d.civil.day_le⟩

theorem ordinal_civilDay (d : Date) : d.civilDay.ordinal = d.ordinal := d.civil.ordinal

theorem civilDay_eq {d : Date} {c : CivilDay} (hc : c.Valid) (h : c.ordinal = d.ordinal) :
    d.civilDay = c := by
  have hyear : d.year = c.year := by rw [year, ← h, hc.yearOf_ordinal]
  have hday : d.dayOfYear = ((monthLengths c.year).take (c.month - 1)).sum + c.day := by
    rw [dayOfYear, hyear, ← h, CivilDay.ordinal, ordinalOf, daysBeforeMonth, ← List.sum_eq_foldl]
    omega
  have hlength : c.month - 1 < (monthLengths c.year).length := by
    have := hc.month_le
    have := hc.month_pos
    change c.month - 1 < 12
    omega
  have hle : c.day ≤ (monthLengths c.year).getD (c.month - 1) 0 := by
    have := hc.day_le
    rwa [daysInMonth, if_neg (by have := hc.month_pos; omega)] at this
  have hmonthDay := monthDay_eq 1 hlength hc.day_pos hle
  rw [← hday, ← hyear, Nat.add_sub_cancel' hc.month_pos] at hmonthDay
  rw [civilDay, month, day, hmonthDay, hyear]

theorem civilDay_next {d e : Date} (h : e.ordinal = d.ordinal + 1) :
    e.civilDay = d.civilDay.next := by
  refine civilDay_eq d.civilDay_valid.next ?_
  rw [d.civilDay_valid.ordinal_next, ordinal_civilDay, h]

theorem civilDay_later (d : Date) : d.civilDay = CivilDay.later (d.ordinal - 1) := by
  obtain ⟨n, hpos, hbounded⟩ := d
  induction n, hpos using Nat.le_induction with
  | base => exact civilDay_eq CivilDay.valid_first CivilDay.ordinal_first
  | succ n hn ih =>
    have hbefore : n ≤ lastOrdinal := (Nat.le_succ n).trans hbounded
    obtain ⟨k, rfl⟩ : ∃ k, n = k + 1 := ⟨n - 1, by omega⟩
    calc civilDay ⟨k + 1 + 1, by omega, hbounded⟩
        = (civilDay ⟨k + 1, hn, hbefore⟩).next := civilDay_next rfl
      _ = (CivilDay.later k).next := by rw [ih hbefore, Nat.add_sub_cancel]
      _ = CivilDay.later (k + 1) := (Function.iterate_succ_apply' _ _ _).symm

end Date

end LedgerRules.Calendar
