import LedgerRules.Condition.Dates
import LedgerRules.Proofs.DayCount

/-! Weeks run from Monday to Sunday. They are numbered within the year that holds their Thursday,
and the week with January the fourth is the first of its year. The number is found from the day of
the year of the Thursday, which always lies within the calendar. -/

namespace LedgerRules.Calendar.Date
variable {d e t : Date}

def monday (d : Date) : Nat := d.ordinal - (d.isoWeekday - 1)

/-- The week of a day is the one with this number of this year: its Thursday falls into the year,
and it begins so many weeks after the week with January the fourth. -/
structure IsWeek (d : Date) (year week : Nat) : Prop where
  thursday : ∃ t : Date, t.monday = d.monday ∧ t.isoWeekday = 4 ∧ t.year = year
  counted : ∃ f : Date, f.civilDay = ⟨year, 1, 4⟩ ∧ d.monday + 7 = f.monday + 7 * week

theorem ordinal_ext (h : d.ordinal = e.ordinal) : d = e := by
  cases d
  cases e
  cases h
  rfl

theorem monday_eq (d : Date) : d.monday + (d.ordinal - 1) % 7 = d.ordinal := by
  have hpos := d.positive
  have hmod := Nat.mod_le (d.ordinal - 1) 7
  simp only [monday, isoWeekday]
  omega

theorem monday_mod (d : Date) : d.monday % 7 = 1 := by
  have hpos := d.positive
  have hmonday := d.monday_eq
  omega

theorem ordinal_thursday (h : t.monday = d.monday) (ht : t.isoWeekday = 4) :
    t.ordinal = d.monday + 3 := by
  have hmonday := t.monday_eq
  rw [isoWeekday] at ht
  omega

theorem exists_thursday (d : Date) :
    ∃ t : Date, d.thursday? = some t ∧ t.monday = d.monday ∧ t.isoWeekday = 4 := by
  obtain ⟨t, ht⟩ := d.thursday?_isSome
  have hordinal : d.ordinal + 4 - d.isoWeekday = t.ordinal := by
    unfold thursday? ofOrdinal? at ht
    split at ht
    next => exact congrArg ordinal (Option.some.inj ht)
    next => exact nomatch ht
  have hmonday := d.monday_eq
  have hmod := d.monday_mod
  have hmonday' := t.monday_eq
  simp only [isoWeekday] at hordinal ⊢
  exact ⟨t, ht, by omega, by omega⟩

theorem dayOfYear_spec (d : Date) :
    d.ordinal = daysBeforeYear d.year + d.dayOfYear ∧ 1 ≤ d.dayOfYear ∧
      d.dayOfYear ≤ daysInYear d.year := by
  obtain ⟨hyear, hafter, hbefore⟩ := yearOf_spec d.positive
  rw [daysBeforeYear_succ _ hyear] at hbefore
  unfold dayOfYear year
  omega

theorem exists_fourth {y : Nat} (hpos : 1 ≤ y) (hle : y ≤ 9999) :
    ∃ f : Date, f.civilDay = ⟨y, 1, 4⟩ := by
  have hyear := daysBeforeYear_mono hpos hle
  have hlast : daysBeforeYear 9999 + 4 ≤ lastOrdinal := by decide
  have hmonth := daysInMonth_ge y (m := 1) (by decide) (by decide)
  refine ⟨⟨daysBeforeYear y + 4, by omega, by omega⟩, civilDay_eq (c := ⟨y, 1, 4⟩) ?_ rfl⟩
  exact ⟨hpos, by simp, by simp, by simp, le_trans (by simp) hmonth⟩

theorem ordinal_fourth {y : Nat} (h : d.civilDay = ⟨y, 1, 4⟩) :
    d.ordinal = daysBeforeYear y + 4 := by
  rw [← d.ordinal_civilDay, h]
  rfl

theorem isWeek_iff (ht : t.monday = d.monday) (hday : t.isoWeekday = 4) (y w : Nat) :
    d.IsWeek y w ↔ y = t.year ∧ w = (t.dayOfYear - 1) / 7 + 1 := by
  have hthursday := ordinal_thursday ht hday
  have hmod := d.monday_mod
  obtain ⟨hordinal, hfirst, -⟩ := t.dayOfYear_spec
  constructor
  · intro ⟨⟨u, hu, huday, huyear⟩, f, hf, hcount⟩
    obtain rfl : u = t := ordinal_ext ((ordinal_thursday hu huday).trans hthursday.symm)
    subst huyear
    have hfordinal := ordinal_fourth hf
    have hfmonday := f.monday_eq
    exact ⟨rfl, by omega⟩
  · rintro ⟨rfl, rfl⟩
    obtain ⟨f, hf⟩ := exists_fourth t.civil.year_pos t.civil.year_le
    have hfordinal := ordinal_fourth hf
    have hfmonday := f.monday_eq
    exact ⟨⟨t, ht, hday, rfl⟩, f, hf, by omega⟩

theorem weekNumber?_eq (ht : t.monday = d.monday) (hday : t.isoWeekday = 4) :
    d.weekNumber? = some ((t.dayOfYear - 1) / 7 + 1) := by
  obtain ⟨u, hu, humonday, huday⟩ := d.exists_thursday
  obtain rfl : u = t :=
    ordinal_ext ((ordinal_thursday humonday huday).trans (ordinal_thursday ht hday).symm)
  rw [weekNumber?, hu]
  rfl

theorem week_bounds (t : Date) :
    1 ≤ (t.dayOfYear - 1) / 7 + 1 ∧ (t.dayOfYear - 1) / 7 + 1 ≤ 53 := by
  obtain ⟨-, -, hlast⟩ := t.dayOfYear_spec
  have hyear : daysInYear t.year ≤ 366 := by
    unfold daysInYear
    split <;> decide
  omega

theorem week_later {u : Date} (h : u.ordinal = t.ordinal + 7) :
    (u.dayOfYear - 1) / 7 + 1 = (t.dayOfYear - 1) / 7 + 1 + 1 ∨ (u.dayOfYear - 1) / 7 + 1 = 1 := by
  have hpos := t.civil.year_pos
  obtain ⟨ht, hfirst, hlast⟩ := t.dayOfYear_spec
  have hnext := daysBeforeYear_succ t.year hpos
  have hmore := daysBeforeYear_succ (t.year + 1) (by omega)
  have hlength : 365 ≤ daysInYear (t.year + 1) := by
    unfold daysInYear
    split <;> decide
  rcases Nat.lt_or_ge (daysBeforeYear (t.year + 1)) u.ordinal with hover | hwithin
  · right
    have hyear : u.year = t.year + 1 := yearOf_eq (by omega) hover (by omega)
    rw [dayOfYear, hyear]
    omega
  · left
    have hyear : u.year = t.year := yearOf_eq hpos (by omega) hwithin
    rw [dayOfYear, hyear]
    omega

end LedgerRules.Calendar.Date

namespace LedgerRules
open Calendar

/-- The day in universal time that a value means. -/
def Value.FallsOn (v : Value) (d : Date) : Prop := ∃ t, v.toUtc = .ok t ∧ t.date = d

theorem Value.date_fallsOn (d : Date) : (Value.date d).FallsOn d := by
  refine ⟨.midnight d, rfl, Date.ordinal_ext ?_⟩
  have hpos := d.positive
  simp only [Moment.date, Moment.midnight]
  rw [Nat.mul_div_cancel _ (by decide)]
  omega

theorem DatePart.eval_of_fallsOn {v : Value} {d : Date} (p : DatePart) (h : v.FallsOn d) :
    p.eval v = p.ofDate d := by
  obtain ⟨t, ht, rfl⟩ := h
  exact p.eval_of_toUtc ht

/-- Every day of the calendar has a week, whose number is answered for whatever falls on a day of
it, and the week after it has the next number or is the first of a year. -/
theorem week_number_iso (d : Date) :
    (Value.date d).FallsOn d ∧ ∃ year week,
      (∀ y w, d.IsWeek y w ↔ y = year ∧ w = week) ∧ 1 ≤ week ∧ week ≤ 53 ∧
      (∀ v e, Value.FallsOn v e → e.monday = d.monday →
        DatePart.weekNumber.eval v = .ok (.int week)) ∧
      ∀ v e, Value.FallsOn v e → e.monday = d.monday + 7 →
        DatePart.weekNumber.eval v = .ok (.int (week + 1)) ∨
          DatePart.weekNumber.eval v = .ok (.int 1) := by
  obtain ⟨t, -, ht, hday⟩ := d.exists_thursday
  refine ⟨Value.date_fallsOn d, t.year, (t.dayOfYear - 1) / 7 + 1, Date.isWeek_iff ht hday,
    t.week_bounds.1, t.week_bounds.2, ?_, ?_⟩
  · intro v e hv he
    rw [DatePart.eval_of_fallsOn _ hv, DatePart.ofDate, Date.weekNumber?_eq (ht.trans he.symm) hday]
  · intro v e hv he
    obtain ⟨u, -, hu, huday⟩ := e.exists_thursday
    have hlater : u.ordinal = t.ordinal + 7 := by
      rw [Date.ordinal_thursday hu huday, Date.ordinal_thursday ht hday, he, Nat.add_right_comm]
    rw [DatePart.eval_of_fallsOn _ hv, DatePart.ofDate, Date.weekNumber?_eq hu huday]
    rcases Date.week_later hlater with hnext | hfirst
    · exact .inl (by rw [hnext]; rfl)
    · exact .inr (by rw [hfirst]; rfl)

example : DatePart.weekNumber.eval (.date ⟨737791, by decide, by decide⟩) = .ok (.int 53) := rfl

end LedgerRules
