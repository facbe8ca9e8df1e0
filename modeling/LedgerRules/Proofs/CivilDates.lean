import LedgerRules.Calendar.Timestamp
import LedgerRules.Proofs.Numerals
import LedgerRules.Proofs.Typing

/-! Dates by year, month and day, and the texts that they are written as. Every day of the calendar
lies in its month, and what is written for a moment in universal time is read back as that moment. -/

namespace LedgerRules.Calendar
open Numeric Text

namespace Date

theorem daysBeforeYear_add_one (p : Nat) :
    daysBeforeYear (p + 1) = 365 * p + p / 4 - p / 100 + p / 400 := rfl

theorem yearOf_spec {n : Nat} (h : 1 ≤ n) :
    1 ≤ yearOf n ∧ daysBeforeYear (yearOf n) < n ∧ n ≤ daysBeforeYear (yearOf n + 1) := by
  obtain ⟨N, rfl⟩ : ∃ N, n = N + 1 := ⟨n - 1, by omega⟩
  unfold yearOf
  dsimp only
  rw [Nat.add_sub_cancel]
  generalize hp : N * 400 / 146097 = p
  split
  next hlate =>
    rw [daysBeforeYear_add_one] at hlate ⊢
    rw [daysBeforeYear_add_one]
    omega
  next hlate =>
    split
    next hearly =>
      rw [daysBeforeYear_add_one] at hearly
      cases p with
      | zero => omega
      | succ p =>
        rw [Nat.add_sub_cancel, daysBeforeYear_add_one, daysBeforeYear_add_one]
        omega
    next hearly => omega

theorem monthDay_spec {lengths : List Nat} (m : Nat) {n : Nat} (hn : 1 ≤ n)
    (h : n ≤ lengths.sum) :
    ∃ k < lengths.length, (monthDay lengths m n).1 = m + k ∧ 1 ≤ (monthDay lengths m n).2 ∧
      (monthDay lengths m n).2 ≤ lengths.getD k 0 ∧
      (lengths.take k).sum + (monthDay lengths m n).2 = n := by
  induction lengths generalizing m n with
  | nil => exact absurd h (by simp; omega)
  | cons length rest ih =>
    rw [List.sum_cons] at h
    unfold monthDay
    split
    next hle => exact ⟨0, by simp, rfl, hn, by simpa using hle, by simp⟩
    next hlt =>
      obtain ⟨k, hk, hm, hpos, hmost, hsum⟩ := ih (m + 1) (n := n - length) (by omega) (by omega)
      refine ⟨k + 1, by simpa using hk, by omega, hpos, by simpa using hmost, ?_⟩
      rw [List.take_succ_cons, List.sum_cons]
      omega

theorem sum_monthLengths (y : Nat) : (monthLengths y).sum = daysInYear y := by
  unfold monthLengths daysInYear
  split <;> rfl

theorem daysInMonth_le (y m : Nat) : daysInMonth y m ≤ 31 := by
  have hall : ∀ n ∈ monthLengths y, n ≤ 31 := by
    unfold monthLengths
    split <;> decide
  unfold daysInMonth
  split
  · omega
  · rw [List.getD_eq_getElem?_getD]
    cases h : (monthLengths y)[m - 1]? with
    | none => simp
    | some n => exact hall n (List.mem_of_getElem? h)

structure Civil (d : Date) : Prop where
  year_pos : 1 ≤ d.year
  year_le : d.year ≤ 9999
  month_pos : 1 ≤ d.month
  month_le : d.month ≤ 12
  day_pos : 1 ≤ d.day
  day_le : d.day ≤ daysInMonth d.year d.month
  ordinal : ordinalOf d.year d.month d.day = d.ordinal

theorem civil (d : Date) : d.Civil := by
  obtain ⟨hyear, hafter, hbefore⟩ := yearOf_spec d.positive
  have hlast : d.year ≤ 9999 := by
    have hbounded := d.bounded
    obtain ⟨p, hp⟩ : ∃ p, yearOf d.ordinal = p + 1 := ⟨_, (Nat.sub_add_cancel hyear).symm⟩
    rw [hp, daysBeforeYear_add_one] at hafter
    unfold lastOrdinal at hbounded
    unfold year
    omega
  rw [daysBeforeYear_succ _ hyear] at hbefore
  have hfirst : 1 ≤ d.dayOfYear := by unfold dayOfYear year; omega
  have hin : d.dayOfYear ≤ (monthLengths d.year).sum := by
    rw [sum_monthLengths]
    unfold dayOfYear year
    omega
  obtain ⟨k, hk, hmonth, hpos, hmost, hsum⟩ := monthDay_spec 1 hfirst hin
  have hmonth' : d.month = 1 + k := hmonth
  have hlengths : (monthLengths d.year).length = 12 := rfl
  refine ⟨hyear, hlast, by omega, by omega, hpos, ?_, ?_⟩
  · rw [daysInMonth, if_neg (by omega), hmonth', Nat.add_sub_cancel_left]
    exact hmost
  · rw [ordinalOf, daysBeforeMonth, hmonth', Nat.add_sub_cancel_left, ← List.sum_eq_foldl]
    have hday : (List.take k (monthLengths d.year)).sum + d.day = d.dayOfYear := hsum
    unfold dayOfYear at hday
    unfold year at hday ⊢
    omega

end Date

theorem padded_digits (width n : Nat) : ∀ c ∈ padded width n, c.isDigit = true := by
  rw [padded, padLeft, List.forall_mem_append]
  exact ⟨Condition.isDigit_zeros _, Condition.isDigit_digitsOf n⟩

theorem digitsValue_padded (width n : Nat) : digitsValue (padded width n) = n := by
  rw [padded, padLeft, Condition.digitsValue_zeros, Condition.digitsValue_digitsOf]

theorem length_padded {width n : Nat} (hwidth : 0 < width) (h : n < 10 ^ width) :
    (padded width n).length = width := by
  rw [padded, length_padLeft]
  rw [length_digitsOf]
  exact Nat.max_eq_left (digitCount_le hwidth h)

namespace Timestamp

theorem isDigit_eq : isDigit = Char.isDigit := isPlainDigit_eq

theorem twoDigits_cons {a b : Char} (ha : a.isDigit = true) (hb : b.isDigit = true)
    (rest : List Char) : twoDigits (a :: b :: rest) = some (digitsValue [a, b], rest) := by
  simp [twoDigits, isDigit_eq, ha, hb]

theorem twoDigits_padded {n : Nat} (h : n < 100) (rest : List Char) :
    twoDigits (padded 2 n ++ rest) = some (n, rest) := by
  have hd := padded_digits 2 n
  have hvalue := digitsValue_padded 2 n
  obtain ⟨a, b, htwo⟩ := List.length_eq_two.mp (length_padded (by decide) h)
  rw [htwo] at hd hvalue ⊢
  rw [← hvalue]
  exact twoDigits_cons (hd a (by simp)) (hd b (by simp)) rest

theorem readDate_toChars (d : Date) (rest : List Char) :
    readDate (d.toChars ++ rest) = some ((d.year, d.month, d.day), rest) := by
  have hcivil := d.civil
  have hmonth : d.month < 100 := lt_of_le_of_lt hcivil.month_le (by decide)
  have hday : d.day < 100 :=
    lt_of_le_of_lt (hcivil.day_le.trans (Date.daysInMonth_le _ _)) (by decide)
  have hlength : (padded 4 d.year).length = 4 :=
    length_padded (by decide) (lt_of_le_of_lt hcivil.year_le (by decide))
  have hd := padded_digits 4 d.year
  have hvalue := digitsValue_padded 4 d.year
  have hchars : d.toChars ++ rest = padded 4 d.year ++
      '-' :: (padded 2 d.month ++ '-' :: (padded 2 d.day ++ rest)) := by simp [Date.toChars]
  rw [hchars]
  generalize padded 4 d.year = year at *
  -- The year is read as two numbers of two digits.
  rcases year with _ | ⟨a, _ | ⟨b, _ | ⟨c, _ | ⟨e, _ | _⟩⟩⟩⟩ <;> simp at hlength
  have hyear : digitsValue [a, b] * 100 + digitsValue [c, e] = d.year := by
    rw [← hvalue]
    simp only [digitsValue_eq_foldl, List.foldl_cons, List.foldl_nil]
    ring
  have hcentury := twoDigits_cons (hd a (by simp)) (hd b (by simp))
    (c :: e :: '-' :: (padded 2 d.month ++ '-' :: (padded 2 d.day ++ rest)))
  have hyears := twoDigits_cons (hd c (by simp)) (hd e (by simp))
    ('-' :: (padded 2 d.month ++ '-' :: (padded 2 d.day ++ rest)))
  simp [readDate, hcentury, hyears, twoDigits_padded hmonth, twoDigits_padded hday, hyear,
    hcivil.day_pos, hcivil.day_le]

theorem readFraction_padded {n : Nat} (h : n < 1000000) {rest : List Char}
    (hrest : ∀ c ∈ rest.head?, c.isDigit = false) :
    readFraction (padded 6 n ++ rest) = some (n, rest) := by
  have hlength : (padded 6 n).length = 6 := length_padded (by decide) h
  have hcut := Condition.takeWhile_append (padded_digits 6 n) hrest
  have hne : padded 6 n ≠ [] := List.ne_nil_of_length_pos (by omega)
  have htake : (padded 6 n).take 6 = padded 6 n := List.take_of_length_le hlength.le
  unfold readFraction
  simp [isDigit_eq, hcut.1, hcut.2, hne, htake, hlength, digitsValue_padded]

theorem readSeconds_text {s n : Nat} (hs : s ≤ 59) (hn : n < 1000000) :
    readSeconds (':' :: (padded 2 s ++ ((if n = 0 then [] else '.' :: padded 6 n) ++ ['Z']))) =
      some (s * 1000000 + n, ['Z']) := by
  have htwo := twoDigits_padded (n := s) (by omega)
  have hfraction : readFraction (padded 6 n ++ ['Z']) = some (n, ['Z']) :=
    readFraction_padded hn (by simp)
  split
  next h => simp [readSeconds, htwo, hs, h]
  next => simp [readSeconds, htwo, hs, hfraction]

theorem readClock_clockText (t : Moment) :
    readClock (t.clockText ++ ['Z']) = some (t.micros, ['Z']) := by
  have hday : t.micros < 86400000000 := Nat.mod_lt _ (by decide)
  have hhour : t.hour ≤ 23 := by unfold Moment.hour; omega
  have hminute : t.minute ≤ 59 := by unfold Moment.minute; omega
  have hsecond : t.second ≤ 59 := by unfold Moment.second; omega
  have hmicro : t.microsecond < 1000000 := Nat.mod_lt _ (by decide)
  have hseconds := readSeconds_text hsecond hmicro
  have hchars : t.clockText ++ ['Z'] = padded 2 t.hour ++ ':' :: (padded 2 t.minute ++
      ':' :: (padded 2 t.second ++
        ((if t.microsecond = 0 then [] else '.' :: padded 6 t.microsecond) ++ ['Z']))) := by
    simp [Moment.clockText]
  have hsum : (t.hour * 60 + t.minute) * 60000000 + (t.second * 1000000 + t.microsecond) =
      t.micros := by
    unfold Moment.hour Moment.minute Moment.second Moment.microsecond
    omega
  rw [hchars]
  simp [readClock, twoDigits_padded (n := t.hour) (by omega),
    twoDigits_padded (n := t.minute) (by omega), hseconds, hhour, hminute, hsum]

theorem ofTicks?_ticks {t : Moment} (h : t.offset = some 0) :
    Moment.ofTicks? t.ticks (some 0) = some t := by
  simpa [Moment.toUtc?, h] using Moment.toUtc?_of_offset h

theorem date_micros (t : Moment) : (t.date.ordinal - 1) * dayMicros + t.micros = t.ticks := by
  rw [Moment.date, Nat.add_sub_cancel, Moment.micros, Nat.mul_comm]
  exact Nat.div_add_mod _ _

theorem assemble_civil {t : Moment} (h : t.offset = some 0) :
    assemble (t.date.year, t.date.month, t.date.day) t.micros (some 0) = .ok t := by
  have hcivil := t.date.civil
  have hyear : t.date.year ≠ 0 := Nat.ne_of_gt hcivil.year_pos
  simp only [assemble, hyear, if_false, hcivil.ordinal, date_micros, ofTicks?_ticks h]

theorem read_text {t : Moment} (h : t.offset = some 0) :
    read (String.ofList (t.date.toChars ++ ['T'] ++ t.clockText ++ ['Z'])) = .ok t := by
  have hchars : t.date.toChars ++ ['T'] ++ t.clockText ++ ['Z'] =
      t.date.toChars ++ 'T' :: (t.clockText ++ ['Z']) := by simp
  have htext : readText (t.date.toChars ++ ['T'] ++ t.clockText ++ ['Z']) =
      some ((t.date.year, t.date.month, t.date.day), t.micros, some 0) := by
    rw [hchars, readText, readDate_toChars]
    simp [isSeparator, readClock_clockText, readZone]
  rw [read, String.toList_ofList, htext]
  exact assemble_civil h

end Timestamp

end LedgerRules.Calendar
