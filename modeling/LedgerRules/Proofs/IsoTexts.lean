import LedgerRules.Proofs.DayCount

/-! Moments written as ISO 8601 text and read again. A day, a clock and a distance from universal
time are all written digit by digit in fields of a fixed width, which are read one after the other.
All of it comes back but a distance of less than a second, which is read as none. -/

namespace LedgerRules.Calendar
open Text

namespace IsoText

theorem isDigit_eq : isDigit = Char.isDigit := Numeric.isPlainDigit_eq

theorem takeDigits_padded {width n : Nat} (hwidth : 0 < width) (h : n < 10 ^ width)
    (rest : List Char) : takeDigits width (padded width n ++ rest) = some (n, rest) := by
  have hlength := length_padded hwidth h
  have hdigits : (padded width n).all isDigit = true := by
    rw [isDigit_eq, List.all_eq_true]
    exact padded_digits width n
  simp [takeDigits, List.take_left' hlength, List.drop_left' hlength, hlength, hdigits,
    digitsValue_padded]

theorem padded_ne_nil {width n : Nat} (hwidth : 0 < width) (h : n < 10 ^ width) :
    padded width n ≠ [] :=
  List.ne_nil_of_length_pos (by rwa [length_padded hwidth h])

section Characters
variable {P : Char → Prop} (hdigit : ∀ c, c.isDigit = true → P c)
include hdigit

theorem padded_forall (width n : Nat) : ∀ c ∈ padded width n, P c := fun c hc =>
  hdigit c (padded_digits width n c hc)

theorem fraction_forall (hpoint : P '.') (n : Nat) :
    ∀ c ∈ (if n = 0 then [] else '.' :: padded 6 n), P c := by
  split
  next => simp
  next => exact List.forall_mem_cons.mpr ⟨hpoint, padded_forall hdigit 6 n⟩

theorem clockText_forall (hcolon : P ':') (hpoint : P '.') (t : Moment) :
    ∀ c ∈ t.clockText, P c := by
  have hcolon : ∀ c ∈ [':'], P c := List.forall_mem_singleton.mpr hcolon
  have hfield := padded_forall hdigit
  simp only [Moment.clockText, List.forall_mem_append]
  exact ⟨⟨⟨⟨⟨hfield _ _, hcolon⟩, hfield _ _⟩, hcolon⟩, hfield _ _⟩,
    fraction_forall hdigit hpoint _⟩

end Characters

theorem civil_lt (d : Date) : d.year < 10 ^ 4 ∧ d.month < 10 ^ 2 ∧ d.day < 10 ^ 2 := by
  have hcivil := d.civil
  exact ⟨lt_of_le_of_lt hcivil.year_le (by decide), lt_of_le_of_lt hcivil.month_le (by decide),
    lt_of_le_of_lt (hcivil.day_le.trans (Date.daysInMonth_le _ _)) (by decide)⟩

theorem civil_length (d : Date) : (padded 4 d.year).length = 4 ∧ (padded 2 d.month).length = 2 ∧
    (padded 2 d.day).length = 2 := by
  obtain ⟨hyear, hmonth, hday⟩ := civil_lt d
  exact ⟨length_padded (by decide) hyear, length_padded (by decide) hmonth,
    length_padded (by decide) hday⟩

theorem readDate_toChars (d : Date) : readDate d.toChars = some (.civil d.year d.month d.day) := by
  obtain ⟨hyear, hmonth, hday⟩ := civil_lt d
  have hchars : d.toChars = padded 4 d.year ++
      '-' :: (padded 2 d.month ++ '-' :: (padded 2 d.day ++ [])) := by simp [Date.toChars]
  have hword : (padded 2 d.month ++ '-' :: (padded 2 d.day ++ [])).head? ≠ some 'W' := by
    intro hhead
    rw [List.head?_append_of_ne_nil _ (padded_ne_nil (by decide) hmonth)] at hhead
    exact absurd (padded_digits 2 d.month 'W' (List.mem_of_mem_head? hhead)) (by decide)
  rw [hchars]
  simp only [readDate, takeDigits_padded (by decide) hyear, Option.bind_eq_bind, Option.bind_some,
    List.head?_cons, decide_true, if_true, List.tail_cons, hword, if_false,
    takeDigits_padded (by decide) hmonth, takeDigits_padded (by decide) hday]
  simp

theorem check_civil (d : Date) : (DateFields.civil d.year d.month d.day).check = .ok d := by
  have hcivil := d.civil
  have hfound : Date.ofCivil? d.year d.month d.day = some d := by
    simp [Date.ofCivil?, hcivil.year_pos, hcivil.year_le, hcivil.month_pos, hcivil.month_le,
      hcivil.day_pos, hcivil.day_le, hcivil.ordinal, Date.ofOrdinal?, d.positive, d.bounded]
  simp [DateFields.check, hfound, Nat.not_lt.mpr hcivil.year_pos, Nat.not_lt.mpr hcivil.year_le,
    Nat.not_lt.mpr hcivil.month_pos, Nat.not_lt.mpr hcivil.month_le]

theorem length_toChars (d : Date) : d.toChars.length = 10 := by
  obtain ⟨hyear, hmonth, hday⟩ := civil_length d
  simp [Date.toChars, hyear, hmonth, hday]

theorem dateLength_toChars (d : Date) (rest : List Char) : dateLength (d.toChars ++ rest) = 10 := by
  obtain ⟨hlength, hlength', -⟩ := civil_length d
  have hdigits := padded_digits 2 d.month
  have hlong : (d.toChars ++ rest).length ≠ 7 := by
    rw [List.length_append, length_toChars]
    omega
  have hchars : d.toChars ++ rest =
      padded 4 d.year ++ '-' :: (padded 2 d.month ++ ('-' :: padded 2 d.day ++ rest)) := by
    simp [Date.toChars]
  rw [dateLength, if_neg hlong, hchars]
  generalize padded 4 d.year = year at *
  generalize padded 2 d.month = month at *
  rcases month with _ | ⟨a, _ | ⟨b, _ | _⟩⟩ <;> simp at hlength'
  have hword : a ≠ 'W' := by
    rintro rfl
    exact absurd (hdigits 'W' (by simp)) (by decide)
  rcases year with _ | ⟨e, _ | ⟨f, _ | ⟨g, _ | ⟨h, _ | _⟩⟩⟩⟩ <;> simp at hlength
  simp [hword]

def clockFields (n : Nat) : ClockFields :=
  ⟨n / 3600000000, n / 60000000 % 60, n / 1000000 % 60, n % 1000000⟩

theorem clockFields_total (n : Nat) : (clockFields n).total = n := by
  simp only [ClockFields.total, clockFields]
  omega

theorem clockFields_check {n : Nat} (h : n < dayMicros) : (clockFields n).check = .ok n := by
  unfold dayMicros at h
  have hhour : ¬23 < n / 3600000000 := by omega
  have hminute : ¬59 < n / 60000000 % 60 := by omega
  have hsecond : ¬59 < n / 1000000 % 60 := by omega
  rw [ClockFields.check, clockFields_total]
  simp only [clockFields, hhour, hminute, hsecond, if_false]

theorem readFraction_padded {n : Nat} (f : ClockFields) (h : n < 10 ^ 6) (follow : Char) :
    readFraction f (padded 6 n) follow =
      some ({ f with micros := n }, decide (follow ≠ '\x00')) := by
  have htake := takeDigits_padded (by decide) h []
  rw [List.append_nil] at htake
  rw [readFraction, length_padded (by decide) h, Nat.min_self, htake]
  simp only [Option.bind_eq_bind, Option.bind_some, Nat.sub_self]
  exact congrArg some (Prod.ext (by simp) rfl)

variable {follow : Char} {count index n : Nat} {colons : Bool} {f : ClockFields}

theorem readFields_last (h : n < 10 ^ 2) :
    readFields follow (count + 1) index colons f (padded 2 n) =
      some (f.set index n, decide (follow ≠ '\x00')) := by
  have htake := takeDigits_padded (by decide) h []
  rw [List.append_nil] at htake
  simp [readFields, htake]

theorem readFields_colon {more : List Char} (h : n < 10 ^ 2) (hmore : more ≠ [])
    (hcolons : index = 0 ∨ colons = true) :
    readFields follow (count + 1) index colons f (padded 2 n ++ ':' :: more) =
      readFields follow count (index + 1) true (f.set index n) more := by
  obtain ⟨c, cs, rfl⟩ := List.exists_cons_of_ne_nil hmore
  rcases hcolons with rfl | rfl <;> simp [readFields, takeDigits_padded (by decide) h]

theorem readFields_point {more : List Char} (h : n < 10 ^ 2) (hmore : more ≠ []) :
    readFields follow (count + 1) index colons f (padded 2 n ++ '.' :: more) =
      readFraction (f.set index n) more follow := by
  obtain ⟨c, cs, rfl⟩ := List.exists_cons_of_ne_nil hmore
  simp [readFields, takeDigits_padded (by decide) h]

inductive Rest (n : Nat) : List Char → Prop
  | none : n % 60000000 = 0 → Rest n []
  | seconds : Rest n (':' :: (padded 2 (n / 1000000 % 60) ++
      if n % 1000000 = 0 then [] else '.' :: padded 6 (n % 1000000)))

theorem readClock_fields {rest : List Char} (h : n < 360000000000) (hrest : Rest n rest)
    (follow : Char) :
    readClock (padded 2 (n / 3600000000) ++ ':' :: (padded 2 (n / 60000000 % 60) ++ rest)) follow =
      some (clockFields n, decide (follow ≠ '\x00')) := by
  have hhour : n / 3600000000 < 10 ^ 2 := by omega
  have hminute : n / 60000000 % 60 < 10 ^ 2 := by omega
  have hsecond : n / 1000000 % 60 < 10 ^ 2 := by omega
  have hmicro : n % 1000000 < 10 ^ 6 := Nat.mod_lt n (by decide)
  have htwo : padded 2 (n / 60000000 % 60) ≠ [] := padded_ne_nil (by decide) hminute
  have hfilled : padded 2 (n / 1000000 % 60) ≠ [] := padded_ne_nil (by decide) hsecond
  rw [readClock, readFields_colon hhour (by simp [htwo]) (.inl rfl)]
  cases hrest with
  | none hwhole =>
    have hsecond' : n / 1000000 % 60 = 0 := by omega
    have hmicro' : n % 1000000 = 0 := by omega
    rw [List.append_nil, readFields_last hminute, clockFields, hsecond', hmicro']
    rfl
  | seconds =>
    rw [readFields_colon hminute (by simp [hfilled]) (.inr rfl)]
    split
    next hzero =>
      rw [List.append_nil, readFields_last hsecond, clockFields, hzero]
      rfl
    next =>
      rw [readFields_point hsecond (padded_ne_nil (by decide) hmicro), readFraction_padded _ hmicro]
      rfl

theorem clockText_eq (t : Moment) : ∃ rest, Rest t.micros rest ∧ t.clockText =
    padded 2 (t.micros / 3600000000) ++ ':' :: (padded 2 (t.micros / 60000000 % 60) ++ rest) := by
  refine ⟨_, .seconds, ?_⟩
  simp [Moment.clockText, Moment.hour, Moment.minute, Moment.second, Moment.microsecond]
  rfl

theorem offsetText_eq (o : Int) : ∃ rest, Rest o.natAbs rest ∧ Moment.offsetText o =
    (if o < 0 then '-' else '+') ::
      (padded 2 (o.natAbs / 3600000000) ++
        ':' :: (padded 2 (o.natAbs / 60000000 % 60) ++ rest)) := by
  by_cases hwhole : o.natAbs / 1000000 % 60 = 0 ∧ o.natAbs % 1000000 = 0
  · refine ⟨[], .none (by omega), ?_⟩
    simp [Moment.offsetText, hwhole]
  · refine ⟨_, .seconds, ?_⟩
    simp [Moment.offsetText, hwhole]

theorem isZoneMark_of_isDigit {c : Char} (h : c.isDigit = true) : isZoneMark c = false := by
  simp only [isZoneMark, Bool.or_eq_false_iff, decide_eq_false_iff_not]
  refine ⟨⟨?_, ?_⟩, ?_⟩ <;> rintro rfl <;> exact absurd h (by decide)

theorem clockText_unmarked (t : Moment) : ∀ c ∈ t.clockText, isZoneMark c = false :=
  clockText_forall (fun _ => isZoneMark_of_isDigit) (by decide) (by decide) t

theorem readClock_clockText (t : Moment) (follow : Char) :
    readClock t.clockText follow = some (clockFields t.micros, decide (follow ≠ '\x00')) := by
  obtain ⟨rest, hrest, hchars⟩ := clockText_eq t
  have hday : t.micros < 86400000000 := Nat.mod_lt _ (by decide)
  rw [hchars, readClock_fields (by omega) hrest]

def readOffset (o : Int) : Int := if o.natAbs < 1000000 then 0 else o

theorem cut_clock (t : Moment) (zone : List Char) (hzone : ∀ c ∈ zone.head?, isZoneMark c = true) :
    (t.clockText ++ zone).takeWhile (!isZoneMark ·) = t.clockText ∧
      (t.clockText ++ zone).dropWhile (!isZoneMark ·) = zone :=
  Condition.takeWhile_append (by simpa using clockText_unmarked t) (by simpa using hzone)

theorem readTime_clock (t : Moment) : readTime t.clockText = some (clockFields t.micros, none) := by
  have hcut := cut_clock t [] (by simp)
  rw [List.append_nil] at hcut
  simp only [readTime, hcut.1, hcut.2, readClock_clockText]
  rfl

theorem readTime_zulu (t : Moment) :
    readTime (t.clockText ++ ['Z']) = some (clockFields t.micros, some 0) := by
  have hcut := cut_clock t ['Z'] (by simp [isZoneMark])
  simp only [readTime, hcut.1, hcut.2, readClock_clockText]
  rfl

theorem readTime_offset (t : Moment) {o : Int} (ho : o.natAbs < dayMicros) :
    readTime (t.clockText ++ Moment.offsetText o) =
      some (clockFields t.micros, some (readOffset o)) := by
  obtain ⟨rest, hrest, hchars⟩ := offsetText_eq o
  unfold dayMicros at ho
  have hclock := readClock_fields (by omega) hrest '\x00'
  have hzulu : (if o < 0 then '-' else '+') ≠ 'Z' := by split <;> decide
  have hminus : (if o < 0 then '-' else '+') = '-' ↔ o < 0 := by split <;> simp_all
  have hmark : isZoneMark (if o < 0 then '-' else '+') = true := by split <;> decide
  generalize (if o < 0 then '-' else '+') = mark at *
  have hcut := cut_clock t (Moment.offsetText o) (by simp [hchars, hmark])
  simp only [readTime, hcut.1, hcut.2]
  simp only [hchars, readClock_clockText, hclock, Option.bind_eq_bind, Option.bind_some, hzulu,
    if_false, ne_eq, not_true_eq_false, decide_false, clockFields, readOffset, hminus]
  congr 3
  split <;> split <;> omega

theorem natAbs_readOffset_le (o : Int) : (readOffset o).natAbs ≤ o.natAbs := by
  unfold readOffset
  split <;> simp

end IsoText

namespace Moment
open IsoText

def asRead (t : Moment) : Moment :=
  { t with
    offset := t.offset.map readOffset
    near := by
      intro o ho
      obtain ⟨o', ho', rfl⟩ := Option.mem_map.mp ho
      exact lt_of_le_of_lt (natAbs_readOffset_le o') (t.near o' ho') }

theorem ofTicks?_self (t : Moment) : ofTicks? t.ticks t.offset = some t := by
  obtain ⟨ticks, offset, hrange, hnear⟩ := t
  rw [ofTicks?, dif_pos ⟨Int.natCast_nonneg _, by simpa using hrange, hnear⟩]
  rfl

theorem ok_bind {ε α β : Type} (a : α) (f : α → Except ε β) : (Except.ok a >>= f) = f a := rfl

theorem assemble_eq {fields : DateFields} {clock : ClockFields} {d : Date} {n : Nat} {t : Moment}
    (hd : fields.check = .ok d) (hn : clock.check = .ok n)
    (ht : (d.ordinal - 1) * dayMicros + n = t.ticks) : assemble fields clock t.offset = .ok t := by
  have hself := t.ofTicks?_self
  rw [← ht] at hself
  cases hoffset : t.offset with
  | none =>
    rw [hoffset] at hself
    simp only [assemble, hd, hn]
    rw [ok_bind, ok_bind, hself]
    rfl
  | some o =>
    rw [hoffset] at hself
    simp only [assemble, hd, hn]
    rw [if_pos (t.near o hoffset), ok_bind, ok_bind, hself]
    rfl

theorem assemble_self (t : Moment) :
    assemble (.civil t.date.year t.date.month t.date.day) (clockFields t.micros) t.offset = .ok t :=
  assemble_eq (check_civil t.date) (clockFields_check (Nat.mod_lt _ (by decide)))
    (Timestamp.date_micros t)

theorem readMoment_time (d : Date) (separator : Char) {time : List Char} {clock : ClockFields}
    {offset : Option Int} (h : readTime time = some (clock, offset)) :
    readMoment (d.toChars ++ separator :: time) =
      assemble (.civil d.year d.month d.day) clock offset := by
  have hlength := length_toChars d
  have hlong : ¬(d.toChars ++ separator :: time).length < 7 := by
    rw [List.length_append, hlength]
    omega
  rw [readMoment, if_neg hlong]
  simp only [dateLength_toChars, List.take_left' hlength, List.drop_left' hlength,
    readDate_toChars, h]

theorem readMoment_toChars (separator : Char) (t : Moment) :
    readMoment (t.toChars separator) = .ok t.asRead := by
  have hchars : t.toChars separator =
      t.date.toChars ++ separator :: (t.clockText ++ t.zoneText) := by
    simp [toChars]
  have htime : readTime (t.clockText ++ t.zoneText) =
      some (clockFields t.micros, t.offset.map readOffset) := by
    unfold zoneText
    cases hoffset : t.offset with
    | none => simpa using readTime_clock t
    | some o => exact readTime_offset t (t.near o hoffset)
  rw [hchars, readMoment_time _ _ htime]
  exact assemble_self t.asRead

theorem readMoment_zulu (separator : Char) {t : Moment} (h : t.offset = some 0) :
    readMoment (t.date.toChars ++ separator :: (t.clockText ++ ['Z'])) = .ok t := by
  rw [readMoment_time _ _ (readTime_zulu t), ← h]
  exact assemble_self t

theorem near_none : ∀ o ∈ (none : Option Int), o.natAbs < dayMicros := by simp

def naiveMidnight (d : Date) : Moment := { midnight d with offset := none, near := near_none }

theorem readMoment_day (d : Date) : readMoment d.toChars = .ok (naiveMidnight d) := by
  have hlength := length_toChars d
  have hdate := dateLength_toChars d []
  rw [List.append_nil] at hdate
  rw [readMoment, if_neg (by omega)]
  simp only [hdate, List.take_of_length_le hlength.le, List.drop_of_length_le hlength.le,
    readDate_toChars]
  exact assemble_eq (t := naiveMidnight d) (check_civil d) rfl (Nat.add_zero _)

end Moment

end LedgerRules.Calendar
