import LedgerRules.Proofs.IsoTexts
import LedgerRules.Proofs.Weeks

/-! Instants and the values that mean them. One instant is shown by clocks at any distance from
universal time, by their texts with blanks around them, and a midnight by its day. What conditions
read off all of these hangs on the instant alone: it is its day in universal time, counted from the
first day of the calendar. -/

namespace LedgerRules
open Calendar Text

namespace Calendar

structure Margin where
  before : List Char
  after : List Char
  blank_before : ∀ c ∈ before, isBlank c = true
  blank_after : ∀ c ∈ after, isBlank c = true

def Margin.around (m : Margin) (cs : List Char) : Value :=
  .text (String.ofList (m.before ++ cs ++ m.after))

theorem Margin.toUtc_around (m : Margin) {cs : List Char} (hcs : ∀ c ∈ cs, isBlank c = false)
    {t : Moment} (h : IsoText.readMoment cs = .ok t) : (m.around cs).toUtc = t.utc := by
  have htrim : trim (m.before ++ cs ++ m.after) = cs :=
    (trim_padded m.blank_before m.blank_after cs).trans (Numeric.trim_eq_self hcs)
  simp only [Margin.around, Value.toUtc, String.toList_ofList, htrim, h]

theorem isBlank_of_isDigit {c : Char} (h : c.isDigit = true) : isBlank c = false :=
  Numeric.forall_digit (P := fun c => isBlank c = false) (by decide) h

theorem padded_unblank : ∀ width n, ∀ c ∈ padded width n, isBlank c = false :=
  IsoText.padded_forall fun _ => isBlank_of_isDigit

theorem Date.toChars_unblank (d : Date) : ∀ c ∈ d.toChars, isBlank c = false := by
  have hdash : ∀ c ∈ ['-'], isBlank c = false := List.forall_mem_singleton.mpr (by decide)
  simp only [toChars, List.forall_mem_append]
  exact ⟨⟨⟨⟨padded_unblank _ _, hdash⟩, padded_unblank _ _⟩, hdash⟩, padded_unblank _ _⟩

namespace Moment

theorem clockText_unblank (t : Moment) : ∀ c ∈ t.clockText, isBlank c = false :=
  IsoText.clockText_forall (fun _ => isBlank_of_isDigit) (by decide) (by decide) t

theorem offsetText_unblank (o : Int) : ∀ c ∈ offsetText o, isBlank c = false := by
  have hsign : ∀ c ∈ [if o < 0 then '-' else '+'], isBlank c = false :=
    List.forall_mem_singleton.mpr (by split <;> decide)
  have hcolon : ∀ c ∈ [':'], isBlank c = false := List.forall_mem_singleton.mpr (by decide)
  have hseconds : ∀ second micro : Nat,
      ∀ c ∈ (if second = 0 && micro = 0 then [] else ':' :: padded 2 second),
        isBlank c = false := by
    intro second micro
    split
    next => simp
    next => exact List.forall_mem_cons.mpr ⟨by decide, padded_unblank _ _⟩
  have hfraction := IsoText.fraction_forall (fun _ => isBlank_of_isDigit) (by decide)
  simp only [offsetText, List.forall_mem_append]
  exact ⟨⟨⟨⟨⟨hsign, padded_unblank _ _⟩, hcolon⟩, padded_unblank _ _⟩, hseconds _ _⟩, hfraction _⟩

theorem zoneText_unblank (t : Moment) : ∀ c ∈ t.zoneText, isBlank c = false := by
  unfold zoneText
  cases t.offset with
  | none => simp
  | some o => exact offsetText_unblank o

theorem toChars_unblank (t : Moment) : ∀ c ∈ t.toChars 'T', isBlank c = false := by
  simp only [toChars, List.forall_mem_append]
  exact ⟨⟨⟨t.date.toChars_unblank, List.forall_mem_singleton.mpr (by decide)⟩,
    t.clockText_unblank⟩, t.zoneText_unblank⟩

def atInstant (i : Int) : Except DateFault Moment :=
  match ofTicks? i (some 0) with
  | some t => .ok t
  | none => .error .outOfRange

theorem atInstant_ticks {t : Moment} (h : t.offset = some 0) : atInstant t.ticks = .ok t := by
  rw [atInstant, ← h, ofTicks?_self]

theorem atInstant_eq_ok {i : Int} {t : Moment} (h : atInstant i = .ok t) :
    t.ticks = i ∧ t.offset = some 0 := by
  unfold atInstant ofTicks? at h
  split at h
  next u hu =>
    obtain rfl := Except.ok.inj h
    split at hu
    next hrange =>
      obtain rfl := Option.some.inj hu
      exact ⟨Int.toNat_of_nonneg hrange.1, rfl⟩
    next => exact nomatch hu
  next => exact nomatch h

theorem atInstant_within {n : Nat} (h : n < lastOrdinal * dayMicros) :
    atInstant n = .ok ⟨n, some 0, h, near_zero⟩ :=
  atInstant_ticks (t := ⟨n, some 0, h, near_zero⟩) rfl

theorem atInstant_beyond {i : Int} (h : i < 0 ∨ (lastOrdinal * dayMicros : Nat) ≤ i) :
    atInstant i = .error .outOfRange := by
  have hrange : ¬(0 ≤ i ∧ i.toNat < lastOrdinal * dayMicros ∧
      ∀ o ∈ (some 0 : Option Int), o.natAbs < dayMicros) := by
    rintro ⟨hpos, hlt, -⟩
    generalize lastOrdinal * dayMicros = last at *
    omega
  rw [atInstant, ofTicks?, dif_neg hrange]

def instant (t : Moment) : Int := t.ticks - t.offset.getD 0

theorem utc_eq (t : Moment) : t.utc = atInstant t.instant := by
  unfold utc instant toUtc?
  cases t.offset with
  | some o => rfl
  | none =>
    rw [Option.getD_none, Int.sub_zero]
    exact (atInstant_ticks (t := { t with offset := some 0, near := near_zero }) rfl).symm

end Moment

/-- A way of giving an instant: a moment by some clock, the text of one, the text of one in
universal time marked by a `Z`, and for a midnight its day or the text of its day. -/
inductive Writing
  | moment (t : Moment)
  | text (m : Margin) (t : Moment)
  | zulu (m : Margin) (t : Moment) (h : t.offset = some 0)
  | day (d : Date)
  | dayText (m : Margin) (d : Date)

namespace Writing

def value : Writing → Value
  | moment t => .moment t
  | text m t => m.around (t.toChars 'T')
  | zulu m t _ => m.around (t.date.toChars ++ 'T' :: (t.clockText ++ ['Z']))
  | day d => .date d
  | dayText m d => m.around d.toChars

def instant : Writing → Int
  | moment t => t.instant
  | text _ t => t.instant
  | zulu _ t _ => t.ticks
  | day d => (Moment.midnight d).ticks
  | dayText _ d => (Moment.midnight d).ticks

/-- A text with a distance from universal time of less than a second, which is lost in reading. -/
def Blurred : Writing → Prop
  | text _ t => ∃ o, t.offset = some o ∧ o ≠ 0 ∧ o.natAbs < 1000000
  | _ => False

def understood : Writing → Int
  | text _ t => t.asRead.instant
  | w => w.instant

theorem understood_eq_iff (w : Writing) : w.understood = w.instant ↔ ¬w.Blurred := by
  cases w with
  | text m t =>
    simp only [understood, instant, Blurred, Moment.instant, Moment.asRead]
    cases t.offset with
    | none => simp
    | some o =>
      simp only [Option.map_some, Option.getD_some, Option.some.injEq, exists_eq_left',
        IsoText.readOffset]
      split <;> omega
  | _ => simp [understood, Blurred]

theorem toUtc_value (w : Writing) : w.value.toUtc = Moment.atInstant w.understood := by
  cases w with
  | moment t =>
    simp only [value, Value.toUtc, understood, instant]
    exact t.utc_eq
  | text m t =>
    simp only [value, understood]
    rw [m.toUtc_around t.toChars_unblank (t.readMoment_toChars 'T'), Moment.utc_eq]
  | zulu m t h =>
    have hunblank : ∀ c ∈ t.date.toChars ++ 'T' :: (t.clockText ++ ['Z']), isBlank c = false := by
      simp only [List.forall_mem_append, List.forall_mem_cons]
      exact ⟨t.date.toChars_unblank, by decide, t.clockText_unblank, by decide, by simp⟩
    simp only [value, understood, instant]
    rw [m.toUtc_around hunblank (Moment.readMoment_zulu 'T' h), Moment.utc_eq, Moment.instant, h,
      Option.getD_some, Int.sub_zero]
  | day d =>
    simp only [value, Value.toUtc, understood, instant]
    exact (Moment.atInstant_ticks rfl).symm
  | dayText m d =>
    simp only [value, understood, instant]
    rw [m.toUtc_around d.toChars_unblank (Moment.readMoment_day d), Moment.utc_eq, Moment.instant,
      Moment.naiveMidnight, Option.getD_none, Int.sub_zero]

end Writing

end Calendar

structure Value.ShowsDay (v : Value) (n : Nat) : Prop where
  year : DatePart.year.eval v = .ok (.int (CivilDay.later n).year)
  month : DatePart.month.eval v = .ok (.int (CivilDay.later n).month)
  day : DatePart.day.eval v = .ok (.int (CivilDay.later n).day)
  dayOfWeek : DatePart.dayOfWeek.eval v = .ok (.int ((n + 1) % 7 : Nat))
  isWeekend : DatePart.isWeekend.eval v = .ok (.bool ((n + 1) % 7 = 0 ∨ (n + 1) % 7 = 6))
  week : ∃ d : Date, d.ordinal = n + 1 ∧ ∃ y w, d.IsWeek y w ∧
    DatePart.weekNumber.eval v = .ok (.int w)

/-- A value is taken for an instant: within the calendar its moment in universal time is the one of
the instant and its day is read off, and beyond it everything is out of range. -/
structure Value.Means (v : Value) (i : Int) : Prop where
  within : ∀ ticks : Nat, i = ticks → ticks < lastOrdinal * dayMicros →
    (∃ u : Moment, v.toUtc = .ok u ∧ u.ticks = ticks ∧ u.offset = some 0) ∧
      v.ShowsDay (ticks / dayMicros)
  beyond : i < 0 ∨ (lastOrdinal * dayMicros : Nat) ≤ i →
    v.toUtc = .error .outOfRange ∧ ∀ p : DatePart, p.eval v = .error .outOfRange

namespace Value
variable {v v' : Value} {d : Date} {i : Int}

theorem FallsOn.showsDay (h : v.FallsOn d) : v.ShowsDay (d.ordinal - 1) := by
  have hordinal : d.ordinal - 1 + 1 = d.ordinal := Nat.sub_add_cancel d.positive
  have hcivil := d.civilDay_later
  obtain ⟨t, -, ht, hday⟩ := d.exists_thursday
  have hweek := (Date.isWeek_iff ht hday _ _).mpr ⟨rfl, rfl⟩
  refine ⟨?_, ?_, ?_, ?_, ?_, d, hordinal.symm, t.year, _, hweek, ?_⟩
  · rw [DatePart.eval_of_fallsOn _ h, ← hcivil]
    rfl
  · rw [DatePart.eval_of_fallsOn _ h, ← hcivil]
    rfl
  · rw [DatePart.eval_of_fallsOn _ h, ← hcivil]
    rfl
  · rw [DatePart.eval_of_fallsOn _ h, hordinal]
    rfl
  · rw [DatePart.eval_of_fallsOn _ h, hordinal, DatePart.ofDate, Date.weekday, Bool.decide_or]
  · rw [DatePart.eval_of_fallsOn _ h, DatePart.ofDate, Date.weekNumber?_eq ht hday]

theorem eval_congr (p : DatePart) (h : v.toUtc = v'.toUtc) : p.eval v = p.eval v' := by
  rw [DatePart.eval, DatePart.eval, h]

theorem means_iff : v.Means i ↔ v.toUtc = Moment.atInstant i := by
  constructor
  · intro h
    by_cases hrange : i < 0 ∨ (lastOrdinal * dayMicros : Nat) ≤ i
    · rw [(h.beyond hrange).1, Moment.atInstant_beyond hrange]
    · rw [not_or, Int.not_lt, Int.not_le] at hrange
      obtain ⟨n, rfl⟩ := Int.eq_ofNat_of_zero_le hrange.1
      obtain ⟨⟨u, hu, hticks, hoffset⟩, -⟩ := h.within n rfl (Int.ofNat_lt.mp hrange.2)
      rw [hu, ← hticks, Moment.atInstant_ticks hoffset]
  · intro h
    constructor
    · rintro n rfl hn
      rw [Moment.atInstant_within hn] at h
      refine ⟨⟨_, h, rfl, rfl⟩, ?_⟩
      exact FallsOn.showsDay (d := Moment.date ⟨n, some 0, hn, Moment.near_zero⟩) ⟨_, h, rfl⟩
    · intro hrange
      rw [Moment.atInstant_beyond hrange] at h
      exact ⟨h, fun p => by rw [DatePart.eval, h]⟩

theorem Means.dayOfWeek {k : Int} (h : v.Means i) (hk : DatePart.dayOfWeek.eval v = .ok (.int k)) :
    ∃ n : Nat, i = n ∧ k = ((n / dayMicros + 1) % 7 : Nat) := by
  by_cases hrange : i < 0 ∨ (lastOrdinal * dayMicros : Nat) ≤ i
  · rw [(h.beyond hrange).2] at hk
    exact nomatch hk
  · rw [not_or, Int.not_lt, Int.not_le] at hrange
    obtain ⟨n, rfl⟩ := Int.eq_ofNat_of_zero_le hrange.1
    have hday := (h.within n rfl (Int.ofNat_lt.mp hrange.2)).2.dayOfWeek
    rw [hday] at hk
    exact ⟨n, rfl, (Value.int.inj (Except.ok.inj hk)).symm⟩

end Value

namespace Calendar.Writing
variable {w w' : Writing}

theorem Blurred.within (h : w.Blurred) : ∃ u, Moment.atInstant w.understood = .ok u := by
  cases w with
  | text m t =>
    obtain ⟨o, ho, -, hsmall⟩ := h
    have hoffset : t.asRead.offset = some 0 := by
      simp [Moment.asRead, ho, IsoText.readOffset, hsmall]
    refine ⟨t.asRead, ?_⟩
    rw [understood, Moment.instant, hoffset, Option.getD_some, Int.sub_zero,
      Moment.atInstant_ticks hoffset]
  | _ => exact h.elim

theorem means_iff (w : Writing) : w.value.Means w.instant ↔ ¬w.Blurred := by
  rw [Value.means_iff, w.toUtc_value]
  constructor
  · intro h hb
    obtain ⟨u, hu⟩ := hb.within
    have hsame : w.understood = w.instant :=
      (Moment.atInstant_eq_ok hu).1.symm.trans (Moment.atInstant_eq_ok (h ▸ hu)).1
    exact w.understood_eq_iff.mp hsame hb
  · intro h
    rw [w.understood_eq_iff.mpr h]

/-- Every way of giving an instant, but a text that loses its distance, is understood as the
instant, so all of them agree; and a day later the day of the week is the next one. -/
theorem date_parts_by_instant (w : Writing) :
    (w.value.Means w.instant ↔ ¬w.Blurred) ∧
      ∀ w' : Writing, ¬w.Blurred → ¬w'.Blurred →
        (w'.instant = w.instant →
          w'.value.toUtc = w.value.toUtc ∧ ∀ p : DatePart, p.eval w'.value = p.eval w.value) ∧
        (w'.instant = w.instant + dayMicros →
          ∀ k k', DatePart.dayOfWeek.eval w.value = .ok (.int k) →
            DatePart.dayOfWeek.eval w'.value = .ok (.int k') → k' = (k + 1) % 7) := by
  refine ⟨w.means_iff, fun w' hw hw' => ⟨fun h => ?_, fun h k k' hk hk' => ?_⟩⟩
  · have hutc : w'.value.toUtc = w.value.toUtc := by
      rw [Value.means_iff.mp (w'.means_iff.mpr hw'), Value.means_iff.mp (w.means_iff.mpr hw), h]
    exact ⟨hutc, fun p => Value.eval_congr p hutc⟩
  · obtain ⟨n, hn, rfl⟩ := (w.means_iff.mpr hw).dayOfWeek hk
    obtain ⟨n', hn', rfl⟩ := (w'.means_iff.mpr hw').dayOfWeek hk'
    have hlater : n' = n + dayMicros := by omega
    rw [hlater, Nat.add_div_right _ (by decide)]
    omega

def lateSaturday : Moment :=
  ⟨739527 * dayMicros + 86399500000, some (-500000), by decide, by decide⟩

/-- The text of a moment on Sunday is read as one on Saturday. -/
theorem offset_lost :
    DatePart.day.eval (.moment lateSaturday) = .ok (.int 5) ∧
      DatePart.day.eval (.text "2025-10-04T23:59:59.500000-00:00:00.500000") = .ok (.int 4) ∧
      ∃ w : Writing, w.value = .text "2025-10-04T23:59:59.500000-00:00:00.500000" ∧
        w.instant = lateSaturday.instant := by
  refine ⟨by rfl, by rfl, .text ⟨[], [], by simp, by simp⟩ lateSaturday, ?_, rfl⟩
  rw [value, Margin.around]
  exact congrArg Value.text (by decide +kernel)

end Calendar.Writing

end LedgerRules
