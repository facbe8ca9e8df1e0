import LedgerRules.Logging.Layout
import LedgerRules.Proofs.Scanning
import Mathlib.Data.List.TakeDrop

/-! What the placeholder is that a layout of log lines needs. The scan for it is greedy: it takes all
flags first, and the zeros of a width are flags as well. It finds a placeholder nevertheless wherever
one stands. -/

namespace LedgerRules.Logging
open Condition (takeWhile_append)

inductive Count : List Char → Prop
  | asterisk : Count ['*']
  | digits {d : Char} {ds : List Char} : (∀ x ∈ d :: ds, Text.isDecimalDigit x = true) →
      Count (d :: ds)

inductive Width : List Char → Prop
  | none : Width []
  | some {ds : List Char} : Count ds → Width ds

inductive Precision : List Char → Prop
  | none : Precision []
  | some {ds : List Char} : Count ds → Precision ('.' :: ds)

inductive Placeholder : List Char → Prop
  | field {name flagged width precision : List Char} {c : Char} :
      name ≠ [] → (∀ x ∈ name, isNameChar x = true) → (∀ x ∈ flagged, flags.contains x = true) →
      Width width → Precision precision → conversions.contains c = true →
      Placeholder ('%' :: '(' :: (name ++ ')' :: (flagged ++ (width ++ (precision ++ [c])))))

theorem afterName_eq_some_iff {cs rest : List Char} : afterName cs = some rest ↔
    ∃ name, name ≠ [] ∧ (∀ x ∈ name, isNameChar x = true) ∧ cs = name ++ ')' :: rest := by
  rw [afterName, List.span_eq_takeWhile_dropWhile]
  constructor
  · intro h
    split at h
    next c name rest' hspan =>
      obtain ⟨hname, hrest⟩ := Prod.mk.inj hspan
      obtain rfl := Option.some.inj h
      refine ⟨cs.takeWhile isNameChar, by simp [hname], fun x hx => List.mem_takeWhile_imp hx, ?_⟩
      rw [← hrest, List.takeWhile_append_dropWhile]
    next => cases h
  · rintro ⟨name, hne, hname, rfl⟩
    have hclose : ∀ d ∈ (')' :: rest).head?, isNameChar d = false := by
      rintro d ⟨⟩
      decide +kernel
    obtain ⟨htake, hdrop⟩ := takeWhile_append hname hclose
    obtain ⟨c, more, rfl⟩ := List.exists_cons_of_ne_nil hne
    rw [htake, hdrop]
    rfl

theorem width_dropNumber (cs : List Char) : ∃ width, Width width ∧ cs = width ++ dropNumber cs := by
  unfold dropNumber
  split
  next rest => exact ⟨['*'], .some .asterisk, rfl⟩
  next =>
    refine ⟨cs.takeWhile Text.isDecimalDigit, ?_, List.takeWhile_append_dropWhile.symm⟩
    have hdigits : ∀ x ∈ cs.takeWhile Text.isDecimalDigit, Text.isDecimalDigit x = true :=
      fun x hx => List.mem_takeWhile_imp hx
    generalize cs.takeWhile Text.isDecimalDigit = digits at hdigits
    cases digits with
    | nil => exact .none
    | cons d ds => exact .some (.digits hdigits)

theorem precision_dropPrecision (cs : List Char) :
    ∃ precision, Precision precision ∧ cs = precision ++ dropPrecision cs := by
  unfold dropPrecision
  split
  next rest => exact ⟨['.', '*'], .some .asterisk, rfl⟩
  next c rest _ =>
    split
    next hc =>
      refine ⟨'.' :: c :: rest.takeWhile Text.isDecimalDigit, .some (.digits ?_), ?_⟩
      · exact List.forall_mem_cons.mpr ⟨hc, fun x hx => List.mem_takeWhile_imp hx⟩
      · rw [List.cons_append, List.cons_append, List.takeWhile_append_dropWhile]
    next => exact ⟨[], .none, rfl⟩
  next => exact ⟨[], .none, rfl⟩

def EndsWidth (cs : List Char) : Prop :=
  ∀ c ∈ cs.head?, flags.contains c = false ∧ Text.isDecimalDigit c = false ∧ c ≠ '*'

theorem conversion_apart {c : Char} (h : conversions.contains c = true) :
    flags.contains c = false ∧ Text.isDecimalDigit c = false ∧ c ≠ '*' ∧ c ≠ '.' := by
  have hall : (conversions.all fun c => !flags.contains c && !Text.isDecimalDigit c &&
      c != '*' && c != '.') = true := by decide +kernel
  have hc := List.all_eq_true.mp hall c (by simpa using h)
  simpa [and_assoc] using hc

theorem Precision.endsWidth {precision : List Char} (h : Precision precision) {c : Char}
    (hc : conversions.contains c = true) (after : List Char) :
    EndsWidth (precision ++ c :: after) := by
  cases h with
  | none =>
    obtain ⟨hflag, hdigit, hasterisk, -⟩ := conversion_apart hc
    rintro d ⟨⟩
    exact ⟨hflag, hdigit, hasterisk⟩
  | some =>
    rintro d ⟨⟩
    decide +kernel

theorem dropNumber_digits {ds cs : List Char} (hds : ∀ d ∈ ds, Text.isDecimalDigit d = true)
    (hcs : EndsWidth cs) : dropNumber (ds ++ cs) = cs := by
  have hdrop := (takeWhile_append hds fun c hc => (hcs c hc).2.1).2
  unfold dropNumber
  split
  next rest heq =>
    cases ds with
    | nil =>
      obtain rfl : cs = '*' :: rest := heq
      exact absurd rfl (hcs '*' rfl).2.2
    | cons d ds =>
      obtain ⟨rfl, -⟩ := List.cons.inj heq
      exact absurd (hds '*' List.mem_cons_self) (by decide)
  next => exact hdrop

theorem dropFlags_digits {ds cs : List Char} (hds : ∀ d ∈ ds, Text.isDecimalDigit d = true)
    (hcs : EndsWidth cs) : ∃ left, (ds ++ cs).dropWhile flags.contains = left ++ cs ∧
      ∀ d ∈ left, Text.isDecimalDigit d = true := by
  induction ds with
  | nil =>
    refine ⟨[], ?_, by simp⟩
    exact (takeWhile_append (w := []) (by simp) fun c hc => (hcs c hc).1).2
  | cons d ds ih =>
    by_cases hd : flags.contains d = true
    · rw [List.cons_append, List.dropWhile_cons_of_pos hd]
      exact ih (List.forall_mem_cons.mp hds).2
    · rw [List.cons_append, List.dropWhile_cons_of_neg hd]
      exact ⟨d :: ds, rfl, hds⟩

theorem Width.dropNumber {width cs : List Char} (h : Width width) (hcs : EndsWidth cs) :
    dropNumber ((width ++ cs).dropWhile flags.contains) = cs := by
  have hdigits {ds : List Char} (hds : ∀ d ∈ ds, Text.isDecimalDigit d = true) :
      Logging.dropNumber ((ds ++ cs).dropWhile flags.contains) = cs := by
    obtain ⟨left, heq, hleft⟩ := dropFlags_digits hds hcs
    rw [heq, dropNumber_digits hleft hcs]
  cases h with
  | none => exact @hdigits [] (by simp)
  | some hcount =>
    cases hcount with
    | asterisk => rfl
    | digits hds => exact hdigits hds

theorem Precision.dropPrecision {precision : List Char} (h : Precision precision) {c : Char}
    (hc : conversions.contains c = true) (after : List Char) :
    dropPrecision (precision ++ c :: after) = c :: after := by
  obtain ⟨-, hdigit, -, hpoint⟩ := conversion_apart hc
  cases h with
  | none =>
    rw [List.nil_append]
    unfold Logging.dropPrecision
    split
    next heq => exact absurd (List.cons.inj heq).1 hpoint
    next heq => exact absurd (List.cons.inj heq).1 hpoint
    next => rfl
  | some hcount =>
    cases hcount with
    | asterisk => rfl
    | @digits d ds hds =>
      obtain ⟨hd, hds⟩ := List.forall_mem_cons.mp hds
      have hne : d ≠ '*' := by
        rintro rfl
        exact absurd hd (by decide)
      have hdrop : (ds ++ c :: after).dropWhile Text.isDecimalDigit = c :: after := by
        refine (takeWhile_append hds ?_).2
        rintro x ⟨⟩
        exact hdigit
      rw [List.cons_append, List.cons_append, Logging.dropPrecision, if_pos hd, hdrop]
      simpa using hne

theorem exists_placeholder {cs : List Char} (h : startsField cs = true) :
    ∃ field after, cs = field ++ after ∧ Placeholder field := by
  unfold startsField at h
  split at h
  next rest =>
    split at h
    next tail hafter =>
      obtain ⟨name, hne, hname, rfl⟩ := afterName_eq_some_iff.mp hafter
      obtain ⟨width, hwidth, hw⟩ := width_dropNumber (tail.dropWhile flags.contains)
      obtain ⟨precision, hprecision, hp⟩ :=
        precision_dropPrecision (dropNumber (tail.dropWhile flags.contains))
      split at h
      next c after hend =>
        have hflagged : ∀ x ∈ tail.takeWhile flags.contains, flags.contains x = true :=
          fun x hx => List.mem_takeWhile_imp hx
        have htail : tail.takeWhile flags.contains ++ (width ++ (precision ++ c :: after)) = tail := by
          rw [← hend, ← hp, ← hw, List.takeWhile_append_dropWhile]
        refine ⟨_, after, ?_, .field hne hname hflagged hwidth hprecision h⟩
        conv_lhs => rw [← htail]
        simp
      next => cases h
    next => cases h
  next => cases h

theorem Placeholder.startsField {field : List Char} (h : Placeholder field) (after : List Char) :
    startsField (field ++ after) = true := by
  cases h with
  | @field name flagged width precision c hne hname hflagged hwidth hprecision hc =>
    have hafter : afterName ((name ++ ')' :: (flagged ++ (width ++ (precision ++ [c])))) ++ after) =
        some (flagged ++ (width ++ (precision ++ c :: after))) :=
      afterName_eq_some_iff.mpr ⟨name, hne, hname, by simp⟩
    rw [List.cons_append, List.cons_append, Logging.startsField]
    simp only [hafter, List.dropWhile_append_of_pos hflagged,
      hwidth.dropNumber (hprecision.endsWidth hc after), hprecision.dropPrecision hc after, hc]

def HasPlaceholder (cs : List Char) : Prop :=
  ∃ before field after, cs = before ++ (field ++ after) ∧ Placeholder field

theorem isLayout_iff {cs : List Char} : isLayout cs = true ↔ HasPlaceholder cs := by
  induction cs with
  | nil =>
    refine iff_of_false (by simp [isLayout]) ?_
    rintro ⟨before, field, after, heq, ⟨⟩⟩
    simp at heq
  | cons c cs ih =>
    rw [isLayout, Bool.or_eq_true, ih]
    constructor
    · rintro (h | ⟨before, field, after, rfl, h⟩)
      · obtain ⟨field, after, heq, hfield⟩ := exists_placeholder h
        exact ⟨[], field, after, heq, hfield⟩
      · exact ⟨c :: before, field, after, rfl, h⟩
    · rintro ⟨before, field, after, heq, h⟩
      cases before with
      | nil =>
        rw [heq]
        exact .inl (h.startsField after)
      | cons b before =>
        obtain ⟨-, rfl⟩ := List.cons.inj heq
        exact .inr ⟨before, field, after, rfl, h⟩

end LedgerRules.Logging
