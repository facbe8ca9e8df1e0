import LedgerRules.Proofs.DecimalValue
import LedgerRules.Proofs.Numerals
import LedgerRules.Text.Integer

/-! Whole numbers as texts. A text spells a whole number if apart from a sign it is digits, between
any two of which one underscore may stand, and not too many of them. -/

namespace LedgerRules.Text

inductive Grouped : List Char → List Char → Prop
  | last {d : Char} : isDecimalDigit d = true → Grouped [d] [d]
  | next {d : Char} {cs ds : List Char} : isDecimalDigit d = true → Grouped cs ds →
      Grouped (d :: cs) (d :: ds)
  | gap {d : Char} {cs ds : List Char} : isDecimalDigit d = true → Grouped cs ds →
      Grouped (d :: '_' :: cs) (d :: ds)

theorem isDecimalDigit_underscore : isDecimalDigit '_' = false := by decide

theorem not_grouped_underscore (cs ds : List Char) : ¬Grouped ('_' :: cs) ds := by
  intro h
  cases h with
  | last hd | next hd | gap hd => simp [isDecimalDigit_underscore] at hd

theorem grouped_of_groupedDigits {cs ds : List Char} (h : groupedDigits cs = some ds) :
    Grouped cs ds := by
  induction cs using groupedDigits.induct generalizing ds with
  | case1 => simp [groupedDigits] at h
  | case2 d hd =>
    obtain rfl : [d] = ds := by simpa [groupedDigits, hd] using h
    exact .last hd
  | case3 d hd => simp [groupedDigits, hd] at h
  | case4 d rest hd ih =>
    obtain ⟨ds', hds, rfl⟩ : ∃ ds', groupedDigits rest = some ds' ∧ d :: ds' = ds := by
      simpa [groupedDigits, hd] using h
    exact .gap hd (ih hds)
  | case5 d rest hd => simp [groupedDigits, hd] at h
  | case6 d rest hne hgap hd ih =>
    obtain ⟨ds', hds, rfl⟩ : ∃ ds', groupedDigits rest = some ds' ∧ d :: ds' = ds := by
      simpa [groupedDigits, hd] using h
    exact .next hd (ih hds)
  | case7 d rest hne hgap hd => simp [groupedDigits, hd] at h

theorem groupedDigits_of_grouped {cs ds : List Char} (h : Grouped cs ds) :
    groupedDigits cs = some ds := by
  induction h with
  | last hd => simp [groupedDigits, hd]
  | gap hd h ih => simp [groupedDigits, hd, ih]
  | @next d cs ds hd h ih =>
    cases cs with
    | nil => cases h
    | cons c cs =>
      have hc : c ≠ '_' := by
        rintro rfl
        exact not_grouped_underscore cs ds h
      simp [groupedDigits, hd, ih, hc]

theorem groupedDigits_eq_some_iff {cs ds : List Char} :
    groupedDigits cs = some ds ↔ Grouped cs ds :=
  ⟨grouped_of_groupedDigits, groupedDigits_of_grouped⟩

theorem Grouped.digits {cs ds : List Char} (h : Grouped cs ds)
    (honly : ∀ c ∈ cs, isDigitLike c = true) :
    cs = ds ∧ ∀ c ∈ cs, isDecimalDigit c = true := by
  induction h with
  | last hd => exact ⟨rfl, List.forall_mem_singleton.mpr hd⟩
  | next hd _ ih =>
    rw [List.forall_mem_cons] at honly
    obtain ⟨rfl, hdigits⟩ := ih honly.2
    exact ⟨rfl, List.forall_mem_cons.mpr ⟨hd, hdigits⟩⟩
  | gap _ _ _ =>
    have hunderscore := honly '_' (by simp)
    exact absurd hunderscore (by decide)

theorem grouped_of_digits {cs : List Char} (hne : cs ≠ []) (h : ∀ c ∈ cs, isDecimalDigit c = true) :
    Grouped cs cs := by
  induction cs with
  | nil => exact absurd rfl hne
  | cons c cs ih =>
    rw [List.forall_mem_cons] at h
    cases cs with
    | nil => exact .last h.1
    | cons d cs => exact .next h.1 (ih (by simp) h.2)

inductive Spells : List Char → Int → Prop
  | plain {cs ds : List Char} : Grouped cs ds → ds.length ≤ longestInteger →
      Spells cs (digitsValue ds)
  | plus {cs ds : List Char} : Grouped cs ds → ds.length ≤ longestInteger →
      Spells ('+' :: cs) (digitsValue ds)
  | minus {cs ds : List Char} : Grouped cs ds → ds.length ≤ longestInteger →
      Spells ('-' :: cs) (-(digitsValue ds))

theorem Grouped.signed {cs ds : List Char} (h : Grouped cs ds) : signed cs = (false, cs) := by
  obtain ⟨d, rest, hd, rfl⟩ : ∃ d rest, isDecimalDigit d = true ∧ cs = d :: rest := by
    cases h with
    | last hd | next hd | gap hd => exact ⟨_, _, hd, rfl⟩
  unfold Text.signed
  split
  next heq =>
    obtain ⟨rfl, -⟩ := List.cons.inj heq
    exact absurd hd (by decide)
  next heq =>
    obtain ⟨rfl, -⟩ := List.cons.inj heq
    exact absurd hd (by decide)
  next => rfl

theorem readInteger_eq_ok {s : String} (negative : Bool) {body ds : List Char}
    (hsigned : signed (trim s.toList) = (negative, body)) (h : Grouped body ds)
    (hlength : ds.length ≤ longestInteger) :
    readInteger s = .ok (if negative then -(digitsValue ds) else digitsValue ds) := by
  unfold readInteger
  simp only [hsigned, groupedDigits_eq_some_iff.mpr h]
  exact if_neg (Nat.not_lt.mpr hlength)

theorem readInteger_eq_ok_iff {s : String} {n : Int} :
    readInteger s = .ok n ↔ Spells (trim s.toList) n := by
  constructor
  · intro h
    unfold readInteger at h
    generalize trim s.toList = cs at h ⊢
    dsimp only at h
    split at h
    next => simp at h
    next ds hds =>
      split at h
      next => simp at h
      next hlength =>
        have hgrouped := groupedDigits_eq_some_iff.mp hds
        obtain rfl := Except.ok.inj h
        unfold signed at hgrouped ⊢
        split at hgrouped
        · exact .minus hgrouped (by omega)
        · exact .plus hgrouped (by omega)
        · exact .plain hgrouped (by omega)
  · intro h
    generalize hcs : trim s.toList = cs at h
    cases h with
    | plain hgrouped hlength =>
      exact readInteger_eq_ok false (hcs ▸ hgrouped.signed) hgrouped hlength
    | plus hgrouped hlength =>
      exact readInteger_eq_ok false (hcs ▸ rfl) hgrouped hlength
    | minus hgrouped hlength =>
      exact readInteger_eq_ok true (hcs ▸ rfl) hgrouped hlength

theorem integer?_eq_some_iff {s : String} {n : Int} :
    integer? s = some n ↔ Spells (trim s.toList) n := by
  rw [← readInteger_eq_ok_iff, integer?]
  cases readInteger s <;> simp [Except.toOption]

theorem spells_digitsOf {n : Nat} (h : n < 10 ^ longestInteger) :
    Spells (trim (digitsOf n)) n := by
  have hdigits : ∀ c ∈ digitsOf n, isDecimalDigit c = true :=
    fun c hc => (Condition.isDecimalDigit_of_isDigit (Condition.isDigit_digitsOf n c hc)).1
  have htrim : trim (digitsOf n) = digitsOf n :=
    Numeric.trim_eq_self fun c hc => Condition.isBlank_of_isDecimalDigit (hdigits c hc)
  have hlength : (digitsOf n).length ≤ longestInteger := by
    rw [Numeric.length_digitsOf]
    exact Numeric.digitCount_le (by decide) h
  have hgrouped : Grouped (digitsOf n) (digitsOf n) := grouped_of_digits Nat.toDigits_ne_nil hdigits
  have hspells := Spells.plain hgrouped hlength
  rwa [Condition.digitsValue_digitsOf, ← htrim] at hspells

end LedgerRules.Text
