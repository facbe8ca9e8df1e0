import LedgerRules.Proofs.Documents
import LedgerRules.Proofs.Spelling

/-! Numbers as they are spelled: digits, a point, and perhaps an exponent. A decimal number is spelled
in one of two ways, plain or with an exponent, and either is read back as the number itself. -/

namespace LedgerRules.Numeric
open Text Condition

theorem isPlainDigit_eq : Decimal.isPlainDigit = Char.isDigit := by
  funext c
  rw [Bool.eq_iff_iff]
  simp [Decimal.isPlainDigit, Char.isDigit, UInt32.le_iff_toNat_le]

theorem forall_digit {P : Char → Prop} (h : ∀ n < 10, P (Char.ofNat (0x30 + n))) {c : Char}
    (hc : c.isDigit = true) : P c := by
  rw [← isPlainDigit_eq, Decimal.isPlainDigit, Bool.and_eq_true, decide_eq_true_eq,
    decide_eq_true_eq] at hc
  have hn := h (c.toNat - 0x30) (by omega)
  rwa [show 0x30 + (c.toNat - 0x30) = c.toNat by omega, Char.ofNat_toNat] at hn

def isNumeralChar (c : Char) : Bool := Json.isNumberChar c || c = 'E'

theorem isNumeralChar_of_isDigit {c : Char} (h : c.isDigit = true) : isNumeralChar c = true := by
  simp [isNumeralChar, Json.isNumberChar, h]

theorem forall_numeralChar {P : Char → Prop} (h : ∀ n < 10, P (Char.ofNat (0x30 + n)))
    (hmarks : P '.' ∧ P 'e' ∧ P '+' ∧ P '-' ∧ P 'E') {c : Char} (hc : isNumeralChar c = true) :
    P c := by
  obtain ⟨hpoint, hsmall, hplus, hminus, hbig⟩ := hmarks
  simp only [isNumeralChar, Json.isNumberChar, Bool.or_eq_true, decide_eq_true_eq] at hc
  rcases hc with ((((hc | rfl) | rfl) | rfl) | rfl) | rfl
  · exact forall_digit h hc
  all_goals assumption

theorem numeralChar_plain {c : Char} (hc : isNumeralChar c = true) :
    isBlank c = false ∧ c ≠ '_' ∧ Decimal.plainDigit c = c :=
  forall_numeralChar (P := fun c => isBlank c = false ∧ c ≠ '_' ∧ Decimal.plainDigit c = c)
    (by decide) (by decide) hc

theorem trim_eq_self {cs : List Char} (h : ∀ c ∈ cs, isBlank c = false) : trim cs = cs := by
  have hstart {ds : List Char} (hds : ∀ c ∈ ds, isBlank c = false) : ds.dropWhile isBlank = ds := by
    cases ds with
    | nil => rfl
    | cons d ds => rw [List.dropWhile_cons, hds d List.mem_cons_self]; rfl
  rw [trim, trimStart, hstart h, trimEnd, hstart (by simpa using h), List.reverse_reverse]

theorem Decimal.parse?_plain {cs : List Char} (h : ∀ c ∈ cs, isNumeralChar c = true) :
    Decimal.parse? cs = Decimal.readPlain cs := by
  have hfilter : cs.filter (· ≠ '_') = cs :=
    List.filter_eq_self.mpr fun c hc => decide_eq_true (numeralChar_plain (h c hc)).2.1
  have hmap : cs.map Decimal.plainDigit = cs :=
    (List.map_congr_left fun c hc => (numeralChar_plain (h c hc)).2.2).trans (List.map_id' cs)
  rw [Decimal.parse?, trim_eq_self fun c hc => (numeralChar_plain (h c hc)).1, hfilter, hmap]

inductive PowerText : List Char → Int → Prop
  | none : PowerText [] 0
  | some {mark : Char} (negative : Bool) {digits : List Char} (hmark : mark = 'e' ∨ mark = 'E')
      (hne : digits ≠ []) (hd : ∀ c ∈ digits, c.isDigit = true) :
      PowerText (mark :: (if negative then '-' else '+') :: digits)
        (if negative then -(digitsValue digits : Int) else digitsValue digits)

namespace PowerText
variable {cs : List Char} {power : Int}

theorem chars (h : PowerText cs power) : ∀ c ∈ cs, isNumeralChar c = true := by
  cases h with
  | none => simp
  | some negative hmark hne hd =>
    rw [List.forall_mem_cons, List.forall_mem_cons]
    refine ⟨?_, ?_, fun c hc => isNumeralChar_of_isDigit (hd c hc)⟩
    · rcases hmark with rfl | rfl <;> decide
    · cases negative <;> decide

theorem head (h : PowerText cs power) : ∀ c ∈ cs.head?, c.isDigit = false ∧ c ≠ '.' := by
  cases h with
  | none => simp
  | some negative hmark => rcases hmark with rfl | rfl <;> simp

theorem read (h : PowerText cs power) : Decimal.readExponent cs = Option.some power := by
  cases h with
  | none => rfl
  | some negative hmark hne hd =>
    unfold Decimal.readExponent
    cases negative <;> simpa [hmark, isPlainDigit_eq, Decimal.takeSign, hne] using hd

end PowerText

structure Numeral where
  whole : List Char
  fraction : List Char
  exponent : List Char
  power : Int
  whole_ne : whole ≠ []
  digits : ∀ c ∈ whole ++ fraction, c.isDigit = true
  scaled : PowerText exponent power

namespace Numeral
variable (x : Numeral)

def chars : List Char := x.whole ++ pointOf x.fraction ++ x.fraction ++ x.exponent

def coefficient : Nat := digitsValue (x.whole ++ x.fraction)

def scale : Int := x.power - x.fraction.length

theorem chars_numeral : ∀ c ∈ x.chars, isNumeralChar c = true := by
  have hdigits := List.forall_mem_append.mp x.digits
  rw [chars, List.forall_mem_append, List.forall_mem_append, List.forall_mem_append]
  refine ⟨⟨⟨fun c hc => isNumeralChar_of_isDigit (hdigits.1 c hc), fun c hc => ?_⟩,
    fun c hc => isNumeralChar_of_isDigit (hdigits.2 c hc)⟩, x.scaled.chars⟩
  obtain rfl := mem_pointOf hc
  decide

theorem exists_digit : ∃ c more, x.chars = c :: more ∧ c.isDigit = true := by
  obtain ⟨c, more, hwhole⟩ := List.exists_cons_of_ne_nil x.whole_ne
  exact ⟨c, _, by rw [chars, hwhole]; rfl, x.digits c (by simp [hwhole])⟩

theorem takeSign (negative : Bool) (rest : List Char) :
    Decimal.takeSign (Decimal.signText negative ++ x.chars ++ rest) =
      (negative, x.chars ++ rest) := by
  obtain ⟨c, more, hchars, hc⟩ := x.exists_digit
  have hne := forall_digit (P := fun d => d ≠ '-' ∧ d ≠ '+') (by decide) hc
  cases negative <;> simp [Decimal.signText, Decimal.takeSign, hchars, hne.1, hne.2]

theorem whole_cut : x.chars.takeWhile Char.isDigit = x.whole ∧
    x.chars.dropWhile Char.isDigit = pointOf x.fraction ++ x.fraction ++ x.exponent := by
  have hhead : ∀ c ∈ (pointOf x.fraction ++ x.fraction ++ x.exponent).head?, c.isDigit = false := by
    by_cases hf : x.fraction = []
    · simpa [hf, pointOf] using fun c hc => (x.scaled.head c hc).1
    · simp [hf, pointOf]
  have hcut := takeWhile_append (List.forall_mem_append.mp x.digits).1 hhead
  simpa [chars] using hcut

theorem readFinite (negative : Bool) (h : Decimal.fits x.coefficient x.scale = true) :
    Decimal.readFinite negative x.chars = some (.finite negative x.coefficient x.scale) := by
  have hempty : x.whole.isEmpty = false := by simpa using x.whole_ne
  have hread := x.scaled.read
  unfold coefficient scale at h ⊢
  unfold Decimal.readFinite
  simp only [isPlainDigit_eq, x.whole_cut.1, x.whole_cut.2, hempty, Bool.false_and]
  by_cases hf : x.fraction = []
  · rw [hf] at h ⊢
    cases hx : x.exponent with
    | nil =>
      rw [hx] at hread
      simpa [pointOf, hread] using h
    | cons c more =>
      have hpoint := (x.scaled.head c (by simp [hx])).2
      rw [hx] at hread
      simpa [pointOf, hread, hpoint] using h
  · have hcut := takeWhile_append (List.forall_mem_append.mp x.digits).2
      fun c hc => (x.scaled.head c hc).1
    simp [pointOf, hf, hcut.1, hcut.2, hread, h]

theorem parse? (negative : Bool) (h : Decimal.fits x.coefficient x.scale = true) :
    Decimal.parse? (Decimal.signText negative ++ x.chars) =
      some (.finite negative x.coefficient x.scale) := by
  obtain ⟨c, more, hchars, hc⟩ := x.exists_digit
  have hplain : ∀ d ∈ Decimal.signText negative ++ x.chars, isNumeralChar d = true := by
    rw [List.forall_mem_append]
    refine ⟨?_, x.chars_numeral⟩
    cases negative with
    | false => exact List.forall_mem_nil _
    | true => exact List.forall_mem_singleton.mpr rfl
  have hsign : Decimal.takeSign (Decimal.signText negative ++ x.chars) = (negative, x.chars) := by
    simpa using x.takeSign negative []
  have hlow := forall_digit
    (P := fun d => Decimal.lowerAscii d ≠ 'n' ∧ Decimal.lowerAscii d ≠ 's' ∧
      Decimal.lowerAscii d ≠ 'i') (by decide) hc
  rw [Decimal.parse?_plain hplain, Decimal.readPlain, hsign]
  have hread := x.readFinite negative h
  rw [hchars] at hread ⊢
  simp [hlow.1, hlow.2.1, hlow.2.2, hread]

def NoZeroAhead (x : Numeral) : Prop := x.whole = ['0'] ∨ x.whole.head? ≠ some '0'

end Numeral

theorem digitsOf_head {n : Nat} (h : n ≠ 0) : (digitsOf n).head? ≠ some '0' := by
  induction n using Nat.strongRecOn with
  | _ n ih =>
    by_cases hlt : n < 10
    · have hone : ∀ n < 10, n ≠ 0 → [n.digitChar].head? ≠ some '0' := by decide
      rw [digitsOf, Nat.toDigits_of_lt_base hlt]
      exact hone n hlt h
    · rw [digitsOf, Nat.toDigits_of_base_le (by decide) (by omega),
        List.head?_append_of_ne_nil _ Nat.toDigits_ne_nil]
      exact ih (n / 10) (by omega) (by omega)

theorem powerText_of_int {mark : Char} (hmark : mark = 'e' ∨ mark = 'E') (e : Int) (zeros : Nat) :
    PowerText (mark :: (if e < 0 then '-' else '+') ::
      (List.replicate zeros '0' ++ digitsOf e.natAbs)) e := by
  have hd : ∀ c ∈ List.replicate zeros '0' ++ digitsOf e.natAbs, c.isDigit = true :=
    List.forall_mem_append.mpr ⟨isDigit_zeros _, isDigit_digitsOf _⟩
  have hne : List.replicate zeros '0' ++ digitsOf e.natAbs ≠ [] :=
    List.append_ne_nil_of_right_ne_nil _ Nat.toDigits_ne_nil
  have hpower := PowerText.some (decide (e < 0)) hmark hne hd
  rw [digitsValue_zeros, digitsValue_digitsOf] at hpower
  by_cases hneg : e < 0
  · simp only [hneg, decide_true, if_true] at hpower ⊢
    rwa [show -(e.natAbs : Int) = e by omega] at hpower
  · simp only [hneg, decide_false, if_false, Bool.false_eq_true] at hpower ⊢
    rwa [show (e.natAbs : Int) = e by omega] at hpower

theorem scientific_numeral {n : Nat} {k : Int} {exponent : List Char}
    (h : PowerText exponent (k + (digitsOf n).length - 1)) :
    ∃ x : Numeral, Decimal.placePoint (digitsOf n) 1 ++ exponent = x.chars ∧ x.coefficient = n ∧
      x.scale = k ∧ x.exponent = exponent ∧ (n ≠ 0 → x.NoZeroAhead) := by
  have hne : digitsOf n ≠ [] := Nat.toDigits_ne_nil
  have hpos := List.length_pos_iff.mpr hne
  obtain ⟨whole, fraction, htext, hwhole, hd, hvalue, hlength, hhead⟩ :=
    placePoint_cut hne (isDigit_digitsOf n) (1 - (digitsOf n).length)
  refine ⟨⟨whole, fraction, exponent, _, hwhole, hd, h⟩, ?_, ?_, ?_, rfl, fun hn => ?_⟩
  · rw [Numeral.chars, ← htext]
    congr 2
    omega
  · rw [Numeral.coefficient, hvalue, digitsValue_digitsOf,
      show (1 - (digitsOf n).length : Int).toNat = 0 by omega, Nat.pow_zero, Nat.mul_one]
  · rw [Numeral.scale, hlength]
    dsimp only
    omega
  · refine Or.imp_right (fun hsame => ?_) hhead
    rw [hsame]
    exact digitsOf_head hn

theorem plain_numeral (n : Nat) (k : Int) :
    ∃ x : Numeral, Binary64.positionalText n k = x.chars ∧ x.coefficient = n * 10 ^ k.toNat ∧
      x.fraction.length = (-k).toNat ∧ x.exponent = [] ∧ x.power = 0 ∧
      (n ≠ 0 → x.NoZeroAhead) := by
  obtain ⟨whole, fraction, htext, hwhole, hd, hvalue, hlength, hhead⟩ :=
    placePoint_cut (show digitsOf n ≠ [] from Nat.toDigits_ne_nil) (isDigit_digitsOf n) k
  refine ⟨⟨whole, fraction, [], 0, hwhole, hd, .none⟩, ?_, ?_, hlength, rfl, rfl, fun hn => ?_⟩
  · rw [Numeral.chars, List.append_nil, positionalText_eq, htext]
  · rw [Numeral.coefficient, hvalue, digitsValue_digitsOf]
  · refine Or.imp_right (fun hsame => ?_) hhead
    rw [hsame]
    exact digitsOf_head hn

namespace Decimal

theorem finiteText_numeral (c : Nat) (e : Int) :
    ∃ x : Numeral, finiteText c e = x.chars ∧ x.coefficient = c ∧ x.scale = e := by
  unfold finiteText
  dsimp only
  split
  next h =>
    simp only [Bool.and_eq_true, decide_eq_true_eq] at h
    obtain ⟨x, htext, hc, hlength, -, hpower, -⟩ := plain_numeral c e
    refine ⟨x, ?_, ?_, ?_⟩
    · rw [← htext, positionalText_eq]
    · rw [hc, show e.toNat = 0 by omega, Nat.pow_zero, Nat.mul_one]
    · rw [Numeral.scale, hpower, hlength]
      omega
  next h =>
    have hpower := powerText_of_int (.inr rfl : 'E' = 'e' ∨ 'E' = 'E')
      (e + (digitsOf c).length - 1) 0
    obtain ⟨x, htext, hc, hscale, -⟩ := scientific_numeral hpower
    exact ⟨x, htext, hc, hscale⟩

theorem parse?_toChars {c : Nat} {e : Int} (negative : Bool) (h : fits c e = true) :
    parse? (finite negative c e).toChars = some (finite negative c e) := by
  obtain ⟨x, htext, rfl, rfl⟩ := finiteText_numeral c e
  rw [toChars, htext, x.parse? negative h]

theorem fits_of_readFinite {cs : List Char} {negative n : Bool} {c : Nat} {e : Int}
    (h : readFinite negative cs = some (finite n c e)) : fits c e = true := by
  have hread {part fraction : List Char} {b : Bool} {coefficient : Nat}
      (h : (if b = true then none else (readExponent part).bind fun power =>
        if fits coefficient (power - fraction.length) = true then
          some (finite negative coefficient (power - fraction.length))
        else none) = some (finite n c e)) : fits c e = true := by
    split at h
    · simp at h
    · obtain ⟨power, -, h⟩ := Option.bind_eq_some_iff.mp h
      split at h
      next hfits =>
        obtain ⟨-, rfl, rfl⟩ := finite.inj (Option.some.inj h)
        exact hfits
      next => simp at h
  unfold readFinite at h
  dsimp only at h
  split at h
  · exact hread h
  · exact hread h

theorem fits_of_parse? {cs : List Char} {n : Bool} {c : Nat} {e : Int}
    (h : parse? cs = some (finite n c e)) : fits c e = true := by
  unfold parse? readPlain at h
  dsimp only at h
  split at h
  next =>
    unfold readNan at h
    split at h <;> simp at h
  next =>
    unfold readNan at h
    split at h <;> simp at h
  next =>
    split at h
    · simp at h
    · exact fits_of_readFinite h

theorem parse?_toChars_of_parse? {cs : List Char} {d : Decimal} (h : parse? cs = some d)
    (hd : d.isFinite = true) : parse? d.toChars = some d := by
  cases d with
  | finite n c e => exact parse?_toChars n (fits_of_parse? h)
  | infinite | nan => simp [isFinite] at hd

theorem fits_of_digitCount {c k : Nat} (h : digitCount c ≤ k)
    (hk : (k : Int) ≤ largestExponent + 1) : fits c 0 = true := by
  unfold fits adjusted
  unfold largestExponent at *
  simp only [Bool.and_eq_true, decide_eq_true_eq]
  split <;> omega

end Decimal

end LedgerRules.Numeric
