import LedgerRules.Json.Printer
import LedgerRules.Proofs.JsonReading

/-! The spread text of a value is read as the value. Each piece of it is taken for what it was written
for, as something follows that ends a word; the items of a list and the members of a map are read
piece by piece. -/

namespace LedgerRules.Json
open Numeric Condition
open Cursor (isSpace)

def Takes {α : Type} (read : Reader α) (cs : List Char) (a : α) : Prop :=
  ∀ pos rest, Doc.Ends rest → ∃ stop, read ⟨pos, cs ++ rest⟩ = .ok (a, ⟨stop, rest⟩)

theorem Cursor.skip_append (pos : Nat) (cs rest : List Char) :
    (Cursor.mk pos (cs ++ rest)).skip cs.length = ⟨pos + cs.length, rest⟩ := by
  rw [Cursor.skip, List.drop_left]

theorem Cursor.skipSpace_append (pos : Nat) (blanks : List Char) {rest : List Char}
    (hb : ∀ c ∈ blanks, isSpace c = true) (hr : ∀ c ∈ rest.head?, isSpace c = false) :
    (Cursor.mk pos (blanks ++ rest)).skipSpace = ⟨pos + blanks.length, rest⟩ := by
  rw [skipSpace, (Condition.takeWhile_append hb hr).1, skip_append]

theorem Cursor.skipSpace_cons (pos : Nat) {c : Char} (hc : isSpace c = false) (rest : List Char) :
    (Cursor.mk pos (c :: rest)).skipSpace = ⟨pos, c :: rest⟩ :=
  skipSpace_append pos [] (by simp) (by simpa using hc)

theorem hexNumber?_control : ∀ n < 0x20, Text.hexNumber? (Text.hexDigits 4 n) = some n := by decide

theorem unit?_hexDigits {n : Nat} (h : n < 0x20) {rest : List Char} (hrest : rest ≠ []) :
    unit? (Text.hexDigits 4 n ++ rest) = some n := by
  have hlength := Text.length_hexDigits 4 n
  have hpos := List.length_pos_iff.mpr hrest
  rw [unit?, List.length_append, if_neg (by omega), List.take_left' hlength,
    hexNumber?_control n h]

theorem readUnit_control (d : Dialect) (pos n : Nat) (h : n < 0x20) {rest : List Char}
    (hrest : rest ≠ []) : readUnit d ⟨pos, 'u' :: (Text.hexDigits 4 n ++ rest)⟩ =
      .ok (Char.ofNat n, ⟨pos + 5, rest⟩) := by
  have hlength := Text.length_hexDigits 4 n
  have hhigh : isHigh n = false := by simp [isHigh]; omega
  have hlow : isLow n = false := by simp [isLow]; omega
  have hskip : (Cursor.mk pos ('u' :: (Text.hexDigits 4 n ++ rest))).skip 5 = ⟨pos + 5, rest⟩ := by
    have happend := Cursor.skip_append pos ('u' :: Text.hexDigits 4 n) rest
    simpa [hlength] using happend
  simp [readUnit, unit?_hexDigits h hrest, hhigh, hlow, hskip]

theorem simpleEscape?_shortEscape {c e : Char} (h : shortEscape? c = some e) :
    simpleEscape? e = some c ∧ e ≠ 'u' := by
  unfold shortEscape? at h
  split at h <;> simp only [Option.some.injEq, reduceCtorEq] at h
  all_goals
    subst h
    decide

theorem readChars_charText (d : Dialect) (opening : Cursor) (fuel pos : Nat) (c : Char)
    {rest : List Char} (hrest : rest ≠ []) :
    ∃ stop, readChars d opening (fuel + 1) ⟨pos, charText false c ++ rest⟩ =
      (readChars d opening fuel ⟨stop, rest⟩).map fun p => (c :: p.1, p.2) := by
  unfold charText
  split
  next e he =>
    -- That no earlier case of the reader applies, `simp` takes from the facts at hand.
    obtain ⟨hsimple, hu⟩ := simpleEscape?_shortEscape he
    refine ⟨pos + 2, ?_⟩
    simp [readChars, hsimple, Cursor.skip]
    rfl
  next hplain =>
    have hquote : c ≠ '"' := by rintro rfl; simp [shortEscape?] at hplain
    have hslash : c ≠ '\\' := by rintro rfl; simp [shortEscape?] at hplain
    split
    next hcontrol =>
      have hunit := readUnit_control d (pos + 1) c.toNat hcontrol hrest
      refine ⟨pos + 1 + 5, ?_⟩
      simp [readChars, unitEscape, Cursor.skip, hunit]
      rfl
    next hcontrol =>
      refine ⟨pos + 1, ?_⟩
      simp [readChars, hslash, hcontrol, Cursor.skip]
      rfl

theorem readChars_text (d : Dialect) (opening : Cursor) {cs : List Char} {fuel : Nat}
    (h : cs.length < fuel) (pos : Nat) (rest : List Char) :
    ∃ stop, readChars d opening fuel ⟨pos, cs.flatMap (charText false) ++ '"' :: rest⟩ =
      .ok (cs, ⟨stop, rest⟩) := by
  induction cs generalizing fuel pos with
  | nil =>
    cases fuel with
    | zero => exact absurd h (Nat.not_lt_zero _)
    | succ fuel => exact ⟨pos + 1, rfl⟩
  | cons c cs ih =>
    cases fuel with
    | zero => exact absurd h (Nat.not_lt_zero _)
    | succ fuel =>
      have hne : cs.flatMap (charText false) ++ '"' :: rest ≠ [] := by simp
      obtain ⟨middle, hstep⟩ := readChars_charText d opening fuel pos c hne
      obtain ⟨stop, hread⟩ := ih (Nat.lt_of_succ_lt_succ h) middle
      refine ⟨stop, ?_⟩
      rw [List.flatMap_cons, List.append_assoc, hstep, hread]
      rfl

theorem length_le_textChars (ascii : Bool) (cs : List Char) :
    cs.length + 2 ≤ (textChars ascii cs).length := by
  have hone (c : Char) : 0 < (charText ascii c).length := by
    unfold charText
    split
    · simp
    · split
      · simp [unitEscape]
      · split
        · simp
        · split <;> simp [unitEscape]
  have hmap : cs.length ≤ (cs.flatMap (charText ascii)).length := by
    induction cs with
    | nil => simp
    | cons c cs ih =>
      have hc := hone c
      rw [List.flatMap_cons, List.length_append, List.length_cons]
      omega
  simp only [textChars, List.length_cons, List.length_append, List.length_nil]
  omega

theorem takes_text (d : Dialect) (s : String) : Takes (readText d) (textChars false s.toList) s := by
  intro pos rest _
  have hlength := length_le_textChars false s.toList
  have hfuel : s.toList.length < (textChars false s.toList ++ rest).length := by
    rw [List.length_append]
    omega
  obtain ⟨stop, hread⟩ :=
    readChars_text d ⟨pos, textChars false s.toList ++ rest⟩ hfuel (pos + 1) rest
  have hskip : (Cursor.mk pos (textChars false s.toList ++ rest)).skip 1 =
      ⟨pos + 1, s.toList.flatMap (charText false) ++ '"' :: rest⟩ := by
    simp [Cursor.skip, textChars]
  refine ⟨stop, ?_⟩
  simp only [readText, hskip, hread]
  simp [bind, Except.bind, pure, Except.pure]

theorem isDigit_eq : isDigit = Char.isDigit := isPlainDigit_eq

theorem ends_number {rest : List Char} (h : Doc.Ends rest) : ∀ c ∈ rest.head?,
    c.isDigit = false ∧ c ≠ '.' ∧ c ≠ 'e' ∧ c ≠ 'E' := by
  intro c hc
  have hword := h c hc
  refine ⟨?_, ?_, ?_, ?_⟩
  · by_contra hd
    simp [isWordChar, Char.isAlphanum, Bool.eq_true_of_not_eq_false hd] at hword
  all_goals
    rintro rfl
    simp [isWordChar] at hword

variable {rest : List Char}

theorem exponent_head {exponent : List Char} {power : Int} (hp : PowerText exponent power)
    (h : Doc.Ends rest) : ∀ c ∈ (exponent ++ rest).head?, c.isDigit = false ∧ c ≠ '.' := by
  intro c hc
  cases exponent with
  | nil => exact ⟨(ends_number h c hc).1, (ends_number h c hc).2.1⟩
  | cons d more => exact hp.head c hc

theorem wholePart_numeral (x : Numeral) (hzero : x.NoZeroAhead) (h : Doc.Ends rest) :
    wholePart (x.chars ++ rest) =
      some (x.whole, pointOf x.fraction ++ (x.fraction ++ (x.exponent ++ rest))) := by
  have htail : ∀ c ∈ (pointOf x.fraction ++ (x.fraction ++ (x.exponent ++ rest))).head?,
      c.isDigit = false := by
    by_cases hf : x.fraction = []
    · rw [hf]
      exact fun c hc => (exponent_head x.scaled h c hc).1
    · simp [pointOf, hf]
  have hchars : x.chars ++ rest =
      x.whole ++ (pointOf x.fraction ++ (x.fraction ++ (x.exponent ++ rest))) := by
    simp [Numeral.chars]
  have hdigits := (List.forall_mem_append.mp x.digits).1
  rw [hchars]
  rcases hzero with hone | hhead
  · rw [hone]
    rfl
  · have hcut := takeWhile_append hdigits htail
    obtain ⟨c, more, hwhole⟩ := List.exists_cons_of_ne_nil x.whole_ne
    rw [hwhole] at hcut hhead hdigits ⊢
    have hdigit := hdigits c List.mem_cons_self
    -- The first case of `wholePart` is ruled out by this.
    have hne : c ≠ '0' := by simpa using hhead
    rw [List.cons_append] at hcut ⊢
    simp [wholePart, isDigit_eq, hdigit, List.span_eq_takeWhile_dropWhile, hcut.1, hcut.2]

theorem fractionPart_numeral (x : Numeral) (h : Doc.Ends rest) :
    fractionPart (pointOf x.fraction ++ (x.fraction ++ (x.exponent ++ rest))) =
      (pointOf x.fraction ++ x.fraction, x.exponent ++ rest) := by
  have hhead := exponent_head x.scaled h
  have hdigits := (List.forall_mem_append.mp x.digits).2
  cases hf : x.fraction with
  | nil =>
    cases hrest : x.exponent ++ rest with
    | nil => rfl
    | cons c more =>
      have hpoint := (hhead c (by simp [hrest])).2
      simp [fractionPart, pointOf, hpoint]
  | cons c more =>
    rw [hf] at hdigits
    have hcut := takeWhile_append hdigits fun d hd => (hhead d hd).1
    have hdigit := hdigits c List.mem_cons_self
    rw [List.cons_append] at hcut
    simp [fractionPart, pointOf, isDigit_eq, hdigit, List.span_eq_takeWhile_dropWhile, hcut.1, hcut.2]

theorem exponentPart_power {exponent : List Char} {power : Int} (hp : PowerText exponent power)
    (h : Doc.Ends rest) : exponentPart (exponent ++ rest) = exponent := by
  cases hp with
  | none =>
    cases rest with
    | nil => rfl
    | cons c more =>
      obtain ⟨-, -, he, hE⟩ := ends_number h c rfl
      simp [exponentPart, he, hE]
  | @some mark negative digits hmark hne hd =>
    have hcut := takeWhile_append hd fun c hc => (ends_number h c hc).1
    cases negative <;>
      simp [exponentPart, hmark, takeSign, isDigit_eq, hcut.1, hne]

def numberValue (negative : Bool) (x : Numeral) : Except Failure Value :=
  if x.fraction.isEmpty && x.exponent.isEmpty then
    if Text.longestInteger < x.whole.length then .error (.integer (.tooLong x.whole.length))
    else
      .ok (.int (if negative then -(Text.digitsValue x.whole : Int) else Text.digitsValue x.whole))
  else .ok (.float ((Binary64.parse? (Decimal.signText negative ++ x.chars)).getD .nan))

theorem readNumber_numeral {negative : Bool} {x : Numeral} {v : Value} (hzero : x.NoZeroAhead)
    (hv : numberValue negative x = .ok v) :
    Takes readNumber (Decimal.signText negative ++ x.chars) v := by
  intro pos rest hrest
  have hlexeme : Decimal.signText negative ++ x.whole ++ (pointOf x.fraction ++ x.fraction) ++
      x.exponent = Decimal.signText negative ++ x.chars := by simp [Numeral.chars]
  have hfraction : (pointOf x.fraction ++ x.fraction).isEmpty = x.fraction.isEmpty := by
    cases x.fraction <;> rfl
  refine ⟨pos + (Decimal.signText negative ++ x.chars).length, ?_⟩
  unfold readNumber
  simp only [x.takeSign, wholePart_numeral x hzero hrest, fractionPart_numeral x hrest,
    exponentPart_power x.scaled hrest, hlexeme, hfraction, Cursor.skip_append]
  unfold numberValue at hv
  split at hv
  next hwhole =>
    rw [if_pos hwhole]
    split at hv
    next => simp at hv
    next hshort => rw [if_neg hshort, Except.ok.inj hv]
  next hmark => rw [if_neg hmark, Except.ok.inj hv]

theorem readValue_leaf (d : Dialect) (room pos : Nat) {c : Char} (more : List Char)
    (h : c ≠ '"' ∧ c ≠ '[' ∧ c ≠ '\x7b') :
    readValue d room ⟨pos, c :: more⟩ = readLeaf ⟨pos, c :: more⟩ := by
  unfold readValue
  split
  next heq => exact absurd (List.cons.inj heq).1 h.1
  next heq => exact absurd (List.cons.inj heq).1 h.2.1
  next heq => exact absurd (List.cons.inj heq).1 h.2.2
  next => rfl

theorem readWord_word {w : String × Value} (hw : w ∈ words) (pos : Nat) (rest : List Char) :
    readWord ⟨pos, w.1.toList ++ rest⟩ = some (w.2, ⟨pos + w.1.length, rest⟩) := by
  simp only [words, List.mem_cons, List.not_mem_nil, or_false] at hw
  rcases hw with rfl | rfl | rfl | rfl | rfl | rfl <;> rfl

theorem takes_word (d : Dialect) (room : Nat) {w : String × Value} (hw : w ∈ words) :
    Takes (readValue d room) w.1.toList w.2 := by
  intro pos rest _
  have hword := readWord_word hw pos rest
  have hhead : ∀ w ∈ words, w.1.toList.head? ≠ some '"' ∧ w.1.toList.head? ≠ some '[' ∧
      w.1.toList.head? ≠ some '\x7b' := by decide
  have hne : ∀ w ∈ words, w.1.toList ≠ [] := by decide
  obtain ⟨c, more, hchars⟩ := List.exists_cons_of_ne_nil (hne w hw)
  have hopens : c ≠ '"' ∧ c ≠ '[' ∧ c ≠ '\x7b' := by simpa [hchars] using hhead w hw
  have hleaf := readValue_leaf d room pos (more ++ rest) hopens
  rw [← List.cons_append, ← hchars] at hleaf
  exact ⟨pos + w.1.length, by rw [hleaf, readLeaf, hword]⟩

theorem readLeaf_numeral (negative : Bool) (x : Numeral) (pos : Nat) (rest : List Char) :
    readLeaf ⟨pos, Decimal.signText negative ++ x.chars ++ rest⟩ =
      readNumber ⟨pos, Decimal.signText negative ++ x.chars ++ rest⟩ := by
  obtain ⟨c, more, hchars, hc⟩ := x.exists_digit
  have hne := forall_digit
    (P := fun d => 'n' ≠ d ∧ 't' ≠ d ∧ 'f' ≠ d ∧ 'N' ≠ d ∧ 'I' ≠ d ∧ '-' ≠ d ∧ d ≠ '+')
    (by decide) hc
  have hword : readWord ⟨pos, Decimal.signText negative ++ x.chars ++ rest⟩ = none := by
    rw [hchars]
    cases negative <;> simp [readWord, words, Decimal.signText, List.isPrefixOf, hne]
  rw [readLeaf, hword, hchars]
  cases negative <;> simp [Decimal.signText, hne]

theorem takes_numeral (d : Dialect) (room : Nat) {negative : Bool} {x : Numeral} {v : Value}
    (hzero : x.NoZeroAhead) (hv : numberValue negative x = .ok v) :
    Takes (readValue d room) (Decimal.signText negative ++ x.chars) v := by
  intro pos rest hrest
  obtain ⟨c, more, hchars, hc⟩ := x.exists_digit
  have hne := forall_digit (P := fun d => d ≠ '"' ∧ d ≠ '[' ∧ d ≠ '\x7b') (by decide) hc
  have hleaf : readValue d room ⟨pos, Decimal.signText negative ++ x.chars ++ rest⟩ =
      readLeaf ⟨pos, Decimal.signText negative ++ x.chars ++ rest⟩ := by
    rw [hchars]
    cases negative with
    | false => exact readValue_leaf d room pos (more ++ rest) hne
    | true => exact readValue_leaf d room pos (c :: more ++ rest) (by decide)
  rw [hleaf, readLeaf_numeral]
  exact readNumber_numeral hzero hv pos rest hrest

theorem takes_quoted (d : Dialect) (room : Nat) (s : String) :
    Takes (readValue d room) (textChars false s.toList) (.text s) := by
  intro pos rest hrest
  obtain ⟨stop, hread⟩ := takes_text d s pos rest hrest
  have hquote : textChars false s.toList ++ rest =
      '"' :: (s.toList.flatMap (charText false) ++ '"' :: rest) := by simp [textChars]
  rw [hquote] at hread
  refine ⟨stop, ?_⟩
  rw [hquote]
  unfold readValue
  simp [hread, bind, Except.bind, pure, Except.pure]

def wholeNumeral (n : Nat) : Numeral :=
  ⟨Text.digitsOf n, [], [], 0, Nat.toDigits_ne_nil, by simpa using isDigit_digitsOf n, .none⟩

theorem wholeNumeral_noZeroAhead (n : Nat) : (wholeNumeral n).NoZeroAhead := by
  by_cases hn : n = 0
  · exact .inl (by rw [hn]; rfl)
  · exact .inr (digitsOf_head hn)

theorem toString_int (i : Int) :
    (toString i).toList = Decimal.signText (i < 0) ++ (wholeNumeral i.natAbs).chars := by
  have hchars (n : Nat) : (wholeNumeral n).chars = Text.digitsOf n := by
    simp [Numeral.chars, wholeNumeral, pointOf]
  rw [hchars]
  cases i with
  | ofNat n =>
    have hneg : ¬Int.ofNat n < 0 := Int.not_lt.mpr (Int.natCast_nonneg n)
    rw [decide_eq_false hneg]
    exact Nat.toList_repr
  | negSucc n =>
    rw [decide_eq_true (Int.negSucc_lt_zero n)]
    show ("-" ++ (n + 1).repr).toList = _
    rw [String.toList_append, Nat.toList_repr]
    rfl

inductive Leaf : Value → List Char → Prop
  | word {w : String × Value} : w ∈ words → Leaf w.2 w.1.toList
  | number {negative : Bool} {x : Numeral} {v : Value} : x.NoZeroAhead →
      numberValue negative x = .ok v → Leaf v (Decimal.signText negative ++ x.chars)
  | quoted (s : String) : Leaf (.text s) (textChars false s.toList)

theorem leaf_int {i : Int} (h : digitCount i.natAbs ≤ Text.longestInteger) :
    Leaf (.int i) (toString i).toList := by
  have hshort : ¬Text.longestInteger < (wholeNumeral i.natAbs).whole.length := by
    rw [wholeNumeral, length_digitsOf]
    exact Nat.not_lt.mpr h
  have hdigits : Text.digitsValue (wholeNumeral i.natAbs).whole = i.natAbs :=
    digitsValue_digitsOf i.natAbs
  have hsigned : (if (decide (i < 0)) = true then -(i.natAbs : Int) else i.natAbs) = i := by
    by_cases hneg : i < 0
    · simp only [hneg, decide_true, if_true]
      omega
    · simp only [hneg, decide_false, Bool.false_eq_true, if_false]
      omega
  rw [toString_int]
  refine .number (wholeNumeral_noZeroAhead _) ?_
  rw [numberValue, if_pos (by rfl), if_neg hshort, hdigits, hsigned]

theorem leaf_float {x : Binary64} (h : x.Canonical) : Leaf (.float x) (floatText x) := by
  cases x with
  | nan => exact .word (w := ("NaN", .float .nan)) (by simp [words])
  | infinite n =>
    cases n with
    | false => exact .word (w := ("Infinity", .float (.infinite false))) (by simp [words])
    | true => exact .word (w := ("-Infinity", .float (.infinite true))) (by simp [words])
  | finite n m e =>
    obtain ⟨x, htext, hparse, hzero, hmark⟩ := Binary64.toChars_numeral n h
    have hmark' : ¬(x.fraction.isEmpty && x.exponent.isEmpty) = true := by
      simpa [imp_iff_not_or] using hmark
    rw [floatText, htext]
    · refine .number hzero ?_
      rw [numberValue, if_neg hmark', hparse]
      rfl
    · simp
    · simp

@[elab_as_elim]
theorem Readable.spread_induction {P : (v : Value) → Readable v → Prop}
    (leaf : ∀ v (h : Readable v), (∀ depth, Leaf v (spread depth v)) → P v h)
    (list : ∀ (items : List Value) (h : ∀ v ∈ items, Readable v), (∀ v hv, P v (h v hv)) →
      P (.list items) (.list h))
    (map : ∀ (members : Members) (hkeys : (members.map Prod.fst).Nodup)
      (h : ∀ m ∈ members, Readable m.2), (∀ m hm, P m.2 (h m hm)) →
      P (.map members) (.map hkeys h))
    {v : Value} (h : Readable v) : P v h := by
  induction h with
  | null => exact leaf _ .null fun _ => .word (w := ("null", .null)) (by simp [words])
  | bool b =>
    cases b with
    | false => exact leaf _ _ fun _ => .word (w := ("false", .bool false)) (by simp [words])
    | true => exact leaf _ _ fun _ => .word (w := ("true", .bool true)) (by simp [words])
  | int hi => exact leaf _ _ fun _ => leaf_int hi
  | float hx => exact leaf _ _ fun _ => leaf_float hx
  | text s => exact leaf _ _ fun _ => .quoted s
  | list hitems ih => exact list _ hitems ih
  | map hkeys hmembers ih => exact map _ hkeys hmembers ih

theorem Leaf.takes {v : Value} {cs : List Char} (h : Leaf v cs) (d : Dialect) (room : Nat) :
    Takes (readValue d room) cs v := by
  cases h with
  | word hw => exact takes_word d room hw
  | number hzero hv => exact takes_numeral d room hzero hv
  | quoted s => exact takes_quoted d room s

def Begins (cs : List Char) : Prop :=
  ∃ c more, cs = c :: more ∧ isSpace c = false ∧ c ≠ ']' ∧ c ≠ '\x7d' ∧ c ≠ byteOrderMark

theorem Begins.append {cs : List Char} (h : Begins cs) (rest : List Char) : Begins (cs ++ rest) := by
  obtain ⟨c, more, rfl, hc⟩ := h
  exact ⟨c, more ++ rest, rfl, hc⟩

theorem Begins.head {cs : List Char} (h : Begins cs) : ∀ c ∈ cs.head?, isSpace c = false := by
  obtain ⟨c, more, rfl, hc, -⟩ := h
  simpa using hc

theorem newLine_space (depth : Nat) : ∀ c ∈ newLine depth, isSpace c = true := by
  intro c hc
  rcases List.mem_cons.mp hc with rfl | hc
  · decide
  · rw [List.eq_of_mem_replicate hc]
    decide

theorem skipSpace_newLine (pos depth : Nat) {rest : List Char}
    (h : ∀ c ∈ rest.head?, isSpace c = false) :
    (Cursor.mk pos (newLine depth ++ rest)).skipSpace = ⟨pos + (newLine depth).length, rest⟩ :=
  Cursor.skipSpace_append pos (newLine depth) (newLine_space depth) h

structure Loop {α : Type} (one : Reader α) (loop : Nat → Reader (List α)) (close : Char) : Prop where
  last : ∀ fuel c a next rest, one c = .ok (a, next) → next.skipSpace.rest = close :: rest →
    loop (fuel + 1) c = .ok ([a], next.skipSpace.skip 1)
  more : ∀ fuel c a next rest as stop, one c = .ok (a, next) → next.skipSpace.rest = ',' :: rest →
    loop fuel (next.skipSpace.skip 1).skipSpace = .ok (as, stop) →
      loop (fuel + 1) c = .ok (a :: as, stop)

theorem loop_items (item : Reader Value) : Loop item (readItems item) ']' where
  last := by
    intro fuel c v next rest hone hclose
    simp [readItems, hone, hclose, bind, Except.bind, pure, Except.pure]
  more := by
    intro fuel c v next rest vs stop hone hcomma hrest
    simp [readItems, hone, hcomma, hrest, bind, Except.bind, pure, Except.pure]

theorem loop_members (d : Dialect) (item : Reader Value) :
    Loop (readMember d item) (readMembers d item) '\x7d' where
  last := by
    intro fuel c m next rest hone hclose
    simp [readMembers, hone, hclose, bind, Except.bind, pure, Except.pure]
  more := by
    intro fuel c m next rest ms stop hone hcomma hrest
    simp [readMembers, hone, hcomma, hrest, bind, Except.bind, pure, Except.pure]

theorem begins_joined (separator : List Char) {pieces : List (List Char)} (hne : pieces ≠ [])
    (h : ∀ p ∈ pieces, Begins p) : Begins (joined separator pieces) := by
  match pieces with
  | [p] => exact h p (by simp)
  | p :: q :: rest =>
    rw [joined, List.append_assoc]
    · exact (h p (by simp)).append _
    · simp

theorem Loop.joined {α : Type} {one : Reader α} {loop : Nat → Reader (List α)} {close : Char}
    (h : Loop one loop close) (hclose : isSpace close = false) {write : α → List Char} {as : List α}
    (hone : ∀ a ∈ as, Takes one (write a) a) (hbegins : ∀ a ∈ as, Begins (write a)) (hne : as ≠ [])
    {fuel : Nat} (hfuel : as.length ≤ fuel) (inner outer pos : Nat) (rest : List Char) :
    ∃ stop, loop fuel ⟨pos, Json.joined (',' :: newLine inner) (as.map write) ++
      (newLine outer ++ close :: rest)⟩ = .ok (as, ⟨stop, rest⟩) := by
  induction as generalizing fuel pos with
  | nil => exact absurd rfl hne
  | cons a as ih =>
    obtain ⟨hfirst, hothers⟩ := List.forall_mem_cons.mp hone
    obtain ⟨-, hbegin⟩ := List.forall_mem_cons.mp hbegins
    cases fuel with
    | zero => exact absurd hfuel (Nat.not_succ_le_zero _)
    | succ fuel =>
      cases as with
      | nil =>
        obtain ⟨middle, hread⟩ := hfirst pos (newLine outer ++ close :: rest)
          (by simpa [Doc.Ends, newLine] using by decide)
        have hend : ∀ c ∈ (close :: rest).head?, isSpace c = false := by simpa using hclose
        have hskip := skipSpace_newLine middle outer hend
        exact ⟨_, (h.last fuel _ _ _ rest hread (by rw [hskip])).trans (by rw [hskip]; rfl)⟩
      | cons b as =>
        let others := Json.joined (',' :: newLine inner) ((b :: as).map write) ++
          (newLine outer ++ close :: rest)
        obtain ⟨middle, hread⟩ := hfirst pos (',' :: (newLine inner ++ others))
          (by simpa [Doc.Ends] using by decide)
        have hothers' : ∀ c ∈ others.head?, isSpace c = false := by
          refine ((begins_joined _ (by simp) fun p hp => ?_).append _).head
          obtain ⟨v, hv, rfl⟩ := List.mem_map.mp hp
          exact hbegin v hv
        have hcomma := Cursor.skipSpace_cons middle (c := ',') (by decide) (newLine inner ++ others)
        have hskip := skipSpace_newLine (middle + 1) inner hothers'
        obtain ⟨stop, hloop⟩ := ih hothers hbegin (by simp) (Nat.le_of_succ_le_succ hfuel)
          (middle + 1 + (newLine inner).length)
        refine ⟨stop, ?_⟩
        have htext : Json.joined (',' :: newLine inner) ((a :: b :: as).map write) ++
            (newLine outer ++ close :: rest) = write a ++ ',' :: (newLine inner ++ others) := by
          simp [Json.joined, others]
        rw [htext]
        refine h.more fuel _ _ _ _ _ _ hread (by rw [hcomma]) ?_
        rw [hcomma]
        exact hskip ▸ hloop

def spreadMember (depth : Nat) (m : String × Value) : List Char :=
  textChars false m.1.toList ++ [':', ' '] ++ spread depth m.2

theorem spreadItems_eq (depth : Nat) (vs : List Value) :
    spreadItems depth vs = vs.map (spread depth) := by
  induction vs with
  | nil => rfl
  | cons v vs ih => rw [spreadItems, ih, List.map_cons]

theorem spreadMembers_eq (depth : Nat) (ms : Members) :
    spreadMembers depth ms = ms.map (spreadMember depth) := by
  induction ms with
  | nil => rfl
  | cons m ms ih => rw [spreadMembers, ih, List.map_cons]; rfl

theorem bracketed_eq (opening closing : Char) (depth : Nat) {pieces : List (List Char)}
    (h : pieces ≠ []) : bracketed opening closing depth pieces =
      opening :: (newLine (depth + 1) ++ (joined (',' :: newLine (depth + 1)) pieces ++
        (newLine depth ++ [closing]))) := by
  simp [bracketed, h]

theorem length_joined (separator p q : List Char) (pieces : List (List Char)) :
    (joined separator (p :: q :: pieces)).length =
      p.length + separator.length + (joined separator (q :: pieces)).length := by
  rw [joined, List.length_append, List.length_append]
  simp

theorem length_mem_joined (separator : List Char) {p : List Char} {pieces : List (List Char)}
    (h : p ∈ pieces) :
    p.length ≤ (joined separator pieces).length := by
  induction pieces with
  | nil => exact nomatch h
  | cons q pieces ih =>
    cases pieces with
    | nil => simp [joined, List.mem_singleton.mp h]
    | cons r pieces =>
      have hlength := length_joined separator q r pieces
      rcases List.mem_cons.mp h with rfl | h
      · omega
      · have hle := ih h
        omega

theorem length_le_joined (separator : List Char) {pieces : List (List Char)}
    (h : ∀ p ∈ pieces, p ≠ []) : pieces.length ≤ (joined separator pieces).length := by
  induction pieces with
  | nil => exact Nat.zero_le _
  | cons q pieces ih =>
    obtain ⟨hq, hpieces⟩ := List.forall_mem_cons.mp h
    have hpos := List.length_pos_iff.mpr hq
    cases pieces with
    | nil => exact hpos
    | cons r pieces =>
      have hlength := length_joined separator q r pieces
      have hle := ih hpieces
      rw [List.length_cons, List.length_cons] at *
      omega

theorem numeral_begins (negative : Bool) (x : Numeral) :
    Begins (Decimal.signText negative ++ x.chars) := by
  obtain ⟨c, more, hchars, hc⟩ := x.exists_digit
  have hne := forall_digit (P := fun d => isSpace d = false ∧ d ≠ ']' ∧ d ≠ '\x7d' ∧
    d ≠ byteOrderMark) (by decide) hc
  rw [hchars]
  cases negative with
  | false => exact ⟨c, more, rfl, hne⟩
  | true => exact ⟨'-', c :: more, rfl, by decide⟩

theorem Leaf.begins {v : Value} {cs : List Char} (h : Leaf v cs) : Begins cs := by
  cases h with
  | word hw =>
    simp only [words, List.mem_cons, List.not_mem_nil, or_false] at hw
    rcases hw with rfl | rfl | rfl | rfl | rfl | rfl <;> exact ⟨_, _, rfl, by decide⟩
  | number => exact numeral_begins _ _
  | quoted s => exact ⟨'"', _, rfl, by decide⟩

theorem bracketed_begins {opening closing : Char} (h : isSpace opening = false ∧ opening ≠ ']' ∧
    opening ≠ '\x7d' ∧ opening ≠ byteOrderMark) (depth : Nat) (pieces : List (List Char)) :
    Begins (bracketed opening closing depth pieces) := by
  unfold bracketed
  split <;> exact ⟨opening, _, rfl, h⟩

theorem spread_begins {v : Value} (h : Readable v) (depth : Nat) : Begins (spread depth v) := by
  induction h using Readable.spread_induction with
  | leaf v _ hleaf => exact (hleaf depth).begins
  | list items _ _ => exact bracketed_begins (by decide) depth _
  | map members _ _ _ => exact bracketed_begins (by decide) depth _

theorem spreadMember_begins (depth : Nat) (m : String × Value) : Begins (spreadMember depth m) :=
  ⟨'"', _, rfl, by decide⟩

theorem takes_member {d : Dialect} {item : Reader Value} {depth : Nat} {m : String × Value}
    (h : Takes item (spread depth m.2) m.2) (hbegins : Begins (spread depth m.2)) :
    Takes (readMember d item) (spreadMember depth m) m := by
  intro pos rest hrest
  obtain ⟨middle, hkey⟩ := takes_text d m.1 pos (':' :: ' ' :: (spread depth m.2 ++ rest))
    (by simpa [Doc.Ends] using by decide)
  obtain ⟨stop, hvalue⟩ := h (middle + 1 + 1) rest hrest
  have hcolon := Cursor.skipSpace_cons middle (c := ':') (by decide)
    (' ' :: (spread depth m.2 ++ rest))
  have hspace := Cursor.skipSpace_append (middle + 1) [' '] (by simp [isSpace])
    (hbegins.append rest).head
  have htext : spreadMember depth m ++ rest =
      textChars false m.1.toList ++ ':' :: ' ' :: (spread depth m.2 ++ rest) := by
    simp [spreadMember]
  have hquote : textChars false m.1.toList ++ ':' :: ' ' :: (spread depth m.2 ++ rest) =
      '"' :: (m.1.toList.flatMap (charText false) ++
        '"' :: ':' :: ' ' :: (spread depth m.2 ++ rest)) := by simp [textChars]
  refine ⟨stop, ?_⟩
  rw [htext, hquote]
  rw [hquote] at hkey
  rw [List.singleton_append] at hspace
  simp [readMember, hkey, hcolon, Cursor.skip, hspace, hvalue, bind, Except.bind, pure, Except.pure]

theorem map_begins {α : Type} {write : α → List Char} {as : List α}
    (h : ∀ a ∈ as, Begins (write a)) : ∀ p ∈ as.map write, Begins p := by
  intro p hp
  obtain ⟨a, ha, rfl⟩ := List.mem_map.mp hp
  exact h a ha

theorem Loop.bracketed {α : Type} {one : Reader α} {loop : Nat → Reader (List α)} {close : Char}
    (h : Loop one loop close) (hclose : close = ']' ∨ close = '\x7d') {write : α → List Char}
    {as : List α} (hone : ∀ a ∈ as, Takes one (write a) a) (hbegins : ∀ a ∈ as, Begins (write a))
    (hne : as ≠ []) (opening : Char) (depth pos : Nat) (rest : List Char) :
    ∃ c more start stop,
      Json.bracketed opening close depth (as.map write) ++ rest =
        opening :: (newLine (depth + 1) ++ c :: more) ∧ c ≠ close ∧
      (Cursor.mk (pos + 1) (newLine (depth + 1) ++ c :: more)).skipSpace = ⟨start, c :: more⟩ ∧
      loop (opening :: (newLine (depth + 1) ++ c :: more)).length ⟨start, c :: more⟩ =
        .ok (as, ⟨stop, rest⟩) := by
  have hpieces : as.map write ≠ [] := by simpa using hne
  have hpiece := map_begins hbegins
  have hbody := (begins_joined (',' :: newLine (depth + 1)) hpieces hpiece).append
    (newLine depth ++ close :: rest)
  have hfuel := length_le_joined (',' :: newLine (depth + 1)) fun p hp => by
    obtain ⟨c, more, rfl, -⟩ := hpiece p hp
    exact List.cons_ne_nil c more
  have hskip := skipSpace_newLine (pos + 1) (depth + 1) hbody.head
  have hspace : isSpace close = false := by rcases hclose with rfl | rfl <;> decide
  obtain ⟨c, more, hcons, -, hlist, hmap, -⟩ := hbody
  rw [hcons] at hskip
  have hlength := congrArg List.length hcons
  have hroom : as.length ≤ (opening :: (newLine (depth + 1) ++ c :: more)).length := by
    simp only [List.length_append, List.length_cons, List.length_map] at hlength hfuel ⊢
    omega
  obtain ⟨stop, hloop⟩ := h.joined hspace hone hbegins hne hroom (depth + 1) depth
    (pos + 1 + (newLine (depth + 1)).length) rest
  rw [hcons] at hloop
  refine ⟨c, more, _, stop, ?_, ?_, hskip, hloop⟩
  · rw [bracketed_eq _ _ _ hpieces, ← hcons]
    simp
  · rcases hclose with rfl | rfl
    · exact hlist
    · exact hmap

theorem takes_list (d : Dialect) {room : Nat} {items : List Value} {depth : Nat}
    (hbegins : ∀ v ∈ items, Begins (spread (depth + 1) v))
    (hitems : ∀ v ∈ items, Takes (readValue d room) (spread (depth + 1) v) v) :
    Takes (readValue d (room + 1)) (spread depth (.list items)) (.list items) := by
  intro pos rest _
  rw [spread, spreadItems_eq]
  by_cases hne : items = []
  · subst hne
    have hclose := Cursor.skipSpace_cons (pos + 1) (c := ']') (by decide) rest
    refine ⟨pos + 1 + 1, ?_⟩
    unfold readValue
    simp [bracketed, Cursor.skip, hclose, pure, Except.pure]
  · obtain ⟨c, more, start, stop, htext, hclose, hskip, hloop⟩ :=
      (loop_items (readValue d room)).bracketed (.inl rfl) hitems hbegins hne '[' depth pos rest
    refine ⟨stop, ?_⟩
    rw [htext]
    simp only [List.length_cons, List.length_append] at hloop
    unfold readValue
    simp [Cursor.skip, hskip, hclose, hloop, bind, Except.bind, pure, Except.pure]

theorem takes_map (d : Dialect) {room : Nat} {members : Members} {depth : Nat}
    (hkeys : (members.map Prod.fst).Nodup)
    (hmembers : ∀ m ∈ members,
      Takes (readMember d (readValue d room)) (spreadMember (depth + 1) m) m) :
    Takes (readValue d (room + 1)) (spread depth (.map members)) (.map members) := by
  intro pos rest _
  rw [spread, spreadMembers_eq]
  by_cases hne : members = []
  · subst hne
    have hclose := Cursor.skipSpace_cons (pos + 1) (c := '\x7d') (by decide) rest
    refine ⟨pos + 1 + 1, ?_⟩
    unfold readValue
    simp [bracketed, Cursor.skip, hclose, pure, Except.pure]
  · obtain ⟨c, more, start, stop, htext, hclose, hskip, hloop⟩ :=
      (loop_members d (readValue d room)).bracketed (.inr rfl) hmembers
        (fun m _ => spreadMember_begins _ m) hne '\x7b' depth pos rest
    refine ⟨stop, ?_⟩
    rw [htext]
    simp only [List.length_cons, List.length_append] at hloop
    unfold readValue
    simp [Cursor.skip, hskip, hclose, hloop, bind, Except.bind, pure, Except.pure,
      Members.ofPairs_eq hkeys]

theorem length_bracketed {opening closing : Char} {depth room : Nat} {pieces : List (List Char)}
    (h : (bracketed opening closing depth pieces).length ≤ room) :
    ∃ below, room = below + 1 ∧ ∀ p ∈ pieces, p.length ≤ below := by
  by_cases hne : pieces = []
  · subst hne
    exact ⟨room - 1, by simp [bracketed] at h; omega, by simp⟩
  · rw [bracketed_eq _ _ _ hne] at h
    simp only [List.length_cons, List.length_append, List.length_nil] at h
    refine ⟨room - 1, by omega, fun p hp => ?_⟩
    have hle := length_mem_joined (',' :: newLine (depth + 1)) hp
    omega

theorem takes_spread (d : Dialect) {v : Value} (h : Readable v) (depth room : Nat)
    (hroom : (spread depth v).length ≤ room) : Takes (readValue d room) (spread depth v) v := by
  induction h using Readable.spread_induction generalizing depth room with
  | leaf v _ hleaf => exact (hleaf depth).takes d room
  | list items hitems ih =>
    rw [spread, spreadItems_eq] at hroom
    obtain ⟨below, rfl, hpieces⟩ := length_bracketed hroom
    exact takes_list d (fun v hv => spread_begins (hitems v hv) _)
      fun v hv => ih v hv _ _ (hpieces _ (List.mem_map_of_mem hv))
  | map members hkeys hmembers ih =>
    rw [spread, spreadMembers_eq] at hroom
    obtain ⟨below, rfl, hpieces⟩ := length_bracketed hroom
    refine takes_map d hkeys fun m hm =>
      takes_member (ih m hm _ _ ?_) (spread_begins (hmembers m hm) _)
    have hpiece := hpieces _ (List.mem_map_of_mem hm)
    simp only [spreadMember, List.length_append] at hpiece
    omega

/-- A value that documents hold is read back from what it is spread to. -/
theorem parseDocument_spread {v : Value} (h : Readable v) :
    parseDocument (spread 0 v ++ ['\n']) = .ok v := by
  obtain ⟨c, more, hcons, hspace, -, -, hmark⟩ := spread_begins h 0
  obtain ⟨stop, hread⟩ := takes_spread ⟨(spread 0 v ++ ['\n']).length, true⟩ h 0
    (spread 0 v ++ ['\n']).length (by simp) 0 ['\n'] (by simpa [Doc.Ends] using by decide)
  have hfirst := Cursor.skipSpace_cons 0 hspace (more ++ ['\n'])
  have hend : ∀ c ∈ ([] : List Char).head?, isSpace c = false := by simp
  have hlast := Cursor.skipSpace_append stop ['\n'] (by simp [isSpace]) hend
  rw [← List.cons_append, ← hcons] at hfirst
  unfold parseDocument parse
  rw [hfirst, if_neg (by simp [hcons, hmark])]
  rw [List.append_nil] at hlast
  simp only [List.length_append, List.length_cons, List.length_nil, Nat.zero_add] at hread
  simp [hread, hlast, bind, Except.bind, pure, Except.pure]

end LedgerRules.Json
