import LedgerRules.Numeric.Binary64
import LedgerRules.Proofs.ConditionGrammar
import LedgerRules.Proofs.DecimalValue

/-! Texts put together from pieces. Each piece spells some terminals in front of what follows it,
and pieces that do so one after the other spell their terminals together. Texts in quotes and
numbers in plain notation spell their values. -/

namespace LedgerRules.Condition
open Numeric Text

def Spells (cs : List Char) (w : List Terminal) (rest : List Char) : Prop :=
  ∃ ts pos, Scanned (cs ++ rest) ts pos rest ∧ terminals ts = w

theorem terminals_append (ts us : List Token) :
    terminals (ts ++ us) = terminals ts ++ terminals us := List.filterMap_append

theorem Scanned.trans {source middle rest : List Char} {ts us : List Token} {pos stop : Nat}
    (h : Scanned source ts pos middle) (h' : Scanned middle us stop rest) :
    ∃ us' stop', Scanned source (ts ++ us') stop' rest ∧
      us'.map Token.content = us.map Token.content := by
  induction h' with
  | start => exact ⟨[], pos, by simpa using h, rfl⟩
  | blank _ hb ih =>
    obtain ⟨us', stop', hs, hc⟩ := ih
    exact ⟨us', stop' + 1, hs.blank hb, hc⟩
  | @token us stop c rest after t _ hb hr ih =>
    obtain ⟨us', stop', hs, hc⟩ := ih
    obtain ⟨-, hreads⟩ := readToken_ok hb hr
    have hagain := hreads.again stop' c rest after hreads.ends hreads.piece
    refine ⟨us' ++ [{ t with pos := stop' }], stop' + t.text.length, ?_, ?_⟩
    · rw [← List.append_assoc]
      exact hs.token hb hagain
    · simp [hc, Token.content]

theorem Spells.append {a b rest : List Char} {v w : List Terminal} (h : Spells a v (b ++ rest))
    (h' : Spells b w rest) : Spells (a ++ b) (v ++ w) rest := by
  obtain ⟨ts, pos, hs, rfl⟩ := h
  obtain ⟨us, stop, hs', rfl⟩ := h'
  obtain ⟨us', stop', hboth, hc⟩ := hs.trans hs'
  rw [← List.append_assoc] at hboth
  refine ⟨ts ++ us', stop', hboth, ?_⟩
  rw [terminals_append, terminals_eq_of_content hc]

theorem Spells.nil (rest : List Char) : Spells [] [] rest := ⟨[], 0, .start, rfl⟩

theorem Scanned.skip {source front rest : List Char} {ts : List Token} {pos : Nat}
    (h : Scanned source ts pos (front ++ rest)) (hb : ∀ c ∈ front, isBlank c = true) :
    Scanned source ts (pos + front.length) rest := by
  induction front generalizing pos with
  | nil => exact h
  | cons c front ih =>
    obtain ⟨hc, hfront⟩ := List.forall_mem_cons.mp hb
    have hall := ih (h.blank hc) hfront
    rwa [Nat.add_assoc, Nat.add_comm 1] at hall

theorem Spells.blanks {cs : List Char} (h : ∀ c ∈ cs, isBlank c = true) (rest : List Char) :
    Spells cs [] rest :=
  ⟨[], _, Scanned.start.skip h, rfl⟩

theorem Spells.token {cs rest : List Char} {c : Char} {more : List Char} {t : Token} {x : Terminal}
    (hb : isBlank c = false) (hcs : cs ++ rest = c :: more)
    (h : readToken 0 c more = .ok (t, rest)) (hx : t.terminal? = some x) : Spells cs [x] rest := by
  have hstart : Scanned (cs ++ rest) [] 0 (c :: more) := hcs ▸ .start
  exact ⟨[t], _, hstart.token hb h, by simp [terminals, hx]⟩

theorem Spells.tokens {cs : List Char} {w : List Terminal} (h : Spells cs w []) :
    ∃ ts, tokens cs = .ok ts ∧ terminals ts = w := by
  obtain ⟨ts, pos, hs, rfl⟩ := h
  rw [List.append_nil] at hs
  refine ⟨_, tokens_eq_ok_iff.mpr ⟨ts, pos, hs, rfl⟩, ?_⟩
  rw [terminals_append]
  exact List.append_nil _

def Separates (rest : List Char) : Prop :=
  (∀ d ∈ rest.head?, isDecimalDigit d = false ∧ isWordPart d = false ∧ d ≠ '=') ∧
    ∀ d more, rest = '.' :: d :: more → isDecimalDigit d = false

theorem Separates.nil : Separates [] := ⟨by simp, nofun⟩

theorem Separates.cons {c : Char} (rest : List Char)
    (h : isDecimalDigit c = false ∧ isWordPart c = false ∧ c ≠ '=') (hp : c ≠ '.') :
    Separates (c :: rest) := by
  constructor
  · intro d hd
    obtain rfl : c = d := by simpa using hd
    exact h
  · intro d more hd
    exact absurd (List.cons.inj hd).1 hp

theorem Separates.point {d : Char} (rest : List Char) (h : isDecimalDigit d = false) :
    Separates ('.' :: d :: rest) := by
  constructor
  · intro c hc
    obtain rfl : '.' = c := by simpa using hc
    decide
  · intro c more hc
    obtain ⟨-, htail⟩ := List.cons.inj hc
    obtain ⟨rfl, -⟩ := List.cons.inj htail
    exact h

theorem Separates.blank {c : Char} (rest : List Char) (h : isBlank c = true) :
    Separates (c :: rest) := by
  have hb := isBlank_iff.mp h
  refine .cons rest ⟨isDecimalDigit_of_isBlank h, isWordPart_of_isBlank h, ?_⟩ ?_
  · rintro rfl
    simp at hb
  · rintro rfl
    simp at hb

theorem Separates.numberEnds {rest : List Char} (h : Separates rest) (fraction : List Char) :
    NumberEnds fraction rest :=
  ⟨fun d hd => (h.1 d hd).1, fun _ => h.2⟩

theorem isFlagChar_of_isWordPart {c : Char} (h : isWordPart c = false) : isFlagChar c = false := by
  by_contra hf
  simp [isWordPart, isWordStart, hf] at h

theorem Token.EndsBefore.separated {t : Token} {after rest : List Char} (h : t.EndsBefore after)
    (hs : Separates rest) : t.EndsBefore (after ++ rest) := by
  -- What follows the token begins as before, or with what separates.
  have hhead : ∀ d ∈ (after ++ rest).head?, d ∈ after.head? ∨ d ∈ rest.head? := by
    intro d hd
    cases after with
    | nil => exact .inr hd
    | cons x xs => exact .inl hd
  unfold Token.EndsBefore at h ⊢
  split at h
  next => trivial
  next =>
    obtain ⟨fraction, hempty, hdigit, hpoint⟩ := h
    refine ⟨fraction, hempty, ?_, ?_⟩
    · intro d hd
      rcases hhead d hd with hd | hd
      · exact hdigit d hd
      · exact (hs.1 d hd).1
    · intro hf d more hd
      cases after with
      | nil => exact hs.2 d more hd
      | cons x xs =>
        obtain ⟨rfl, htail⟩ := List.cons.inj hd
        cases xs with
        | nil =>
          have hmem : d ∈ rest.head? := by simp [show rest = d :: more from htail]
          exact (hs.1 d hmem).1
        | cons y ys =>
          obtain ⟨rfl, -⟩ := List.cons.inj htail
          exact hpoint hf y ys rfl
  next =>
    intro d hd
    rcases hhead d hd with hd | hd
    · exact h d hd
    · exact isFlagChar_of_isWordPart (hs.1 d hd).2.1
  next =>
    intro d hd
    rcases hhead d hd with hd | hd
    · exact h d hd
    · exact (hs.1 d hd).2.1
  next =>
    intro hsym he
    rcases hhead '=' he with he | he
    · exact h hsym he
    · exact (hs.1 '=' he).2.2 rfl
  next => trivial

theorem Scanned.extend {cs after rest : List Char} {ts : List Token} {pos : Nat}
    (h : Scanned cs ts pos after) (hs : Separates rest) :
    Scanned (cs ++ rest) ts pos (after ++ rest) := by
  induction h with
  | start => exact .start
  | blank _ hb ih => exact ih.blank hb
  | @token ts pos c more after t _ hb hr ih =>
    obtain ⟨rfl, hreads⟩ := readToken_ok hb hr
    refine ih.token hb (hreads.again _ c (more ++ rest) (after ++ rest) ?_ ?_)
    · exact hreads.ends.separated hs
    · rw [← List.append_assoc, hreads.piece, List.cons_append]

theorem spells_of_tokens {cs rest : List Char} {ts : List Token} (h : tokens cs = .ok ts)
    (hs : Separates rest) : Spells cs (terminals ts) rest := by
  obtain ⟨init, stop, hscan, rfl⟩ := tokens_eq_ok_iff.mp h
  refine ⟨init, stop, by simpa using hscan.extend hs, ?_⟩
  rw [terminals_append]
  exact (List.append_nil _).symm

theorem eq_trimStart_append (cs : List Char) :
    ∃ blanks, cs = blanks ++ trimStart cs ∧ ∀ c ∈ blanks, isBlank c = true :=
  ⟨cs.takeWhile isBlank, List.takeWhile_append_dropWhile.symm,
    fun _ hc => List.mem_takeWhile_imp hc⟩

theorem spells_of_trim {cs rest : List Char} {ts : List Token} (h : tokens (trim cs) = .ok ts)
    (hs : Separates rest) : Spells cs (terminals ts) rest := by
  obtain ⟨front, hfront, hbf⟩ := eq_trimStart_append cs
  obtain ⟨back, hback, hbb⟩ := eq_trimEnd_append (trimStart cs)
  have hcut : cs = front ++ (trim cs ++ back) := by rw [trim, ← hback, ← hfront]
  have hsep : Separates (back ++ rest) := by
    cases back with
    | nil => exact hs
    | cons c more => exact .blank _ (hbb c List.mem_cons_self)
  have hmiddle := (spells_of_tokens h hsep).append (Spells.blanks hbb rest)
  have hall := (Spells.blanks hbf (trim cs ++ back ++ rest)).append hmiddle
  rw [← hcut, List.append_nil, List.nil_append] at hall
  exact hall

def Symbol.isPlain : Symbol → Bool
  | openParen => true
  | closeParen => true
  | comma => true
  | minus => true
  | _ => false

theorem spells_plain {s : Symbol} (h : s.isPlain = true) (rest : List Char) :
    Spells s.text.toList [.symbol s] rest := by
  have hread : ∃ c, s.text.toList = [c] ∧ isBlank c = false ∧
      readToken 0 c rest = .ok (⟨.symbol s, s.text, 0⟩, rest) := by
    cases s with
    | openParen => exact ⟨'(', rfl, by decide, rfl⟩
    | closeParen => exact ⟨')', rfl, by decide, rfl⟩
    | comma => exact ⟨',', rfl, by decide, rfl⟩
    | minus => exact ⟨'-', rfl, by decide, rfl⟩
    | _ => simp [Symbol.isPlain] at h
  obtain ⟨c, htext, hb, hread⟩ := hread
  exact .token hb (by rw [htext]; rfl) hread rfl

def escaped (c : Char) : List Char :=
  if c = '"' then ['\\', '"']
  else if c = '\\' then ['\\', '\\']
  else if c = '\n' then ['\\', 'n']
  else if c = '\t' then ['\\', 't']
  else if c = '\r' then ['\\', 'r']
  else [c]

def quoted (s : String) : List Char := '"' :: (s.toList.flatMap escaped ++ ['"'])

/-- How a character can stand between quotes: a quote and a backslash with a backslash in front, the
ends of lines, a slash and an apostrophe raw or as an escape, every other character raw. -/
inductive Encodes : Char → List Char → Prop
  | raw {c : Char} : c ≠ '"' → c ≠ '\\' → Encodes c [c]
  | quote : Encodes '"' ['\\', '"']
  | apostrophe : Encodes '\'' ['\\', '\'']
  | backslash : Encodes '\\' ['\\', '\\']
  | slash : Encodes '/' ['\\', '/']
  | newline : Encodes '\n' ['\\', 'n']
  | tab : Encodes '\t' ['\\', 't']
  | carriageReturn : Encodes '\r' ['\\', 'r']

inductive BodyOf : List Char → List Char → Prop
  | nil : BodyOf [] []
  | cons {c : Char} {piece cs body : List Char} :
      Encodes c piece → BodyOf cs body → BodyOf (c :: cs) (piece ++ body)

theorem encodes_escaped (c : Char) : Encodes c (escaped c) := by
  unfold escaped
  split_ifs with hq hs hn ht hr
  · exact hq ▸ .quote
  · exact hs ▸ .backslash
  · exact hn ▸ .newline
  · exact ht ▸ .tab
  · exact hr ▸ .carriageReturn
  · exact .raw hq hs

theorem bodyOf_escaped (cs : List Char) : BodyOf cs (cs.flatMap escaped) := by
  induction cs with
  | nil => exact .nil
  | cons c cs ih => exact .cons (encodes_escaped c) ih

theorem Encodes.readText {c : Char} {piece : List Char} (h : Encodes c piece) (start pos : Nat)
    (value rest : List Char) : Condition.readText start pos value (piece ++ rest) =
      Condition.readText start (pos + piece.length) (c :: value) rest := by
  cases h with
  | raw hq hb =>
    rw [List.singleton_append, Condition.readText]
    · rfl
    · exact hq
    · exact fun hc => absurd hc hb
    · exact fun _ _ hc => absurd hc hb
  | _ => rfl

theorem BodyOf.readText {cs body : List Char} (h : BodyOf cs body) (start pos : Nat)
    (value rest : List Char) : Condition.readText start pos value (body ++ rest) =
      Condition.readText start (pos + body.length) (cs.reverse ++ value) rest := by
  induction h generalizing pos value with
  | nil => rfl
  | cons hc _ ih =>
    rw [List.append_assoc, hc.readText, ih, List.length_append, List.reverse_cons,
      List.append_assoc, List.singleton_append, Nat.add_assoc pos]

def inQuotes (body : List Char) : List Char := '"' :: (body ++ ['"'])

theorem BodyOf.readToken {cs body : List Char} (h : BodyOf cs body) (pos : Nat)
    (rest : List Char) : Condition.readToken pos '"' (body ++ '"' :: rest) =
      .ok (⟨.text (String.ofList cs), String.ofList (inQuotes body), pos⟩, rest) := by
  have hvalue : Condition.readText pos (pos + 1) [] (body ++ '"' :: rest) =
      .ok (cs, pos + 1 + body.length + 1, rest) := by
    rw [h.readText, List.append_nil, Condition.readText, List.reverse_reverse]
  simp only [Condition.readToken, if_true, hvalue, take_literal, inQuotes]

theorem spells_quoted (s : String) (rest : List Char) : Spells (quoted s) [.text s] rest := by
  have hcs : quoted s ++ rest = '"' :: (s.toList.flatMap escaped ++ '"' :: rest) := by
    simp [quoted]
  have hread := (bodyOf_escaped s.toList).readToken 0 rest
  exact .token (by decide) hcs hread (by rw [String.ofList_toList]; rfl)

theorem isDecimalDigit_of_isDigit {c : Char} (h : c.isDigit = true) :
    isDecimalDigit c = true ∧ (digitValue? c).getD 0 = c.toNat - '0'.toNat := by
  have hrange : 48 ≤ c.toNat ∧ c.toNat ≤ 57 := by
    simp only [Char.isDigit, Bool.and_eq_true, decide_eq_true_eq, ge_iff_le,
      UInt32.le_iff_toNat_le] at h
    exact h
  have hvalue : digitValue? c = some (c.toNat - 48) := by
    unfold digitValue?
    rw [if_pos (by omega), if_pos (by simpa using hrange)]
  exact ⟨by rw [isDecimalDigit, hvalue]; rfl, by rw [hvalue]; rfl⟩

theorem digitsValue_eq {cs : List Char} (h : ∀ c ∈ cs, c.isDigit = true) :
    digitsValue cs = Nat.ofDigitChars 10 cs 0 := by
  have hfold : ∀ n, cs.foldl (fun n c => 10 * n + (digitValue? c).getD 0) n =
      Nat.ofDigitChars 10 cs n := by
    induction cs with
    | nil => exact fun _ => rfl
    | cons c cs ih =>
      obtain ⟨hc, hcs⟩ := List.forall_mem_cons.mp h
      intro n
      rw [List.foldl_cons, (isDecimalDigit_of_isDigit hc).2, Nat.ofDigitChars_cons, ih hcs]
  rw [digitsValue_eq_foldl]
  exact hfold 0

theorem isDigit_zeros (n : Nat) : ∀ c ∈ List.replicate n '0', c.isDigit = true := by
  intro c hc
  rw [List.eq_of_mem_replicate hc]
  decide

theorem isDigit_digitsOf (n : Nat) : ∀ c ∈ digitsOf n, c.isDigit = true :=
  fun _ hc => Nat.isDigit_of_mem_toDigits (by decide) (by decide) hc

theorem digitsValue_digitsOf (n : Nat) : digitsValue (digitsOf n) = n := by
  rw [digitsValue_eq (isDigit_digitsOf n)]
  exact Nat.ofDigitChars_toDigits (by decide) (by decide)

theorem digitsValue_zeros (n : Nat) (cs : List Char) :
    digitsValue (List.replicate n '0' ++ cs) = digitsValue cs := by
  rw [digitsValue_eq_foldl, digitsValue_eq_foldl]
  induction n with
  | zero => rfl
  | succ n ih =>
    rw [List.replicate_succ, List.cons_append, ← ih]
    rfl

theorem digitsValue_append_digits (cs ds : List Char) :
    digitsValue (cs ++ ds) = digitsValue cs * 10 ^ ds.length + digitsValue ds := by
  induction ds using List.reverseRecOn with
  | nil => simp [digitsValue_eq_foldl]
  | append_singleton ds d ih =>
    rw [← List.append_assoc, digitsValue_append, digitsValue_append, ih, List.length_append,
      List.length_singleton, pow_succ]
    ring

theorem digitsValue_append_zeros (cs : List Char) (n : Nat) :
    digitsValue (cs ++ List.replicate n '0') = digitsValue cs * 10 ^ n := by
  have hzeros := digitsValue_zeros n []
  rw [List.append_nil] at hzeros
  rw [digitsValue_append_digits, hzeros, List.length_replicate]
  rfl

theorem placePoint_cut {digits : List Char} (hne : digits ≠ [])
    (hd : ∀ c ∈ digits, c.isDigit = true) (e : Int) :
    ∃ whole fraction, Decimal.placePoint digits (e + digits.length) =
        whole ++ pointOf fraction ++ fraction ∧ whole ≠ [] ∧
      (∀ c ∈ whole ++ fraction, c.isDigit = true) ∧
      digitsValue (whole ++ fraction) = digitsValue digits * 10 ^ e.toNat ∧
      fraction.length = (-e).toNat ∧ (whole = ['0'] ∨ whole.head? = digits.head?) := by
  have hpos : 0 < digits.length := List.length_pos_iff.mpr hne
  unfold Decimal.placePoint
  split
  next hpoint =>
    have hexp : e.toNat = 0 := by omega
    refine ⟨['0'], List.replicate (-(e + digits.length)).toNat '0' ++ digits, ?_, by simp, ?_, ?_,
      ?_, .inl rfl⟩
    · simp [pointOf, hne]
    · rw [← List.append_assoc, ← List.replicate_one, List.replicate_append_replicate]
      exact List.forall_mem_append.mpr ⟨isDigit_zeros _, hd⟩
    · rw [← List.append_assoc, ← List.replicate_one, List.replicate_append_replicate,
        digitsValue_zeros, hexp, Nat.pow_zero, Nat.mul_one]
    · rw [List.length_append, List.length_replicate]
      omega
  next hpoint =>
    split
    next hfull =>
      have hzeros : (e + digits.length).toNat - digits.length = e.toNat := by omega
      rw [hzeros]
      refine ⟨digits ++ List.replicate e.toNat '0', [], by simp [pointOf], by simp [hne], ?_, ?_,
        ?_, .inr (List.head?_append_of_ne_nil _ hne)⟩
      · rw [List.append_nil]
        exact List.forall_mem_append.mpr ⟨hd, isDigit_zeros _⟩
      · rw [List.append_nil, digitsValue_append_zeros]
      · rw [List.length_nil]
        omega
    next hfull =>
      have hexp : e.toNat = 0 := by omega
      have hcut := List.take_append_drop (e + digits.length).toNat digits
      have hlength : (digits.drop (e + digits.length).toNat).length = (-e).toNat := by
        rw [List.length_drop]
        omega
      have hfraction : (digits.drop (e + digits.length).toNat).isEmpty = false := by
        rw [List.isEmpty_eq_false_iff, ← List.length_pos_iff, hlength]
        omega
      have hwhole : digits.take (e + digits.length).toNat ≠ [] := by
        rw [← List.length_pos_iff, List.length_take]
        omega
      have hhead : (digits.take (e + digits.length).toNat).head? = digits.head? := by
        rw [List.head?_take, if_neg (by omega)]
      refine ⟨_, _, ?_, hwhole, ?_, ?_, hlength, .inr hhead⟩
      · simp [pointOf, hfraction]
      · rw [hcut]
        exact hd
      · rw [hcut, hexp, Nat.pow_zero, Nat.mul_one]

theorem readToken_digits {c : Char} {more fraction rest : List Char}
    (hd : ∀ d ∈ c :: more ++ fraction, isDecimalDigit d = true) (hr : NumberEnds fraction rest)
    (pos : Nat) : readToken pos c (more ++ pointOf fraction ++ fraction ++ rest) =
      .ok (⟨.number (numberValue (c :: more) fraction),
        String.ofList (c :: more ++ pointOf fraction ++ fraction), pos⟩, rest) := by
  obtain ⟨hwhole, hfraction⟩ := List.forall_mem_append.mp hd
  have hsplit := splitNumber_append hwhole hfraction hr
  have hdigit := hwhole c List.mem_cons_self
  have hlike : isDigitLike c = true := by rw [isDigitLike, hdigit]; rfl
  have hquote : c ≠ '"' := by
    rintro rfl
    simp [show isDecimalDigit '"' = false by decide] at hdigit
  simp only [List.cons_append] at hsplit
  simp only [readToken, hquote, hlike, hdigit, if_true, if_false, hsplit]
  rfl

theorem isBlank_of_isDecimalDigit {c : Char} (h : isDecimalDigit c = true) : isBlank c = false := by
  by_contra hb
  rw [isDecimalDigit_of_isBlank (by simpa using hb)] at h
  simp at h

theorem spells_number {whole fraction rest : List Char} (hne : whole ≠ [])
    (hd : ∀ c ∈ whole ++ fraction, isDecimalDigit c = true) (hr : NumberEnds fraction rest) :
    Spells (whole ++ pointOf fraction ++ fraction) [.number (numberValue whole fraction)] rest := by
  obtain ⟨c, more, rfl⟩ := List.exists_cons_of_ne_nil hne
  have hblank := isBlank_of_isDecimalDigit (hd c List.mem_cons_self)
  exact .token hblank (by simp only [List.cons_append]) (readToken_digits hd hr 0) rfl

theorem positionalText_eq (n : Nat) (k : Int) : Binary64.positionalText n k =
    Decimal.placePoint (digitsOf n) (k + (digitsOf n).length) := by
  rw [Binary64.positionalText, length_digitsOf]

theorem spells_plainNumber (c : Nat) (e : Int) {rest : List Char} (hr : Separates rest) :
    ∃ c' e', Spells (Binary64.positionalText c e) [.number (.finite false c' e')] rest ∧
      magnitude c' e' = magnitude c e := by
  obtain ⟨whole, fraction, htext, hne, hd, hvalue, hlength, -⟩ :=
    placePoint_cut (show digitsOf c ≠ [] from Nat.toDigits_ne_nil) (isDigit_digitsOf c) e
  rw [digitsValue_digitsOf] at hvalue
  rw [← positionalText_eq] at htext
  refine ⟨digitsValue (whole ++ fraction), -(fraction.length : Int), ?_, ?_⟩
  · rw [htext]
    exact spells_number hne (fun c hc => (isDecimalDigit_of_isDigit (hd c hc)).1)
      (hr.numberEnds fraction)
  · rw [hvalue, magnitude_scale]
    congr 1
    omega

end LedgerRules.Condition
