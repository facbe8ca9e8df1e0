import LedgerRules.Condition.Lexer
import Mathlib.Data.List.DropRight
import Mathlib.Data.List.TakeWhile

/-! How a text is cut into tokens. `Scanned` says which tokens have been cut off the front of a text
and what is left of it; all that the tokens of a text are, and why there may be none, is read off
from it. Every token is the piece of the text it was cut from, and blanks at the two ends of a text
leave no trace but in the positions. -/

namespace LedgerRules.Text

theorem trimStart_trimStart (cs : List Char) : trimStart (trimStart cs) = trimStart cs :=
  List.dropWhile_idempotent ..

theorem trimEnd_trimEnd (cs : List Char) : trimEnd (trimEnd cs) = trimEnd cs :=
  List.rdropWhile_idempotent ..

theorem eq_trimEnd_append (cs : List Char) :
    ∃ blanks, cs = trimEnd cs ++ blanks ∧ ∀ c ∈ blanks, isBlank c = true := by
  refine ⟨(cs.reverse.takeWhile isBlank).reverse, ?_, fun c hc => ?_⟩
  · rw [trimEnd, ← List.reverse_append, List.takeWhile_append_dropWhile, List.reverse_reverse]
  · exact List.mem_takeWhile_imp (List.mem_reverse.mp hc)

theorem isBlank_of_trimStart {cs rest : List Char} {c : Char} (h : trimStart cs = c :: rest) :
    isBlank c = false := by
  have hne : cs.dropWhile isBlank ≠ [] := by
    intro he
    simp [trimStart, he] at h
  have hc := List.head_dropWhile_not isBlank hne
  have hh : (cs.dropWhile isBlank).head hne = c := by
    simp only [show cs.dropWhile isBlank = c :: rest from h, List.head_cons]
  simpa [hh] using hc

theorem trimStart_trimEnd {cs : List Char} (h : trimStart cs = cs) :
    trimStart (trimEnd cs) = trimEnd cs := by
  cases hc : trimEnd cs with
  | nil => rfl
  | cons c rest =>
    obtain ⟨blanks, hb, -⟩ := eq_trimEnd_append cs
    rw [hc] at hb
    have hn : isBlank c = false := isBlank_of_trimStart (h.trans hb)
    simp [trimStart, hn]

theorem trim_trim (cs : List Char) : trim (trim cs) = trim cs := by
  have hs : trimStart (trim cs) = trim cs := trimStart_trimEnd (trimStart_trimStart cs)
  calc trim (trim cs) = trimEnd (trim cs) := by rw [trim, hs]
    _ = trim cs := trimEnd_trimEnd _

theorem trim_enclosed {c d : Char} (hc : isBlank c = false) (hd : isBlank d = false)
    (cs : List Char) : trim (c :: (cs ++ [d])) = c :: (cs ++ [d]) := by
  simp [trim, trimStart, trimEnd, hc, hd]

theorem trim_append_blank {cs : List Char} {b : Char} (hb : isBlank b = true) :
    trim (cs ++ [b]) = trim cs := by
  have hlast : ∀ ds, trimEnd (ds ++ [b]) = trimEnd ds := by
    intro ds
    simp [trimEnd, hb]
  rw [trim, trim, trimStart, trimStart, List.dropWhile_append]
  split
  next hall =>
    rw [List.isEmpty_iff.mp hall]
    simp [hb]
  next => exact hlast _

theorem trim_blank_cons {cs : List Char} {b : Char} (hb : isBlank b = true) :
    trim (b :: cs) = trim cs := by
  simp [trim, trimStart, hb]

theorem trim_padded {before after : List Char} (hbefore : ∀ b ∈ before, isBlank b = true)
    (hafter : ∀ b ∈ after, isBlank b = true) (cs : List Char) :
    trim (before ++ cs ++ after) = trim cs := by
  have hend (ds : List Char) : trim (ds ++ after) = trim ds := by
    induction after generalizing ds with
    | nil => rw [List.append_nil]
    | cons b after ih =>
      rw [List.forall_mem_cons] at hafter
      rw [List.append_cons, ih hafter.2, trim_append_blank hafter.1]
  rw [hend]
  induction before with
  | nil => rfl
  | cons b before ih =>
    rw [List.forall_mem_cons] at hbefore
    rw [List.cons_append, trim_blank_cons hbefore.1, ih hbefore.2]

theorem trimmed_trimmed (s : String) : trimmed (trimmed s) = trimmed s := by
  simp [trimmed, trim_trim]

end LedgerRules.Text

namespace LedgerRules.Condition
open Text

theorem isBlank_iff {c : Char} : isBlank c = true ↔
    (0x9 ≤ c.toNat ∧ c.toNat ≤ 0xD) ∨ (0x1C ≤ c.toNat ∧ c.toNat ≤ 0x20) ∨ c.toNat = 0x85 ∨
      c.toNat = 0xA0 ∨ c.toNat = 0x1680 ∨ (0x2000 ≤ c.toNat ∧ c.toNat ≤ 0x200A) ∨
      (0x2028 ≤ c.toNat ∧ c.toNat ≤ 0x2029) ∨ c.toNat = 0x202F ∨ c.toNat = 0x205F ∨
      c.toNat = 0x3000 := by
  simp only [isBlank, Spans.holds_iff, blankSpans, List.mem_cons, List.not_mem_nil, or_false,
    exists_eq_or_imp, exists_eq_left]
  omega

theorem digitZeros_unblank :
    ∀ z ∈ digitZeros, ∀ s ∈ blankSpans, z + 9 < s.1 ∨ s.2 < z := by decide

theorem isDecimalDigit_of_isBlank {c : Char} (h : isBlank c = true) : isDecimalDigit c = false := by
  obtain ⟨s, hs, hlow, hhigh⟩ := Spans.holds_iff.mp h
  by_contra hd
  simp only [isDecimalDigit, digitValue?, Bool.not_eq_false] at hd
  split at hd
  · split at hd
    · next hz =>
      have := isBlank_iff.mp h
      simp only [Bool.and_eq_true, decide_eq_true_eq] at hz
      omega
    · simp at hd
  · simp only [Option.isSome_map, List.find?_isSome, Bool.and_eq_true, decide_eq_true_eq] at hd
    obtain ⟨z, hz, hzl, hzh⟩ := hd
    have := digitZeros_unblank z hz s hs
    omega

theorem isFlagChar_of_isBlank {c : Char} (h : isBlank c = true) : isFlagChar c = false := by
  have := isBlank_iff.mp h
  simp only [isFlagChar, Bool.or_eq_false_iff, Bool.and_eq_false_iff, decide_eq_false_iff_not]
  omega

theorem isWordPart_of_isBlank {c : Char} (h : isBlank c = true) : isWordPart c = false := by
  have hb := isBlank_iff.mp h
  have hu : c ≠ '_' := by
    rintro rfl
    simp at hb
  have hd : c ≠ '$' := by
    rintro rfl
    simp at hb
  have hn : ¬ (0x30 ≤ c.toNat ∧ c.toNat ≤ 0x39) := by omega
  simpa [isWordPart, isWordStart, isFlagChar_of_isBlank h, hu, hd] using hn

theorem takeWhile_append {p : Char → Bool} {w rest : List Char} (hw : ∀ x ∈ w, p x = true)
    (hr : ∀ d ∈ rest.head?, p d = false) :
    (w ++ rest).takeWhile p = w ∧ (w ++ rest).dropWhile p = rest := by
  rw [List.takeWhile_append_of_pos hw, List.dropWhile_append_of_pos hw]
  cases rest with
  | nil => simp
  | cons d ds => simp [hr d rfl]

theorem readText_ok {start pos stop : Nat} {value cs v rest : List Char}
    (h : readText start pos value cs = .ok (v, stop, rest)) :
    ∃ body, cs = body ++ '"' :: rest ∧ stop = pos + body.length + 1 ∧ ∀ start' pos' rest',
      readText start' pos' value (body ++ '"' :: rest') =
        .ok (v, pos' + body.length + 1, rest') := by
  fun_induction readText start pos value cs with
  | case1 => simp at h
  | case2 pos value more =>
    obtain ⟨rfl, rfl, rfl⟩ : value.reverse = v ∧ pos + 1 = stop ∧ more = rest := by simpa using h
    exact ⟨[], by simp [readText]⟩
  | case3 => simp at h
  | case4 pos value c more d hd ih =>
    obtain ⟨body, rfl, rfl, hr⟩ := ih h
    refine ⟨'\\' :: c :: body, by simp, by simp; omega, fun start' pos' rest' => ?_⟩
    simp only [List.cons_append, readText, hd, hr]
    simp only [List.length_cons]
    congr 3
    omega
  | case5 => simp at h
  | case6 pos value c more hquote hlone hescape ih =>
    obtain ⟨body, rfl, rfl, hr⟩ := ih h
    refine ⟨c :: body, by simp, by simp; omega, fun start' pos' rest' => ?_⟩
    have hslash : c ≠ '\\' := by
      rintro rfl
      cases body with
      | nil => exact hescape _ _ rfl rfl
      | cons b bs => exact hescape _ _ rfl rfl
    rw [List.cons_append, readText, hr]
    · simp only [List.length_cons]
      congr 3
      omega
    · exact hquote
    · exact fun hc => absurd hc hslash
    · exact fun _ _ hc => absurd hc hslash

theorem readPatternBody_ok {inSet : Bool} {body cs b rest : List Char}
    (h : readPatternBody inSet body cs = some (b, rest)) :
    ∃ more, b = body.reverse ++ more ∧ cs = more ++ '/' :: rest ∧
      ∀ rest', readPatternBody inSet body (more ++ '/' :: rest') = some (b, rest') := by
  fun_induction readPatternBody inSet body cs with
  | case1 => simp at h
  | case2 => simp at h
  | case3 inSet body c tail ih =>
    obtain ⟨m, hb, rfl, hr⟩ := ih h
    exact ⟨'\\' :: c :: m, by simp [hb], by simp, fun rest' => by simp [readPatternBody, hr]⟩
  | case4 => simp at h
  | case5 inSet body tail ih =>
    obtain ⟨m, hb, rfl, hr⟩ := ih h
    exact ⟨'[' :: m, by simp [hb], by simp, fun rest' => by simp [readPatternBody, hr]⟩
  | case6 inSet body tail ih =>
    obtain ⟨m, hb, rfl, hr⟩ := ih h
    exact ⟨']' :: m, by simp [hb], by simp, fun rest' => by simp [readPatternBody, hr]⟩
  | case7 body tail =>
    obtain ⟨rfl, rfl⟩ : body.reverse = b ∧ tail = rest := by simpa using h
    exact ⟨[], by simp, by simp, fun rest' => by simp [readPatternBody]⟩
  | case8 inSet body c tail hlone hescape hline hopen hclose hslash ih =>
    obtain ⟨m, hb, rfl, hr⟩ := ih h
    refine ⟨c :: m, by simp [hb], by simp, fun rest' => ?_⟩
    have hback : c ≠ '\\' := by
      rintro rfl
      cases m with
      | nil => exact hescape _ _ rfl rfl
      | cons d ds => exact hescape _ _ rfl rfl
    rw [List.cons_append, readPatternBody, hr]
    · exact fun hc => absurd hc hback
    · exact fun _ _ hc => absurd hc hback
    · exact hline
    · exact hopen
    · exact hclose
    · exact hslash

def pointOf (fraction : List Char) : List Char := if fraction.isEmpty then [] else ['.']

theorem mem_pointOf {fraction : List Char} {d : Char} (h : d ∈ pointOf fraction) : d = '.' := by
  unfold pointOf at h
  split at h
  · simp at h
  · simpa using h

def NumberEnds (fraction rest : List Char) : Prop :=
  (∀ d ∈ rest.head?, isDecimalDigit d = false) ∧
    (fraction = [] → ∀ d more, rest = '.' :: d :: more → isDecimalDigit d = false)

theorem isDecimalDigit_mem_takeWhile {cs : List Char} :
    ∀ d ∈ cs.takeWhile isDecimalDigit, isDecimalDigit d = true :=
  fun _ hd => List.mem_takeWhile_imp hd

theorem head_dropWhile {p : Char → Bool} {cs : List Char} :
    ∀ d ∈ (cs.dropWhile p).head?, p d = false := by
  intro d hd
  have h := List.head?_dropWhile_not p cs
  rw [Option.mem_def.mp hd] at h
  simpa using h

theorem splitNumber_ok {cs whole fraction rest : List Char}
    (h : splitNumber cs = (whole, fraction, rest)) :
    cs = whole ++ pointOf fraction ++ fraction ++ rest ∧ whole = cs.takeWhile isDecimalDigit ∧
      (∀ d ∈ fraction, isDecimalDigit d = true) ∧ NumberEnds fraction rest := by
  have hcut := (List.takeWhile_append_dropWhile (p := isDecimalDigit) (l := cs)).symm
  have hhead : ∀ d ∈ (cs.dropWhile isDecimalDigit).head?, isDecimalDigit d = false :=
    head_dropWhile
  unfold splitNumber at h
  split at h
  · next tail htail =>
    rw [htail] at hhead
    by_cases hf : (tail.takeWhile isDecimalDigit).isEmpty
    · simp only [hf, if_true, Prod.mk.injEq] at h
      obtain ⟨rfl, rfl, rfl⟩ := h
      refine ⟨by simpa [pointOf, htail] using hcut, rfl, by simp, hhead, ?_⟩
      rintro - d more hd
      obtain ⟨-, rfl⟩ := List.cons.inj hd
      by_contra hdigit
      simp [hdigit] at hf
    · obtain ⟨rfl, rfl, rfl⟩ : cs.takeWhile isDecimalDigit = whole ∧
        tail.takeWhile isDecimalDigit = fraction ∧ tail.dropWhile isDecimalDigit = rest := by
          simpa [hf] using h
      refine ⟨by simpa [pointOf, hf, htail] using hcut, rfl, isDecimalDigit_mem_takeWhile,
        head_dropWhile, fun hempty => ?_⟩
      simp [hempty] at hf
  · next hpoint =>
    obtain ⟨rfl, rfl, rfl⟩ : cs.takeWhile isDecimalDigit = whole ∧ [] = fraction ∧
      cs.dropWhile isDecimalDigit = rest := by simpa using h
    exact ⟨by simp [pointOf], rfl, by simp, hhead, fun _ d more hd => absurd hd (hpoint _)⟩

theorem splitNumber_append {whole fraction rest : List Char}
    (hw : ∀ d ∈ whole, isDecimalDigit d = true) (hf : ∀ d ∈ fraction, isDecimalDigit d = true)
    (hr : NumberEnds fraction rest) :
    splitNumber (whole ++ pointOf fraction ++ fraction ++ rest) = (whole, fraction, rest) := by
  by_cases hempty : fraction = []
  · subst hempty
    obtain ⟨htake, hdrop⟩ := takeWhile_append hw hr.1
    simp only [pointOf, List.isEmpty_nil, if_true, List.append_nil, splitNumber, htake, hdrop]
    split
    · next tail =>
      have hnone : tail.takeWhile isDecimalDigit = [] := by
        cases tail with
        | nil => rfl
        | cons d more => simp [hr.2 rfl d more rfl]
      simp [hnone]
    · rfl
  · have hne : fraction.isEmpty = false := by simpa using hempty
    have hpoint : ∀ d ∈ ('.' :: (fraction ++ rest)).head?, isDecimalDigit d = false := by
      simp [show isDecimalDigit '.' = false by decide]
    have hp := takeWhile_append hw hpoint
    obtain ⟨htake, hdrop⟩ := takeWhile_append hf hr.1
    simp only [pointOf, hne, Bool.false_eq_true, if_false, splitNumber, List.append_assoc,
      List.cons_append, List.nil_append, hp, htake, hdrop]

def SymbolEnds (s : Symbol) (rest : List Char) : Prop :=
  s = .compare .greater ∨ s = .compare .less → rest.head? ≠ some '='

theorem takeSymbol?_ok {cs rest : List Char} {s : Symbol} (h : takeSymbol? cs = some (s, rest)) :
    cs = s.text.toList ++ rest ∧ SymbolEnds s rest := by
  unfold takeSymbol? at h
  split at h <;> simp only [Option.some.injEq, Prod.mk.injEq, reduceCtorEq] at h <;>
    obtain ⟨rfl, rfl⟩ := h <;> refine ⟨rfl, ?_⟩ <;> rintro (hs | hs) <;> try simp at hs
  · next hlonger =>
    intro he
    obtain ⟨more, hm⟩ := List.head?_eq_some_iff.mp he
    exact hlonger more (by rw [hm])
  · next hlonger =>
    intro he
    obtain ⟨more, hm⟩ := List.head?_eq_some_iff.mp he
    exact hlonger more (by rw [hm])

theorem takeSymbol?_append {s : Symbol} {rest : List Char} (h : SymbolEnds s rest) :
    takeSymbol? (s.text.toList ++ rest) = some (s, rest) ∧
      looseOperator? (s.text.toList ++ rest) = none := by
  cases s with
  | compare op =>
    cases op with
    | greater =>
      have he := h (.inl rfl)
      cases rest <;> simp_all [Symbol.text, CompareOp.text, takeSymbol?, looseOperator?]
    | less =>
      have he := h (.inr rfl)
      cases rest <;> simp_all [Symbol.text, CompareOp.text, takeSymbol?, looseOperator?]
    | _ => exact ⟨rfl, rfl⟩
  | join kind => cases kind <;> exact ⟨rfl, rfl⟩
  | _ => exact ⟨rfl, rfl⟩

def Token.EndsBefore (t : Token) (rest : List Char) : Prop :=
  match t.lexeme with
  | .text _ => True
  | .number _ => ∃ fraction, (fraction = [] ↔ '.' ∉ t.text.toList) ∧ NumberEnds fraction rest
  | .pattern .. => ∀ d ∈ rest.head?, isFlagChar d = false
  | .word => ∀ d ∈ rest.head?, isWordPart d = false
  | .symbol s => SymbolEnds s rest
  | .finish => True

/-- A token that has been read off a text: the piece it was cut from ends in no blank, and the token
is read again in front of every text before which it ends. -/
structure Reads (text : List Char) (t : Token) (after : List Char) : Prop where
  piece : t.text.toList ++ after = text
  sharp : ∃ init last, t.text.toList = init ++ [last] ∧ isBlank last = false
  proper : t.lexeme ≠ .finish
  ends : t.EndsBefore after
  again : ∀ pos c more rest, t.EndsBefore rest → t.text.toList ++ rest = c :: more →
    readToken pos c more = .ok ({ t with pos }, rest)

theorem ends_unblank {p : Char → Bool} {x : Char} {xs : List Char} (hx : isBlank x = false)
    (hp : ∀ d, isBlank d = true → p d = false) (h : ∀ d ∈ xs, p d = true) :
    ∃ init last, x :: xs = init ++ [last] ∧ isBlank last = false := by
  rcases List.eq_nil_or_concat' xs with rfl | ⟨init, last, rfl⟩
  · exact ⟨[], x, rfl, hx⟩
  · refine ⟨x :: init, last, rfl, ?_⟩
    by_contra hb
    have hl := h last (by simp)
    simp [hp last (by simpa using hb)] at hl

theorem take_literal (pos : Nat) (body rest : List Char) :
    ('"' :: (body ++ '"' :: rest)).take (pos + 1 + body.length + 1 - pos) =
      '"' :: (body ++ ['"']) := by
  rw [show pos + 1 + body.length + 1 - pos = (body.length + 1) + 1 by omega,
    List.take_succ_cons, ← List.singleton_append (l := rest), ← List.append_assoc,
    List.take_append_of_le_length (by simp), List.take_of_length_le (by simp)]

theorem reads_text {pos : Nat} {more after : List Char} {t : Token}
    (h : readToken pos '"' more = .ok (t, after)) : t.pos = pos ∧ Reads ('"' :: more) t after := by
  simp only [readToken, if_true] at h
  split at h
  · next value stop rest hr =>
    obtain ⟨body, rfl, rfl, hagain⟩ := readText_ok hr
    obtain ⟨rfl, rfl⟩ := Prod.mk.inj (Except.ok.inj h)
    simp only [take_literal]
    refine ⟨trivial, by simp, ⟨'"' :: body, '"', by simp, by decide⟩, by simp, trivial, ?_⟩
    intro pos' c more' rest' _ hc
    obtain ⟨rfl, rfl⟩ : '"' = c ∧ body ++ '"' :: rest' = more' := by simpa using hc
    simp [readToken, hagain, take_literal]
  · simp at h

theorem reads_number {pos : Nat} {c : Char} {more after : List Char} {t : Token}
    (hq : c ≠ '"') (hd : isDigitLike c = true) (hb : isBlank c = false)
    (h : readToken pos c more = .ok (t, after)) : t.pos = pos ∧ Reads (c :: more) t after := by
  simp only [readToken, hq, if_false, hd, if_true] at h
  split at h
  · next hdigit =>
    obtain ⟨⟨whole, fraction, rest⟩, hs⟩ : ∃ p, splitNumber (c :: more) = p := ⟨_, rfl⟩
    obtain ⟨hcut, hwhole, hfraction, hends⟩ := splitNumber_ok hs
    have hdigits : ∀ d ∈ whole, isDecimalDigit d = true := hwhole ▸ isDecimalDigit_mem_takeWhile
    simp only [hs] at h
    obtain ⟨rfl, rfl⟩ := Prod.mk.inj (Except.ok.inj h)
    have htext : whole ++ (if fraction.isEmpty then [] else ['.']) ++ fraction =
        c :: (more.takeWhile isDecimalDigit ++ pointOf fraction ++ fraction) := by
      simp [hwhole, hdigit, pointOf]
    have hpoint : fraction = [] ↔ '.' ∉ whole ++ pointOf fraction ++ fraction := by
      have hw : '.' ∉ whole := by
        intro hm
        simpa [show isDecimalDigit '.' = false by decide] using hdigits '.' hm
      cases fraction with
      | nil => simpa [pointOf] using hw
      | cons d ds => simp [pointOf]
    refine ⟨rfl, by simpa [pointOf] using hcut.symm, ?_, by simp, ⟨fraction, ?_, hends⟩, ?_⟩
    · simp only [String.toList_ofList, htext]
      refine ends_unblank (p := fun d => isDecimalDigit d || d == '.') hb (fun d hd => ?_) ?_
      · have hpoint : d ≠ '.' := by
          rintro rfl
          simp [isBlank_iff] at hd
        simp [isDecimalDigit_of_isBlank hd, hpoint]
      · simp only [List.mem_append, Bool.or_eq_true, beq_iff_eq]
        rintro d ((hm | hm) | hm)
        · exact .inl (isDecimalDigit_mem_takeWhile d hm)
        · exact .inr (mem_pointOf hm)
        · exact .inl (hfraction d hm)
    · simpa [pointOf] using hpoint
    · intro pos' c' more' rest' hrest hc
      obtain ⟨fraction', hempty, hends'⟩ := hrest
      have hsame : NumberEnds fraction rest' := by
        refine ⟨hends'.1, fun hf => hends'.2 ?_⟩
        rw [hempty]
        simpa [pointOf] using hpoint.mp hf
      have hsplit := splitNumber_append hdigits hfraction hsame
      simp only [String.toList_ofList, htext, List.cons_append, List.cons.injEq] at hc
      obtain ⟨rfl, rfl⟩ := hc
      rw [pointOf, htext, List.cons_append] at hsplit
      simp only [readToken, hq, if_false, hd, hdigit, if_true, hsplit]
  · simp at h

theorem reads_pattern {pos : Nat} {more after : List Char} {t : Token}
    (h : readToken pos '/' more = .ok (t, after)) : t.pos = pos ∧ Reads ('/' :: more) t after := by
  simp only [readToken, show ('/' : Char) ≠ '"' by decide, if_false,
    show isDigitLike '/' = false by decide, Bool.false_eq_true, if_true] at h
  split at h
  · simp [fault] at h
  · simp [fault] at h
  · next body rest hempty hr =>
    obtain ⟨_, rfl, rfl, hagain⟩ := readPatternBody_ok hr
    obtain ⟨rfl, rfl⟩ := Prod.mk.inj (Except.ok.inj h)
    have hflags : ∀ d ∈ rest.takeWhile isFlagChar, isFlagChar d = true :=
      fun _ hd => List.mem_takeWhile_imp hd
    refine ⟨rfl, by simp, ?_, by simp, head_dropWhile, fun pos' c more' rest' hrest hc => ?_⟩
    · obtain ⟨init, last, he, hl⟩ := ends_unblank (x := '/') (by decide)
        (fun _ => isFlagChar_of_isBlank) hflags
      exact ⟨'/' :: _ ++ init, last, by simpa using congrArg ('/' :: _ ++ ·) he, hl⟩
    · simp only [String.toList_ofList, List.cons_append, List.append_assoc, List.cons.injEq] at hc
      obtain ⟨rfl, rfl⟩ := hc
      obtain ⟨htake, hdrop⟩ := takeWhile_append hflags hrest
      have hbody := hagain (rest.takeWhile isFlagChar ++ rest')
      simp only [readToken, show ('/' : Char) ≠ '"' by decide, if_false,
        show isDigitLike '/' = false by decide, Bool.false_eq_true, if_true, hbody, htake, hdrop]

theorem reads_word {pos : Nat} {c : Char} {more after : List Char} {t : Token}
    (hc : isWordStart c = true) (hb : isBlank c = false) (hq : c ≠ '"') (hs : c ≠ '/')
    (hd : isDigitLike c = false) (h : readToken pos c more = .ok (t, after)) :
    t.pos = pos ∧ Reads (c :: more) t after := by
  have hpart : isWordPart c = true := by simp [isWordPart, hc]
  simp only [readToken, hq, if_false, hd, Bool.false_eq_true, hs, hc, if_true] at h
  obtain ⟨rfl, rfl⟩ := Prod.mk.inj (Except.ok.inj h)
  have hword : ∀ d ∈ more.takeWhile isWordPart, isWordPart d = true :=
    fun _ hd => List.mem_takeWhile_imp hd
  refine ⟨rfl, by simp, ?_, by simp, head_dropWhile, fun pos' c' more' rest' hrest hc' => ?_⟩
  · simpa [hpart] using ends_unblank hb (fun _ => isWordPart_of_isBlank) hword
  · simp only [String.toList_ofList, List.takeWhile_cons, hpart, if_true, List.cons_append,
      List.cons.injEq] at hc'
    obtain ⟨rfl, rfl⟩ := hc'
    obtain ⟨htake, hdrop⟩ := takeWhile_append hword hrest
    simp only [readToken, hq, if_false, hd, Bool.false_eq_true, hs, hc, if_true,
      List.takeWhile_cons, hpart, List.dropWhile_cons, htake, hdrop]

theorem symbol_unblank (s : Symbol) :
    s.text.toList ≠ [] ∧ ∀ c ∈ s.text.toList, isBlank c = false := by
  have hall : s.text.toList ≠ [] ∧ s.text.toList.all (!isBlank ·) = true := by
    cases s with
    | compare op => cases op <;> decide
    | join kind => cases kind <;> decide
    | _ => decide
  exact ⟨hall.1, by simpa using hall.2⟩

theorem reads_symbol {pos : Nat} {c : Char} {more after : List Char} {t : Token}
    (hw : isWordStart c = false) (hq : c ≠ '"') (hs : c ≠ '/') (hd : isDigitLike c = false)
    (h : readToken pos c more = .ok (t, after)) : t.pos = pos ∧ Reads (c :: more) t after := by
  simp only [readToken, hq, if_false, hd, Bool.false_eq_true, hs, hw] at h
  split at h
  · simp [fault] at h
  · split at h
    · next s rest hsym =>
      obtain ⟨rfl, rfl⟩ := Prod.mk.inj (Except.ok.inj h)
      obtain ⟨hcut, hends⟩ := takeSymbol?_ok hsym
      obtain ⟨hne, hall⟩ := symbol_unblank s
      obtain ⟨d, ds, htext⟩ := List.exists_cons_of_ne_nil hne
      refine ⟨rfl, hcut.symm, ?_, by simp, hends, fun pos' c' more' rest' hrest hc => ?_⟩
      · rw [htext] at hall ⊢
        refine ends_unblank (p := fun d => !isBlank d) (hall d (by simp)) (by simp) ?_
        intro e he
        simp [hall e (by simp [he])]
      · have hc' : c' = c := by
          simp only [htext, List.cons_append, List.cons.injEq] at hc hcut
          rw [← hc.1, ← hcut.1]
        subst hc'
        obtain ⟨hsym', hloose⟩ := takeSymbol?_append hrest
        simp only [readToken, hq, if_false, hd, Bool.false_eq_true, hs, hw, ← hc, hloose, hsym']
    · simp [fault] at h

theorem readToken_ok {pos : Nat} {c : Char} {more after : List Char} {t : Token}
    (hb : isBlank c = false) (h : readToken pos c more = .ok (t, after)) :
    t.pos = pos ∧ Reads (c :: more) t after := by
  by_cases hq : c = '"'
  · subst hq
    exact reads_text h
  · cases hd : isDigitLike c with
    | true => exact reads_number hq hd hb h
    | false =>
      by_cases hs : c = '/'
      · subst hs
        exact reads_pattern h
      · cases hw : isWordStart c with
        | true => exact reads_word hw hb hq hs hd h
        | false => exact reads_symbol hw hq hs hd h

theorem readToken_breakdown {pos : Nat} {c : Char} {more : List Char} {b : Breakdown} :
    readToken pos c more = .error (.breakdown b) ↔
      b = .strayDigit ∧ isDigitLike c = true ∧ isDecimalDigit c = false := by
  unfold readToken
  constructor
  · intro h
    split at h
    · split at h <;> simp at h
    · split at h
      · split at h
        · simp at h
        · simp_all
      · split at h
        · split at h <;> simp [fault] at h
        · split at h
          · simp at h
          · cases hl : looseOperator? (c :: more) with
            | some op => simp [hl, fault] at h
            | none =>
              cases hs : takeSymbol? (c :: more) with
              | some p => simp [hl, hs] at h
              | none => simp [hl, hs, fault] at h
  · rintro ⟨rfl, hd, hn⟩
    have hq : c ≠ '"' := by
      rintro rfl
      simp [show isDigitLike '"' = false by decide] at hd
    simp [hq, hd, hn]

theorem Token.EndsBefore.cut {t : Token} {rest more : List Char}
    (h : t.EndsBefore (rest ++ more)) : t.EndsBefore rest := by
  have hp : ∀ d ∈ rest.head?, d ∈ (rest ++ more).head? := by
    intro d hd
    simp [Option.mem_def.mp hd]
  unfold Token.EndsBefore at h ⊢
  split at h
  · trivial
  · obtain ⟨fraction, hf, hdigit, hpoint⟩ := h
    exact ⟨fraction, hf, fun d hd => hdigit d (hp d hd),
      fun he d tail hr => hpoint he d (tail ++ more) (by simp [hr])⟩
  · exact fun d hd => h d (hp d hd)
  · exact fun d hd => h d (hp d hd)
  · exact fun hs he => h hs (hp '=' he)
  · trivial

inductive Scanned (source : List Char) : List Token → Nat → List Char → Prop
  | start : Scanned source [] 0 source
  | blank {ts : List Token} {pos : Nat} {c : Char} {rest : List Char} :
      Scanned source ts pos (c :: rest) → isBlank c = true → Scanned source ts (pos + 1) rest
  | token {ts : List Token} {pos : Nat} {c : Char} {rest after : List Char} {t : Token} :
      Scanned source ts pos (c :: rest) → isBlank c = false →
      readToken pos c rest = .ok (t, after) →
      Scanned source (ts ++ [t]) (pos + t.text.length) after

theorem length_after {pos : Nat} {c : Char} {more after : List Char} {t : Token}
    (hb : isBlank c = false) (h : readToken pos c more = .ok (t, after)) :
    after.length ≤ more.length := by
  obtain ⟨-, hr⟩ := readToken_ok hb h
  obtain ⟨init, last, htext, -⟩ := hr.sharp
  have hlen := congrArg List.length hr.piece
  simp only [htext, List.length_append, List.length_cons, List.length_nil] at hlen
  omega

theorem Scanned.proper {source rest : List Char} {ts : List Token} {pos : Nat}
    (h : Scanned source ts pos rest) : ∀ t ∈ ts, t.lexeme ≠ .finish := by
  induction h with
  | start => simp
  | blank _ _ ih => exact ih
  | token _ hb hr ih =>
    intro t ht
    rcases List.mem_append.mp ht with hm | hm
    · exact ih t hm
    · obtain rfl := List.mem_singleton.mp hm
      exact (readToken_ok hb hr).2.proper

theorem Scanned.drop {source rest : List Char} {ts : List Token} {pos : Nat}
    (h : Scanned source ts pos rest) : source.drop pos = rest := by
  induction h with
  | start => rfl
  | blank _ _ ih => rw [← List.drop_drop, ih, List.drop_one, List.tail_cons]
  | token _ hb hr ih =>
    obtain ⟨-, hreads⟩ := readToken_ok hb hr
    rw [← List.drop_drop, ih, ← hreads.piece, ← String.length_toList, List.drop_left]

theorem Scanned.text_prefix {source rest : List Char} {ts : List Token} {pos : Nat}
    (h : Scanned source ts pos rest) : ∀ t ∈ ts, t.text.toList <+: source.drop t.pos := by
  induction h with
  | start => simp
  | blank _ _ ih => exact ih
  | token hscan hb hr ih =>
    obtain ⟨rfl, hreads⟩ := readToken_ok hb hr
    intro t ht
    rcases List.mem_append.mp ht with ht | ht
    · exact ih t ht
    · obtain rfl := List.mem_singleton.mp ht
      rw [hscan.drop, ← hreads.piece]
      exact List.prefix_append _ _

theorem Reads.scan {source more rest after : List Char} {ts : List Token} {pos : Nat} {c : Char}
    {t : Token} (hreads : Reads (c :: more) t rest) (hb : isBlank c = false)
    (h : Scanned source ts pos (t.text.toList ++ after)) (hends : t.EndsBefore after) :
    Scanned source (ts ++ [{ t with pos }]) (pos + t.text.length) after := by
  obtain ⟨init, last, htext, -⟩ := hreads.sharp
  obtain ⟨d, ds, hd⟩ := List.exists_cons_of_ne_nil (show t.text.toList ≠ [] by simp [htext])
  have hpiece := hreads.piece
  rw [hd] at hpiece h
  obtain ⟨rfl, -⟩ := List.cons.inj hpiece
  exact h.token hb (hreads.again pos d (ds ++ after) after hends (by rw [hd]; rfl))

def endAt (pos : Nat) : Token := ⟨.finish, "", pos⟩

theorem Scanned.tokens {source rest : List Char} {ts : List Token} {pos : Nat}
    (h : Scanned source ts pos rest) :
    ∃ fuel, rest.length < fuel ∧ tokens source = tokensFrom fuel pos ts.reverse rest := by
  induction h with
  | start => exact ⟨source.length + 1, by omega, rfl⟩
  | blank _ hb ih =>
    obtain ⟨fuel, hf, he⟩ := ih
    obtain ⟨fuel, rfl⟩ : ∃ n, fuel = n + 1 := ⟨fuel - 1, by omega⟩
    refine ⟨fuel, by simpa using hf, ?_⟩
    rw [he, tokensFrom, if_pos hb]
  | token _ hb hr ih =>
    obtain ⟨fuel, hf, he⟩ := ih
    obtain ⟨fuel, rfl⟩ : ∃ n, fuel = n + 1 := ⟨fuel - 1, by omega⟩
    have hlen := length_after hb hr
    refine ⟨fuel, by simp only [List.length_cons] at hf; omega, ?_⟩
    rw [he, tokensFrom, if_neg (by simp [hb]), hr]
    simp

theorem Scanned.of_tokensFrom {source rest : List Char} {before : List Token} {pos fuel : Nat}
    (h : Scanned source before.reverse pos rest) (hf : rest.length < fuel) :
    (∃ ts stop, Scanned source ts stop [] ∧
      tokensFrom fuel pos before rest = .ok (ts ++ [endAt stop])) ∨
    ∃ f ts stop c more, Scanned source ts stop (c :: more) ∧ isBlank c = false ∧
      readToken stop c more = .error f ∧ tokensFrom fuel pos before rest = .error f := by
  induction fuel generalizing before pos rest with
  | zero => simp at hf
  | succ fuel ih =>
    cases rest with
    | nil => exact .inl ⟨before.reverse, pos, h, by simp [tokensFrom, endAt]⟩
    | cons c rest =>
      simp only [List.length_cons] at hf
      cases hb : isBlank c with
      | true =>
        rw [tokensFrom, if_pos hb]
        exact ih (h.blank hb) (by omega)
      | false =>
        rw [tokensFrom, if_neg (by simp [hb])]
        cases hr : readToken pos c rest with
        | error f => exact .inr ⟨f, _, pos, c, rest, h, hb, hr, rfl⟩
        | ok p =>
          obtain ⟨t, after⟩ := p
          have hlen := length_after hb hr
          exact ih (by simpa using h.token hb hr) (by omega)

theorem tokens_cases (source : List Char) :
    (∃ ts stop, Scanned source ts stop [] ∧ tokens source = .ok (ts ++ [endAt stop])) ∨
    ∃ f ts stop c more, Scanned source ts stop (c :: more) ∧ isBlank c = false ∧
      readToken stop c more = .error f ∧ tokens source = .error f := by
  have h : Scanned source ([] : List Token).reverse 0 source := .start
  exact h.of_tokensFrom (Nat.lt_succ_self _)

theorem tokens_eq_ok_iff {source : List Char} {ts : List Token} :
    tokens source = .ok ts ↔
      ∃ init stop, Scanned source init stop [] ∧ ts = init ++ [endAt stop] := by
  constructor
  · intro h
    rcases tokens_cases source with ⟨init, stop, hs, he⟩ | ⟨f, _, _, _, _, _, _, _, he⟩
    · exact ⟨init, stop, hs, Except.ok.inj (h.symm.trans he)⟩
    · exact absurd (h.symm.trans he) (by simp)
  · rintro ⟨init, stop, hs, rfl⟩
    obtain ⟨fuel, hf, he⟩ := hs.tokens
    obtain ⟨fuel, rfl⟩ : ∃ n, fuel = n + 1 := ⟨fuel - 1, by omega⟩
    simp [he, tokensFrom, endAt]

theorem tokens_eq_error_iff {source : List Char} {f : Failure} :
    tokens source = .error f ↔ ∃ ts pos c rest, Scanned source ts pos (c :: rest) ∧
      isBlank c = false ∧ readToken pos c rest = .error f := by
  constructor
  · intro h
    rcases tokens_cases source with ⟨_, _, _, he⟩ | ⟨f', ts, pos, c, rest, hs, hb, hr, he⟩
    · exact absurd (h.symm.trans he) (by simp)
    · obtain rfl := Except.error.inj (h.symm.trans he)
      exact ⟨ts, pos, c, rest, hs, hb, hr⟩
  · rintro ⟨ts, pos, c, rest, hs, hb, hr⟩
    obtain ⟨fuel, hf, he⟩ := hs.tokens
    obtain ⟨fuel, rfl⟩ : ∃ n, fuel = n + 1 := ⟨fuel - 1, by omega⟩
    rw [he, tokensFrom, if_neg (by simp [hb]), hr]

def MeetsStrayDigit (source : List Char) : Prop :=
  ∃ ts pos c rest, Scanned source ts pos (c :: rest) ∧ isDigitLike c = true ∧
    isDecimalDigit c = false

theorem digitLikeSpans_unblank :
    ∀ s ∈ digitLikeSpans, ∀ t ∈ blankSpans, s.2 < t.1 ∨ t.2 < s.1 := by decide

theorem isDigitLike_of_isBlank {c : Char} (h : isBlank c = true) : isDigitLike c = false := by
  by_contra hd
  simp only [isDigitLike, isDecimalDigit_of_isBlank h, Bool.false_or, Bool.not_eq_false] at hd
  obtain ⟨s, hs, hsl, hsh⟩ := Spans.holds_iff.mp hd
  obtain ⟨t, ht, htl, hth⟩ := Spans.holds_iff.mp h
  have := digitLikeSpans_unblank s hs t ht
  omega

theorem tokens_breakdown_iff {source : List Char} {b : Breakdown} :
    tokens source = .error (.breakdown b) ↔ b = .strayDigit ∧ MeetsStrayDigit source := by
  rw [tokens_eq_error_iff]
  constructor
  · rintro ⟨ts, pos, c, rest, hs, -, hr⟩
    obtain ⟨hb, hd, hn⟩ := readToken_breakdown.mp hr
    exact ⟨hb, ts, pos, c, rest, hs, hd, hn⟩
  · rintro ⟨rfl, ts, pos, c, rest, hs, hd, hn⟩
    refine ⟨ts, pos, c, rest, hs, ?_, readToken_breakdown.mpr ⟨rfl, hd, hn⟩⟩
    by_contra hb
    simp [isDigitLike_of_isBlank (by simpa using hb)] at hd

def Token.content (t : Token) : Lexeme × String := (t.lexeme, t.text)

theorem Scanned.trimStart {source rest : List Char} {ts : List Token} {pos : Nat}
    (h : Scanned source ts pos rest) :
    (ts = [] ∧ Text.trimStart rest = Text.trimStart source) ∨
    ∃ ts' pos', Scanned (Text.trimStart source) ts' pos' rest ∧
      ts'.map Token.content = ts.map Token.content := by
  induction h with
  | start => exact .inl ⟨rfl, rfl⟩
  | blank _ hb ih =>
    rcases ih with ⟨rfl, he⟩ | ⟨ts', pos', hs, hc⟩
    · exact .inl ⟨rfl, by simpa [Text.trimStart, hb] using he⟩
    · exact .inr ⟨ts', pos' + 1, hs.blank hb, hc⟩
  | @token ts pos c rest after t _ hb hr ih =>
    obtain ⟨-, hreads⟩ := readToken_ok hb hr
    have step : ∀ ts' pos', Scanned (Text.trimStart source) ts' pos' (c :: rest) →
        Scanned (Text.trimStart source) (ts' ++ [{ t with pos := pos' }])
          (pos' + t.text.length) after := fun ts' pos' hs =>
      hs.token hb (hreads.again pos' c rest after hreads.ends hreads.piece)
    rcases ih with ⟨rfl, he⟩ | ⟨ts', pos', hs, hc⟩
    · have hfirst : Text.trimStart source = c :: rest := by simpa [Text.trimStart, hb] using he.symm
      exact .inr ⟨_, _, step [] 0 (by rw [hfirst]; exact .start), rfl⟩
    · exact .inr ⟨_, _, step ts' pos' hs, by simp [hc, Token.content]⟩

theorem Scanned.cut {body blanks rest : List Char} {ts : List Token} {pos : Nat}
    (hall : ∀ c ∈ blanks, isBlank c = true) (h : Scanned (body ++ blanks) ts pos rest) :
    (∃ rest', rest = rest' ++ blanks ∧ Scanned body ts pos rest') ∨
    (∀ c ∈ rest, isBlank c = true) ∧ ∃ stop, Scanned body ts stop [] := by
  induction h with
  | start => exact .inl ⟨body, rfl, .start⟩
  | @blank ts pos c rest _ hb ih =>
    rcases ih with ⟨rest', he, hs⟩ | ⟨hrest, hs⟩
    · cases rest' with
      | nil =>
        refine .inr ⟨fun d hd => hall d ?_, pos, hs⟩
        rw [← (show c :: rest = blanks from he)]
        exact List.mem_cons_of_mem _ hd
      | cons d more =>
        obtain ⟨rfl, rfl⟩ := List.cons.inj he
        exact .inl ⟨more, rfl, hs.blank hb⟩
    · exact .inr ⟨fun d hd => hrest d (List.mem_cons_of_mem _ hd), hs⟩
  | @token ts pos c rest after t _ hb hr ih =>
    obtain ⟨rfl, hreads⟩ := readToken_ok hb hr
    rcases ih with ⟨rest', he, hs⟩ | ⟨hrest, -⟩
    · cases rest' with
      | nil =>
        have := hall c (by rw [← (show c :: rest = blanks from he)]; simp)
        simp [hb] at this
      | cons d more =>
        obtain ⟨rfl, rfl⟩ := List.cons.inj he
        obtain ⟨init, last, htext, hlast⟩ := hreads.sharp
        have hsplit : t.text.toList ++ after = (c :: more) ++ blanks := hreads.piece
        rcases List.append_eq_append_iff.mp hsplit with
          ⟨tail, hmore, hafter⟩ | ⟨tail, hmore, hafter⟩
        · refine .inl ⟨tail, hafter, hs.token hb ?_⟩
          exact hreads.again _ c more tail (Token.EndsBefore.cut (hafter ▸ hreads.ends)) hmore.symm
        · -- Nothing of the blanks belongs to the token, whose last character is none.
          rcases List.eq_nil_or_concat' tail with rfl | ⟨front, d', rfl⟩
          · refine .inl ⟨[], by simpa using hafter.symm, hs.token hb ?_⟩
            refine hreads.again _ c more [] ?_ (by simpa using hmore)
            have hends : t.EndsBefore ([] ++ after) := hreads.ends
            exact hends.cut
          · have hd : d' = last := by
              rw [htext, ← List.append_assoc] at hmore
              exact (List.append_inj_right' hmore.symm rfl |> List.singleton_inj.mp)
            have := hall d' (by simp [hafter])
            rw [hd, hlast] at this
            exact absurd this (by simp)
    · have := hrest c (by simp)
      simp [hb] at this

theorem tokens_trim {source : List Char} {ts : List Token} (h : tokens source = .ok ts) :
    ∃ ts', tokens (trim source) = .ok ts' ∧ ts'.map Token.content = ts.map Token.content := by
  obtain ⟨init, stop, hs, rfl⟩ := tokens_eq_ok_iff.mp h
  have hstart : ∃ ts' pos', Scanned (trimStart source) ts' pos' [] ∧
      ts'.map Token.content = init.map Token.content := by
    rcases hs.trimStart with ⟨rfl, he⟩ | hs'
    · refine ⟨[], 0, ?_, rfl⟩
      rw [← he]
      exact .start
    · exact hs'
  obtain ⟨ts', pos', hs', hc⟩ := hstart
  obtain ⟨blanks, hcut, hall⟩ := eq_trimEnd_append (trimStart source)
  rw [hcut] at hs'
  have hend : ∃ stop', Scanned (trim source) ts' stop' [] := by
    rcases hs'.cut hall with ⟨rest', he, hs''⟩ | ⟨-, hs''⟩
    · obtain ⟨rfl, -⟩ := List.append_eq_nil_iff.mp he.symm
      exact ⟨pos', hs''⟩
    · exact hs''
  obtain ⟨stop', hs''⟩ := hend
  exact ⟨_, tokens_eq_ok_iff.mpr ⟨ts', stop', hs'', rfl⟩, by simp [hc, endAt, Token.content]⟩

end LedgerRules.Condition
