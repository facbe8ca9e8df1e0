import LedgerRules.Pattern.Builtin
import LedgerRules.Proofs.CacheContents
import LedgerRules.Proofs.TreeText
import LedgerRules.Rule.Check

/-! Rules put together from a condition and a category. The text of a rule is cut at its arrow before
anything else is read, so it matters where a condition can hold one: a minus sign stands in front of a
number, hence never in front of a `>`, and what is left are the literals. -/

namespace LedgerRules
open Text

def arrow : List Char := ['-', '>']

theorem arrow_prefix_iff {cs : List Char} :
    arrow <+: cs ↔ ∃ rest, cs = '-' :: '>' :: rest := by
  constructor
  · intro ⟨rest, h⟩
    exact ⟨rest, h.symm⟩
  · intro ⟨rest, h⟩
    exact ⟨rest, h.symm⟩

theorem arrow_infix_iff {cs : List Char} : arrow <:+: cs ↔ ∃ i, arrow <+: cs.drop i := by
  constructor
  · intro ⟨before, after, h⟩
    refine ⟨before.length, after, ?_⟩
    rw [← h, List.append_assoc, List.drop_left]
  · intro ⟨i, h⟩
    exact h.isInfix.trans (List.drop_suffix i cs).isInfix

namespace Condition
open Numeric

def Token.IsLiteral (t : Token) : Prop :=
  (∃ value, t.lexeme = .text value) ∨ ∃ body flags, t.lexeme = .pattern body flags

theorem symbol_minus {s : Symbol} (h : '-' ∈ s.text.toList) : s = .minus := by
  revert h
  cases s with
  | compare op => cases op <;> decide
  | join kind => cases kind <;> decide
  | _ => decide

inductive Wording : Lexeme → List Char → Prop
  | text (value : String) (body : List Char) : Wording (.text value) ('"' :: (body ++ ['"']))
  | number (value : Decimal) {cs : List Char} (h : ∀ c ∈ cs, isDecimalDigit c = true ∨ c = '.') :
      Wording (.number value) cs
  | pattern (body flags : String) (h : ∀ c ∈ flags.toList, isFlagChar c = true) :
      Wording (.pattern body flags) ('/' :: body.toList ++ '/' :: flags.toList)
  | word {cs : List Char} (h : ∀ c ∈ cs, isWordPart c = true) : Wording .word cs
  | symbol (s : Symbol) : Wording (.symbol s) s.text.toList

theorem readToken_wording {pos : Nat} {c : Char} {more after : List Char} {t : Token}
    (h : readToken pos c more = .ok (t, after)) : Wording t.lexeme t.text.toList := by
  unfold readToken at h
  dsimp only at h
  split at h
  next hquote =>
    subst hquote
    split at h
    next value stop rest hr =>
      obtain ⟨body, rfl, rfl, -⟩ := readText_ok hr
      obtain ⟨rfl, rfl⟩ := Prod.mk.inj (Except.ok.inj h)
      rw [String.toList_ofList, take_literal]
      exact .text _ body
    next => exact nomatch h
  next =>
    split at h
    next =>
      split at h
      next =>
        obtain ⟨⟨whole, fraction, rest⟩, hs⟩ : ∃ p, splitNumber (c :: more) = p := ⟨_, rfl⟩
        obtain ⟨-, hwhole, hfraction, -⟩ := splitNumber_ok hs
        simp only [hs] at h
        obtain ⟨rfl, rfl⟩ := Prod.mk.inj (Except.ok.inj h)
        refine .number _ fun d hd => ?_
        rw [String.toList_ofList, List.mem_append, List.mem_append] at hd
        rcases hd with (hd | hd) | hd
        · rw [hwhole] at hd
          exact .inl (isDecimalDigit_mem_takeWhile _ hd)
        · exact .inr (mem_pointOf hd)
        · exact .inl (hfraction _ hd)
      next => exact nomatch h
    next =>
      split at h
      next =>
        split at h
        next => exact nomatch h
        next => exact nomatch h
        next body rest _ _ =>
          obtain ⟨rfl, rfl⟩ := Prod.mk.inj (Except.ok.inj h)
          have hflags : ∀ d ∈ (String.ofList (rest.takeWhile isFlagChar)).toList,
              isFlagChar d = true := by
            rw [String.toList_ofList]
            exact fun d hd => List.mem_takeWhile_imp hd
          simpa using Wording.pattern (String.ofList body) _ hflags
      next =>
        split at h
        next =>
          obtain ⟨rfl, rfl⟩ := Prod.mk.inj (Except.ok.inj h)
          refine .word fun d hd => ?_
          rw [String.toList_ofList] at hd
          exact List.mem_takeWhile_imp hd
        next =>
          split at h
          next => exact nomatch h
          next =>
            split at h
            next s rest _ =>
              obtain ⟨rfl, rfl⟩ := Prod.mk.inj (Except.ok.inj h)
              exact .symbol s
            next => exact nomatch h

theorem Wording.minus {t : Token} {cs front back : List Char} (h : Wording t.lexeme cs)
    (hcs : cs = front ++ '-' :: back) :
    (t.IsLiteral ∧ back ≠ []) ∨ (t.lexeme = .symbol .minus ∧ front = [] ∧ back = []) := by
  have hmem : '-' ∈ cs := by simp [hcs]
  -- A literal ends in a character of its own.
  have hends : ∀ init last, cs = init ++ [last] → last ≠ '-' → back ≠ [] := by
    intro init last heq hlast hback
    rw [hcs, hback] at heq
    exact hlast (List.singleton_inj.mp (List.append_inj_right' heq rfl)).symm
  generalize hlexeme : t.lexeme = l at h
  cases h with
  | text value body =>
    exact .inl ⟨.inl ⟨value, hlexeme⟩, hends ('"' :: body) '"' rfl (by decide)⟩
  | number value h =>
    rcases h '-' hmem with hdigit | hpoint
    · exact absurd hdigit (by decide)
    · exact absurd hpoint (by decide)
  | pattern body flags h =>
    refine .inl ⟨.inr ⟨body, flags, hlexeme⟩, ?_⟩
    rcases List.eq_nil_or_concat' flags.toList with hflags | ⟨init, last, hflags⟩
    · exact hends ('/' :: body.toList) '/' (by rw [hflags]) (by decide)
    · apply hends ('/' :: body.toList ++ '/' :: init) last (by simp [hflags])
      rintro rfl
      exact absurd (h '-' (by simp [hflags])) (by decide)
  | word h => exact absurd (h '-' hmem) (by decide)
  | symbol s =>
    obtain rfl := symbol_minus hmem
    cases front with
    | nil =>
      have hback : ['-'] = '-' :: back := by simpa [Symbol.text] using hcs
      exact .inr ⟨rfl, rfl, (List.cons.inj hback).2.symm⟩
    | cons x xs =>
      have hlength := congrArg List.length hcs
      simp [Symbol.text] at hlength

theorem readToken_greater {pos : Nat} {more after : List Char} {t : Token}
    (h : readToken pos '>' more = .ok (t, after)) : ∃ op, t.lexeme = .symbol (.compare op) := by
  have hplain : isDigitLike '>' = false ∧ isWordStart '>' = false := by decide
  have hloose : looseOperator? ('>' :: more) = none := rfl
  simp only [readToken, show ('>' : Char) ≠ '"' by decide, show ('>' : Char) ≠ '/' by decide,
    hplain.1, hplain.2, hloose, Bool.false_eq_true, if_false] at h
  unfold takeSymbol? at h
  split at h
  next s rest hs =>
    obtain ⟨rfl, rfl⟩ := Prod.mk.inj (Except.ok.inj h)
    split at hs <;> simp_all
    · exact ⟨_, hs.1.symm⟩
    · exact ⟨_, hs.1.symm⟩
  next => cases h

def Token.Covers (t : Token) (i : Nat) : Prop := t.pos ≤ i ∧ i + 2 ≤ t.pos + t.text.length

def MinusCompares (ts : List Token) : Prop :=
  ∃ before op after, terminals ts = before ++ .symbol .minus :: .symbol (.compare op) :: after

theorem MinusCompares.append {ts : List Token} (h : MinusCompares ts) (us : List Token) :
    MinusCompares (ts ++ us) := by
  obtain ⟨before, op, after, heq⟩ := h
  exact ⟨before, op, after ++ terminals us, by simp [terminals_append, heq]⟩

theorem Scanned.arrow {source rest : List Char} {ts : List Token} {pos : Nat}
    (h : Scanned source ts pos rest) {i : Nat} (harrow : arrow <+: source.drop i) (hi : i < pos) :
    (∃ t ∈ ts, t.IsLiteral ∧ t.Covers i) ∨ MinusCompares ts ∨
      (i + 1 = pos ∧ ∃ before t, ts = before ++ [t] ∧ t.lexeme = .symbol .minus) := by
  obtain ⟨tail, htail⟩ := arrow_prefix_iff.mp harrow
  have hnext : source.drop (i + 1) = '>' :: tail := by
    rw [← List.drop_drop, htail, List.drop_one, List.tail_cons]
  induction h with
  | start => exact absurd hi (Nat.not_lt_zero i)
  | @blank ts pos c rest hscan hb ih =>
    have hdrop := hscan.drop
    rcases Nat.lt_succ_iff_lt_or_eq.mp hi with hi | rfl
    · rcases ih hi with hlit | hpair | ⟨rfl, -⟩
      · exact .inl hlit
      · exact .inr (.inl hpair)
      · obtain rfl := (List.cons.inj (hnext.symm.trans hdrop)).1
        exact absurd hb (by decide)
    · obtain rfl := (List.cons.inj (htail.symm.trans hdrop)).1
      exact absurd hb (by decide)
  | @token ts pos c rest after t hscan hb hr ih =>
    have hdrop := hscan.drop
    obtain ⟨hpos, hreads⟩ := readToken_ok hb hr
    by_cases hbefore : i < pos
    · rcases ih hbefore with ⟨u, hu, hlit⟩ | hpair | ⟨rfl, before, m, rfl, hm⟩
      · exact .inl ⟨u, List.mem_append_left _ hu, hlit⟩
      · exact .inr (.inl (hpair.append [t]))
      · obtain rfl := (List.cons.inj (hnext.symm.trans hdrop)).1
        obtain ⟨op, hop⟩ := readToken_greater hr
        refine .inr (.inl ⟨terminals before, op, [], ?_⟩)
        simp [terminals, Token.terminal?, hm, hop]
    · -- The arrow begins within the token.
      obtain ⟨k, rfl⟩ : ∃ k, i = pos + k := ⟨i - pos, by omega⟩
      have hk : k < t.text.toList.length := by
        rw [String.length_toList]
        omega
      have hminus : t.text.toList.drop k ++ after = '-' :: '>' :: tail := by
        rw [← List.drop_append_of_le_length hk.le, hreads.piece, ← hdrop, List.drop_drop, htail]
      obtain ⟨x, back, hback⟩ := List.exists_cons_of_ne_nil
        (List.ne_nil_of_length_pos (show 0 < (t.text.toList.drop k).length by simp; omega))
      rw [hback] at hminus
      obtain rfl : x = '-' := (List.cons.inj hminus).1
      have hcut : t.text.toList = t.text.toList.take k ++ '-' :: back := by
        rw [← hback, List.take_append_drop]
      have hlength : t.text.length = k + 1 + back.length := by
        have hsum := congrArg List.length hcut
        rw [List.length_append, List.length_take_of_le hk.le, List.length_cons,
          String.length_toList] at hsum
        omega
      rcases (readToken_wording hr).minus hcut with ⟨hlit, hne⟩ | ⟨hm, hfront, rfl⟩
      · have hpositive := List.length_pos_iff.mpr hne
        refine .inl ⟨t, by simp, hlit, ?_, ?_⟩
        · omega
        · omega
      · have hzero : k = 0 := by
          have hnone := congrArg List.length hfront
          rw [List.length_take_of_le hk.le] at hnone
          exact hnone
        subst hzero
        exact .inr (.inr ⟨by rw [hlength]; rfl, ts, t, rfl, hm⟩)

def MinusNumbered : List Terminal → Prop
  | .symbol .minus :: w => (∃ d, w.head? = some (.number d)) ∧ MinusNumbered w
  | _ :: w => MinusNumbered w
  | [] => True

theorem Phrase.minusNumbered_yield {c : Construct} {s : Shape} (p : Phrase c s)
    (w : List Terminal) : MinusNumbered (p.yield ++ w) ↔ MinusNumbered w := by
  induction p generalizing w with
  | newPattern body flags target ih =>
    cases flags <;> simp [yield, inParens, testOf, flagsYield, MinusNumbered, ih]
  | _ => simp_all [yield, inParens, testOf, MinusNumbered]

theorem MinusNumbered.not_compare {before after : List Terminal} {op : CompareOp} :
    ¬MinusNumbered (before ++ .symbol .minus :: .symbol (.compare op) :: after) := by
  induction before with
  | nil =>
    intro h
    obtain ⟨⟨d, hd⟩, -⟩ := h
    simp at hd
  | cons x before ih =>
    intro h
    apply ih
    rw [List.cons_append] at h
    unfold MinusNumbered at h
    split at h
    next heq => exact (List.cons.inj heq).2 ▸ h.2
    next heq => exact (List.cons.inj heq).2 ▸ h
    next heq => exact nomatch heq

section
variable [Pattern.Engine]

theorem tokens_of_compile {source : String} {p : Predicate} (h : compile source = .ok p) :
    ∃ ts, ∃ q : Phrase (.run .any) .whole,
      tokens source.toList = .ok ts ∧ q.yield = terminals ts := by
  obtain ⟨e, he, -⟩ := compile_eq_ok_iff.mp h
  obtain ⟨ts, hts, q, hq, -⟩ := built_of_parseCondition he
  obtain ⟨us, hus, hsame⟩ := (spells_of_trim hts .nil).tokens
  exact ⟨us, q, hus, hq.trans hsame.symm⟩

/-- Whatever arrow there is in a condition, a literal holds it. -/
theorem arrow_in_literal {source : String} {p : Predicate} (h : compile source = .ok p) :
    ∃ ts, tokens source.toList = .ok ts ∧ ∀ i, arrow <+: source.toList.drop i →
      ∃ t ∈ ts, t.IsLiteral ∧ t.Covers i := by
  obtain ⟨ts, q, hts, hq⟩ := tokens_of_compile h
  refine ⟨ts, hts, fun i harrow => ?_⟩
  obtain ⟨init, stop, hscan, rfl⟩ := tokens_eq_ok_iff.mp hts
  have hstop : source.toList.length ≤ stop := List.drop_eq_nil_iff.mp hscan.drop
  have hlength : i + 2 ≤ source.toList.length := by
    have hle := harrow.length_le
    rw [List.length_drop] at hle
    simp only [arrow, List.length_cons, List.length_nil] at hle
    omega
  rcases hscan.arrow harrow (by omega) with ⟨t, ht, hlit⟩ | hpair | ⟨hi, -⟩
  · exact ⟨t, List.mem_append_left _ ht, hlit⟩
  · obtain ⟨before, op, after, hbefore⟩ := hpair.append [endAt stop]
    have hnumbered : MinusNumbered (q.yield ++ []) := (q.minusNumbered_yield []).mpr trivial
    rw [List.append_nil, hq, hbefore] at hnumbered
    exact absurd hnumbered MinusNumbered.not_compare
  · omega

theorem arrowless_of_literals {source : String} {p : Predicate} (h : compile source = .ok p)
    {ts : List Token} (hts : tokens source.toList = .ok ts)
    (hliterals : ∀ t ∈ ts, t.IsLiteral → ¬arrow <:+: t.text.toList) :
    ¬arrow <:+: source.toList := by
  intro harrow
  obtain ⟨i, hi⟩ := arrow_infix_iff.mp harrow
  obtain ⟨us, hus, hcover⟩ := arrow_in_literal h
  obtain rfl := Except.ok.inj (hts.symm.trans hus)
  obtain ⟨t, ht, hlit, hpos, hend⟩ := hcover i hi
  obtain ⟨init, stop, hscan, rfl⟩ := tokens_eq_ok_iff.mp hts
  have hinit : t ∈ init := by
    rcases List.mem_append.mp ht with ht | ht
    · exact ht
    · obtain rfl := List.mem_singleton.mp ht
      rcases hlit with ⟨value, hv⟩ | ⟨body, flags, hv⟩ <;> exact nomatch hv
  -- The arrow stands in the text of the literal, as many characters into it.
  apply hliterals t ht hlit
  obtain ⟨more, hmore⟩ := hscan.text_prefix t hinit
  refine arrow_infix_iff.mpr ⟨i - t.pos, ?_⟩
  have hdrop : (t.text.toList.drop (i - t.pos)) ++ more = source.toList.drop i := by
    have hle : i - t.pos ≤ t.text.toList.length := by
      rw [String.length_toList]
      omega
    rw [← List.drop_append_of_le_length hle, hmore, List.drop_drop]
    congr 1
    omega
  rw [← hdrop] at hi
  refine List.prefix_of_prefix_length_le hi (List.prefix_append _ _) ?_
  rw [List.length_drop, String.length_toList]
  simp only [arrow, List.length_cons, List.length_nil]
  omega

end

end Condition

namespace Definition

theorem piecesFrom_arrow {cs : List Char} (h : ¬arrow <:+: cs) (piece rest : List Char) :
    piecesFrom piece (cs ++ '-' :: '>' :: rest) = (piece.reverse ++ cs) :: pieces rest := by
  induction cs generalizing piece with
  | nil => simp [piecesFrom, pieces]
  | cons c cs ih =>
    obtain ⟨hhead, htail⟩ := not_or.mp (mt List.infix_cons_iff.mpr h)
    have hstep : piecesFrom piece (c :: (cs ++ '-' :: '>' :: rest)) =
        piecesFrom (c :: piece) (cs ++ '-' :: '>' :: rest) := by
      rw [piecesFrom]
      rintro more rfl heq
      cases cs with
      | nil => simp at heq
      | cons d ds =>
        obtain rfl := (List.cons.inj heq).1
        exact hhead ⟨ds, rfl⟩
    rw [List.cons_append, hstep, ih htail]
    simp

theorem piecesFrom_arrowless {cs : List Char} (h : ¬arrow <:+: cs) (piece : List Char) :
    piecesFrom piece cs = [piece.reverse ++ cs] := by
  induction cs generalizing piece with
  | nil => simp [piecesFrom]
  | cons c cs ih =>
    obtain ⟨hhead, htail⟩ := not_or.mp (mt List.infix_cons_iff.mpr h)
    have hstep : piecesFrom piece (c :: cs) = piecesFrom (c :: piece) cs := by
      rw [piecesFrom]
      rintro more rfl rfl
      exact hhead ⟨more, rfl⟩
    rw [hstep, ih htail]
    simp

theorem stripQuotes_quoted (cs : List Char) : stripQuotes ('"' :: (cs ++ ['"'])) = cs := by
  simp [stripQuotes]

end Definition

theorem Condition.trim_ne_nil_of_compile [Pattern.Engine] {source : String} {p : Predicate}
    (h : Condition.compile source = .ok p) : Text.trim source.toList ≠ [] := by
  intro hblank
  have hempty : (Condition.compile "").isOk = false := rfl
  have htrimmed : Text.trimmed source = "" := by rw [Text.trimmed, hblank, String.ofList_nil]
  rw [← htrimmed, Condition.compile_trimmed, h] at hempty
  simp [Except.isOk, Except.toBool] at hempty

/-- The text of a rule with this condition and this category. -/
def composed (source category : String) : String := source ++ " -> \"" ++ category ++ "\""

section Composed

variable {source category : String}

theorem composed_toList : (composed source category).toList =
    (source.toList ++ [' ']) ++ '-' :: '>' :: ' ' :: '"' :: (category.toList ++ ['"']) := by
  simp [composed]

theorem not_arrow_append {cs : List Char} {x : Char} (h : ¬arrow <:+: cs) (hx : x ≠ '>') :
    ¬arrow <:+: cs ++ [x] := by
  intro harrow
  rcases List.infix_concat_iff.mp harrow with hsuffix | hinfix
  · obtain ⟨before, hbefore⟩ := hsuffix
    have hlast := congrArg List.getLast? hbefore
    simp [arrow] at hlast
    exact hx hlast.symm
  · exact h hinfix

theorem not_arrow_cons {cs : List Char} {x : Char} (h : ¬arrow <:+: cs) (hx : x ≠ '-') :
    ¬arrow <:+: x :: cs := by
  intro harrow
  rcases List.infix_cons_iff.mp harrow with hprefix | hinfix
  · exact hx (List.cons.inj (arrow_prefix_iff.mp hprefix).choose_spec).1
  · exact h hinfix

theorem pieces_composed (hs : ¬arrow <:+: source.toList) (hc : ¬arrow <:+: category.toList) :
    Definition.pieces (composed source category).toList =
      [source.toList ++ [' '], ' ' :: '"' :: (category.toList ++ ['"'])] := by
  have hbefore : ¬arrow <:+: source.toList ++ [' '] := not_arrow_append hs (by decide)
  have hafter : ¬arrow <:+: ' ' :: '"' :: (category.toList ++ ['"']) := by
    apply not_arrow_cons _ (by decide)
    apply not_arrow_cons _ (by decide)
    exact not_arrow_append hc (by decide)
  rw [composed_toList, Definition.pieces, Definition.piecesFrom_arrow hbefore, Definition.pieces,
    Definition.piecesFrom_arrowless hafter]
  rfl

theorem trim_quoted (cs : List Char) :
    Text.trim (' ' :: '"' :: (cs ++ ['"'])) = '"' :: (cs ++ ['"']) := by
  rw [Text.trim_blank_cons Text.isBlank_space]
  exact Text.trim_enclosed (by decide) (by decide) cs

section
variable [Pattern.Engine]

theorem split_composed {p : Predicate} (h : Condition.compile source = .ok p)
    (hs : ¬arrow <:+: source.toList) (hne : category ≠ "") (htrim : Text.trimmed category = category)
    (hc : ¬arrow <:+: category.toList) :
    Definition.split (composed source category) = .ok (Text.trimmed source, category) := by
  have hcondition : (Text.trim source.toList).isEmpty = false := by
    simpa using Condition.trim_ne_nil_of_compile h
  have hcategory : Text.trim category.toList = category.toList := by
    have hlist := congrArg String.toList htrim
    rwa [Text.trimmed, String.toList_ofList] at hlist
  have hnonempty : category.toList.isEmpty = false := by simpa using hne
  rw [Definition.split, pieces_composed hs hc]
  simp only [Text.trim_append_blank Text.isBlank_space, trim_quoted, Definition.stripQuotes_quoted,
    hcondition, hcategory, hnonempty]
  simp [Text.trimmed]

theorem Cache.getText_found {p : Predicate} (c : Cache) (h : Condition.compile source = .ok p) :
    ∃ e, (c.getText source).found = .ok e := by
  have hfound : ∃ q, (c.getText source).found.map CacheEntry.predicate = .ok q := by
    rw [Cache.getText, getOrCompile_found, textKey, Condition.compile_trimmed, h]
    split
    next e _ => exact ⟨e.predicate, rfl⟩
    next => exact ⟨p, rfl⟩
  obtain ⟨q, hq⟩ := hfound
  cases hf : (c.getText source).found with
  | ok e => exact ⟨e, rfl⟩
  | error f => simp [hf, Except.map] at hq

theorem check_composed {p : Predicate} (h : Condition.compile source = .ok p)
    (hsplit : Definition.split (composed source category) = .ok (Text.trimmed source, category))
    (c : Cache) : (Check.text (composed source category) c).category = .ok category := by
  have htrimmed : Condition.compile (Text.trimmed source) = .ok p := by
    rw [Condition.compile_trimmed, h]
  obtain ⟨e, he⟩ := c.getText_found htrimmed
  simp [Check.text, hsplit, he, Except.map, Except.mapError]

end

end Composed

/-- A condition holds arrows in its literals only. Where these hold none, the rule put together from
it and a category is read back as the condition, trimmed, and the category, whatever quotes that has,
and passes the check with any cache. -/
theorem composed_rule_read_back [Pattern.Engine] {source : String} {p : Predicate}
    (h : Condition.compile source = .ok p) :
    ∃ ts, Condition.tokens source.toList = .ok ts ∧
      (∀ i, arrow <+: source.toList.drop i → ∃ t ∈ ts, t.IsLiteral ∧ t.Covers i) ∧
      ((∀ t ∈ ts, t.IsLiteral → ¬arrow <:+: t.text.toList) →
        ∀ category, category ≠ "" → Text.trimmed category = category →
          ¬arrow <:+: category.toList →
          Definition.split (composed source category) = .ok (Text.trimmed source, category) ∧
            ∀ c, (Check.text (composed source category) c).category = .ok category) := by
  obtain ⟨ts, hts, hcovers⟩ := Condition.arrow_in_literal h
  refine ⟨ts, hts, hcovers, ?_⟩
  intro hliterals category hne htrim hc
  have hs := Condition.arrowless_of_literals h hts hliterals
  have hsplit := split_composed h hs hne htrim hc
  exact ⟨hsplit, check_composed h hsplit⟩

def refundCondition : String :=
  " transaction.merchant.includes(\"-\") && transaction.amount > -5 "

open scoped Pattern.Builtin in
theorem composed_rule_read_back_refund :
    (Condition.compile refundCondition).isOk = true ∧
      Definition.split (composed refundCondition "\"Big\" -") =
        .ok (Text.trimmed refundCondition, "\"Big\" -") ∧
      ∀ c, (Check.text (composed refundCondition "\"Big\" -") c).category = .ok "\"Big\" -" := by
  have hok : (Condition.compile refundCondition).isOk = true := by decide +kernel
  obtain ⟨p, hp⟩ := exists_of_isOk hok
  obtain ⟨ts, hts, -, hread⟩ := composed_rule_read_back hp
  have harrowless : (Condition.tokens refundCondition.toList).toOption.all
      (fun us => us.all fun t => !decide (arrow <:+: t.text.toList)) = true := by decide +kernel
  refine ⟨hok, hread ?_ "\"Big\" -" (by decide) (by decide +kernel) (by decide +kernel)⟩
  intro t ht _
  rw [hts] at harrowless
  have hall : ∀ u ∈ ts, ¬arrow <:+: u.text.toList := by simpa [Except.toOption] using harrowless
  exact hall t ht

end LedgerRules
