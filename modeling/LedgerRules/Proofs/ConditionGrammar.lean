import LedgerRules.Pattern.Builtin
import LedgerRules.Proofs.Scanning
import LedgerRules.Proofs.Snags

/-! A text that has tokens is a condition if and only if its tokens derive from the grammar, and its
expression is the one that the only derivation builds. A number after a minus sign is rounded to the
working precision on the way: up to there the expression is the one with the negated number. -/

namespace LedgerRules.Numeric

def Decimal.opposite : Decimal → Decimal
  | finite n c e => finite (!n && c ≠ 0) c e
  | infinite n => infinite !n
  | nan n s p => nan (!n) s p

/-- No digit is rounded away, and none lies below the working exponents. -/
def Decimal.InPrecision : Decimal → Prop
  | finite _ c e => (c ≠ 0 → digitCount c ≤ precision) ∧ tiny ≤ e
  | _ => True

theorem Decimal.toWorking_exponent {c c' : Nat} {e e' : Int} (hc : c ≠ 0)
    (h : toWorking c e = some (c', e')) : e + (digitCount c - precision) ≤ e' ∧ tiny ≤ e' := by
  simp only [toWorking, hc, ↓reduceIte] at h
  generalize ht : max (e + max ((digitCount c : Int) - precision) 0)
    (if e < tiny then tiny else e) = target at h
  generalize (if e < target then raiseTo c e target else c) = c₁ at h
  have htarget : e + (digitCount c - precision) ≤ target ∧ tiny ≤ target := by
    split at ht <;> omega
  by_cases hd : digitCount c₁ > precision
  · simp only [hd, ↓reduceIte, Option.ite_none_left_eq_some, Option.some.injEq,
      Prod.mk.injEq] at h
    omega
  · simp only [hd, ↓reduceIte, Option.ite_none_left_eq_some, Option.some.injEq,
      Prod.mk.injEq] at h
    omega

theorem Decimal.toWorking_eq_self_iff {c : Nat} {e : Int} (he : e ≤ 0) :
    toWorking c e = some (c, e) ↔ (c ≠ 0 → digitCount c ≤ precision) ∧ tiny ≤ e := by
  by_cases hc : c = 0
  · simp only [toWorking, hc, ↓reduceIte, Option.some.injEq, Prod.mk.injEq, true_and, ne_eq,
      not_true_eq_false, false_implies, workingMax]
    omega
  · constructor
    · intro h
      obtain ⟨hd, ht⟩ := toWorking_exponent hc h
      exact ⟨fun _ => by omega, ht⟩
    · rintro ⟨hd, ht⟩
      have hfew : ¬digitCount c > precision := Nat.not_lt.mpr (hd hc)
      have htarget : max (e + max ((digitCount c : Int) - precision) 0)
          (if e < tiny then tiny else e) = e := by
        rw [if_neg (Int.not_lt.mpr ht)]
        omega
      have hadj : ¬adjusted c e > workingMax := by
        simp only [adjusted, workingMax, precision] at hfew ⊢
        omega
      simp [toWorking, hc, htarget, hfew, hadj]

theorem Decimal.negated?_eq_opposite_iff {n : Bool} {c : Nat} {e : Int} (he : e ≤ 0) :
    (finite n c e).negated? = some (finite n c e).opposite ↔ (finite n c e).InPrecision := by
  rw [InPrecision, ← toWorking_eq_self_iff he]
  simp only [negated?, opposite, Option.map_eq_some_iff, Prod.exists, Decimal.finite.injEq]
  constructor
  · rintro ⟨c', e', h, -, rfl, rfl⟩
    exact h
  · intro h
    exact ⟨c, e, h, rfl, rfl, rfl⟩

end LedgerRules.Numeric

namespace LedgerRules.Condition
open Numeric

theorem ended_append {ts : List Token} (h : ∀ t ∈ ts, t.lexeme ≠ .finish) (pos : Nat) :
    Ended (ts ++ [endAt pos]) := by
  induction ts with
  | nil => exact .finish rfl
  | cons t ts ih =>
    refine .cons (h t List.mem_cons_self) (ih fun u hu => ?_)
    exact h u (List.mem_cons_of_mem t hu)

theorem ended_of_tokens {source : List Char} {ts : List Token} (h : tokens source = .ok ts) :
    Ended ts := by
  obtain ⟨init, stop, hs, rfl⟩ := tokens_eq_ok_iff.mp h
  exact ended_append hs.proper stop

theorem terminals_eq_of_content {ts ts' : List Token}
    (h : ts'.map Token.content = ts.map Token.content) : terminals ts' = terminals ts := by
  induction ts generalizing ts' with
  | nil =>
    obtain rfl := List.map_eq_nil_iff.mp h
    rfl
  | cons t ts ih =>
    obtain ⟨t', rest, rfl, ht, hrest⟩ := List.map_eq_cons_iff.mp h
    obtain ⟨hl, htext⟩ := Prod.mk.inj ht
    have hterm : t'.terminal? = t.terminal? := by rw [Token.terminal?, hl, htext, Token.terminal?]
    rw [terminals, List.filterMap_cons, hterm, terminals, List.filterMap_cons]
    have := ih hrest
    rw [terminals, terminals] at this
    rw [this]

inductive Lexeme.IsRead : Lexeme → Prop
  | text (value : String) : IsRead (.text value)
  | number (whole fraction : List Char) : IsRead (.number (numberValue whole fraction))
  | pattern (body flags : List Char) : (∀ d ∈ flags, isFlagChar d = true) →
      IsRead (.pattern (String.ofList body) (String.ofList flags))
  | word : IsRead .word
  | symbol (s : Symbol) : IsRead (.symbol s)

theorem readToken_lexeme {pos : Nat} {c : Char} {more after : List Char} {t : Token}
    (h : readToken pos c more = .ok (t, after)) : t.lexeme.IsRead := by
  unfold readToken at h
  split at h
  · split at h
    · obtain ⟨rfl, -⟩ := Prod.mk.inj (Except.ok.inj h)
      exact .text _
    · simp at h
  · split at h
    · split at h
      · obtain ⟨rfl, -⟩ := Prod.mk.inj (Except.ok.inj h)
        exact .number _ _
      · simp at h
    · split at h
      · split at h
        · simp [fault] at h
        · simp [fault] at h
        · obtain ⟨rfl, -⟩ := Prod.mk.inj (Except.ok.inj h)
          exact .pattern _ _ fun _ hd => List.mem_takeWhile_imp hd
      · split at h
        · obtain ⟨rfl, -⟩ := Prod.mk.inj (Except.ok.inj h)
          exact .word
        · cases hl : looseOperator? (c :: more) with
          | some op => simp [hl, fault] at h
          | none =>
            cases hs : takeSymbol? (c :: more) with
            | none => simp [hl, hs, fault] at h
            | some p =>
              simp only [hl, hs, Except.ok.injEq, Prod.mk.injEq] at h
              obtain ⟨rfl, -⟩ := h
              exact .symbol _

theorem Scanned.isRead {source rest : List Char} {ts : List Token} {pos : Nat}
    (h : Scanned source ts pos rest) : ∀ t ∈ ts, t.lexeme.IsRead := by
  induction h with
  | start => exact List.forall_mem_nil _
  | blank _ _ ih => exact ih
  | token _ _ hr ih =>
    exact List.forall_mem_append.mpr ⟨ih, List.forall_mem_singleton.mpr (readToken_lexeme hr)⟩

theorem Scanned.number {source rest : List Char} {ts : List Token} {pos : Nat}
    (h : Scanned source ts pos rest) :
    ∀ t ∈ ts, ∀ d, t.lexeme = .number d → ∃ n e, d = .finite false n e ∧ e ≤ 0 := by
  intro t ht d hd
  have hread := h.isRead t ht
  rw [hd] at hread
  cases hread with
  | number whole fraction => exact ⟨_, _, rfl, by omega⟩

theorem mem_of_mem_minusNumbers {w : List Terminal} {d : Decimal} (h : d ∈ minusNumbers w) :
    .number d ∈ w := by
  induction w using minusNumbers.induct with
  | case1 d' w ih =>
    rw [minusNumbers, List.mem_cons] at h
    rcases h with rfl | h
    · simp
    · simp [ih h]
  | case2 x w hx ih =>
    rw [minusNumbers] at h
    · exact List.mem_cons_of_mem x (ih h)
    · exact hx
  | case3 => simp [minusNumbers] at h

theorem negates_iff_inPrecision {source : List Char} {ts : List Token} {d : Decimal}
    (h : tokens source = .ok ts) (hd : d ∈ minusNumbers (terminals ts)) :
    d.negated? = some d.opposite ↔ d.InPrecision := by
  obtain ⟨init, stop, hs, rfl⟩ := tokens_eq_ok_iff.mp h
  obtain ⟨t, ht, htd⟩ := List.mem_filterMap.mp (mem_of_mem_minusNumbers hd)
  have hl := Token.terminal?_number.mp htd
  have hinit : t ∈ init := by
    rcases List.mem_append.mp ht with hm | hm
    · exact hm
    · obtain rfl := List.mem_singleton.mp hm
      exact absurd hl (by simp [endAt])
  obtain ⟨n, e, rfl, he⟩ := hs.number t hinit d hl
  exact Decimal.negated?_eq_opposite_iff he

namespace Phrase

def negatives {c : Construct} {s : Shape} : Phrase c s → List Decimal
  | run first more => first.negatives ++ more.negatives
  | noPart => []
  | part _ next more => next.negatives ++ more.negatives
  | alone o => o.negatives
  | compare _ left right => left.negatives ++ right.negatives
  | called p calls => p.negatives ++ calls.negatives
  | noCall => []
  | includes needle calls => needle.negatives ++ calls.negatives
  | changeCase _ calls => calls.negatives
  | group inner => inner.negatives
  | text _ => []
  | number _ => []
  | negative value => [value]
  | field _ => []
  | datePart _ argument => argument.negatives
  | pattern _ _ target => target.negatives
  | newPattern _ _ target => target.negatives

theorem minusNumbers_yield {c : Construct} {s : Shape} (p : Phrase c s) (w : List Terminal) :
    minusNumbers (p.yield ++ w) = p.negatives ++ minusNumbers w := by
  induction p generalizing w with
  | newPattern body flags target ih =>
    cases flags <;> simp [yield, negatives, inParens, testOf, flagsYield, minusNumbers, ih]
  | _ => simp_all [yield, negatives, inParens, testOf, minusNumbers]

section
variable [Pattern.Engine]

theorem build_congr {negate negate' : Decimal → Option Decimal} {c : Construct} {s : Shape}
    (p : Phrase c s) (h : ∀ d ∈ p.negatives, negate d = negate' d) :
    p.build negate = p.build negate' := by
  induction p with
  | run first more ih₁ ih₂ | part kind first more ih₁ ih₂ | compare op first more ih₁ ih₂
  | called first more ih₁ ih₂ | includes first more ih₁ ih₂ =>
    obtain ⟨h₁, h₂⟩ := List.forall_mem_append.mp h
    simp only [build, ih₁ h₁, ih₂ h₂]
    rfl
  | alone o ih | group o ih => exact ih h
  | changeCase upper o ih | datePart d o ih | pattern body flags o ih
  | newPattern body flags o ih =>
    simp only [build, ih h]
    rfl
  | negative value =>
    rw [build, build, h value (by simp [negatives])]
  | _ => rfl

def Agree (negate negate' : Decimal → Option Decimal) {c : Construct} :
    {s : Shape} → Phrase c s → Prop
  | .whole, p => ∀ e, p.build negate = some e → p.build negate' = some e →
    ∀ d ∈ p.negatives, negate d = negate' d
  | .more, m => ∀ e left left', m.build negate left = some e → m.build negate' left' = some e →
    left = left' ∧ ∀ d ∈ m.negatives, negate d = negate' d

theorem agree (negate negate' : Decimal → Option Decimal) {c : Construct} {s : Shape}
    (p : Phrase c s) : p.Agree negate negate' := by
  induction p with
  | run first more ihf ihm =>
    intro e h h'
    obtain ⟨e₁, h₁, h₂⟩ := build_run.mp h
    obtain ⟨e₁', h₁', h₂'⟩ := build_run.mp h'
    obtain ⟨rfl, hm⟩ := ihm e _ _ h₂ h₂'
    exact List.forall_mem_append.mpr ⟨ihf _ h₁ h₁', hm⟩
  | noPart | noCall =>
    intro e left left' h h'
    exact ⟨Option.some.inj (h.trans h'.symm), by simp [negatives]⟩
  | part kind next more ihn ihm =>
    intro e left left' h h'
    obtain ⟨e₁, h₁, h₂⟩ := build_part.mp h
    obtain ⟨e₁', h₁', h₂'⟩ := build_part.mp h'
    obtain ⟨he, hm⟩ := ihm e _ _ h₂ h₂'
    obtain ⟨-, rfl, rfl⟩ := Expr.join.inj he
    exact ⟨rfl, List.forall_mem_append.mpr ⟨ihn _ h₁ h₁', hm⟩⟩
  | alone o ih | group o ih => exact ih
  | compare op left right ihl ihr =>
    intro e h h'
    obtain ⟨l, r, hl, hr, -, rfl⟩ := build_compare.mp h
    obtain ⟨l', r', hl', hr', -, he⟩ := build_compare.mp h'
    obtain ⟨-, rfl, rfl⟩ := Expr.compare.inj he
    exact List.forall_mem_append.mpr ⟨ihl _ hl hl', ihr _ hr hr'⟩
  | called p calls ihp ihc =>
    intro e h h'
    obtain ⟨e₁, h₁, h₂⟩ := build_called.mp h
    obtain ⟨e₁', h₁', h₂'⟩ := build_called.mp h'
    obtain ⟨rfl, hm⟩ := ihc e _ _ h₂ h₂'
    exact List.forall_mem_append.mpr ⟨ihp _ h₁ h₁', hm⟩
  | includes needle calls ihn ihc =>
    intro e left left' h h'
    obtain ⟨n, hn, -, h⟩ := build_includes.mp h
    obtain ⟨n', hn', -, h'⟩ := build_includes.mp h'
    obtain ⟨he, hm⟩ := ihc e _ _ h h'
    obtain ⟨rfl, rfl⟩ := Expr.includes.inj he
    exact ⟨rfl, List.forall_mem_append.mpr ⟨ihn _ hn hn', hm⟩⟩
  | changeCase upper calls ih =>
    intro e left left' h h'
    obtain ⟨he, hm⟩ := ih e _ _ (build_changeCase.mp h).2 (build_changeCase.mp h').2
    exact ⟨(Expr.changeCase.inj he).2, hm⟩
  | negative value =>
    intro e h h'
    obtain ⟨n, hn, rfl⟩ := build_negative.mp h
    obtain ⟨n', hn', he⟩ := build_negative.mp h'
    obtain rfl := Expr.number.inj he
    simp [negatives, hn, hn']
  | datePart d argument ih =>
    intro e h h'
    obtain ⟨a, ha, -, rfl⟩ := build_datePart.mp h
    obtain ⟨a', ha', -, he⟩ := build_datePart.mp h'
    obtain ⟨-, rfl⟩ := Expr.datePart.inj he
    exact ih _ ha ha'
  | pattern body flags target ih =>
    intro e h h'
    obtain ⟨a, _, ha, -, -, rfl⟩ := build_pattern.mp h
    obtain ⟨a', _, ha', -, -, he⟩ := build_pattern.mp h'
    obtain ⟨-, rfl⟩ := Expr.search.inj he
    exact ih _ ha ha'
  | newPattern body flags target ih =>
    intro e h h'
    obtain ⟨a, _, ha, -, -, rfl⟩ := build_newPattern.mp h
    obtain ⟨a', _, ha', -, -, he⟩ := build_newPattern.mp h'
    obtain ⟨-, rfl⟩ := Expr.search.inj he
    exact ih _ ha ha'
  | text | number | field =>
    intro e h h'
    simp [negatives]

def Negates (negate : Decimal → Option Decimal) {c : Construct} : {s : Shape} → Phrase c s → Prop
  | .whole, p => ∀ e, p.build negate = some e → ∀ d ∈ p.negatives, negate d ≠ none
  | .more, m => ∀ e left, m.build negate left = some e → ∀ d ∈ m.negatives, negate d ≠ none

theorem negates (negate : Decimal → Option Decimal) {c : Construct} {s : Shape}
    (p : Phrase c s) : p.Negates negate := by
  induction p with
  | run first more ihf ihm =>
    intro e h
    obtain ⟨e₁, h₁, h₂⟩ := build_run.mp h
    exact List.forall_mem_append.mpr ⟨ihf _ h₁, ihm _ _ h₂⟩
  | part kind next more ihn ihm =>
    intro e left h
    obtain ⟨e₁, h₁, h₂⟩ := build_part.mp h
    exact List.forall_mem_append.mpr ⟨ihn _ h₁, ihm _ _ h₂⟩
  | called p calls ihp ihc =>
    intro e h
    obtain ⟨e₁, h₁, h₂⟩ := build_called.mp h
    exact List.forall_mem_append.mpr ⟨ihp _ h₁, ihc _ _ h₂⟩
  | compare op left right ihl ihr =>
    intro e h
    obtain ⟨l, r, hl, hr, -, -⟩ := build_compare.mp h
    exact List.forall_mem_append.mpr ⟨ihl _ hl, ihr _ hr⟩
  | includes needle calls ihn ihc =>
    intro e left h
    obtain ⟨n, hn, -, h⟩ := build_includes.mp h
    exact List.forall_mem_append.mpr ⟨ihn _ hn, ihc _ _ h⟩
  | changeCase upper calls ih =>
    intro e left h
    exact ih _ _ (build_changeCase.mp h).2
  | alone o ih | group o ih => exact ih
  | datePart d argument ih =>
    intro e h
    obtain ⟨a, ha, -, -⟩ := build_datePart.mp h
    exact ih _ ha
  | pattern body flags target ih =>
    intro e h
    obtain ⟨a, _, ha, -⟩ := build_pattern.mp h
    exact ih _ ha
  | newPattern body flags target ih =>
    intro e h
    obtain ⟨a, _, ha, -⟩ := build_newPattern.mp h
    exact ih _ ha
  | negative value =>
    intro e h
    obtain ⟨n, hn, -⟩ := build_negative.mp h
    simp [negatives, hn]
  | noPart | noCall =>
    intro e left h
    exact List.forall_mem_nil _
  | text | number | field =>
    intro e h
    exact List.forall_mem_nil _

end

end Phrase

section
variable [Pattern.Engine]

/-- A condition of the grammar derives the tokens and builds the expression. -/
def Derives (negate : Decimal → Option Decimal) (ts : List Token) (e : Expr) : Prop :=
  ∃ p : Phrase (.run .any) .whole, p.yield = terminals ts ∧ p.depth ≤ maxNesting ∧
    p.build negate = some e

theorem wholeCondition_gives {ts : List Token} (fuel : Nat) (he : Ended ts) :
    Gives (wholeCondition fuel) ts fun e w =>
      Built (.run .any) maxNesting e w ∧ w = terminals ts := by
  refine .peek he fun t rest hts => ?_
  split
  · exact .failAt
  next =>
    refine (disjunction_gives (level_sound fuel maxNesting) he).bind_split ?_
    intro e w rest he hw hb
    refine (expectEnd_gives he).bind ?_
    rintro _ v rest' he' ⟨rfl, hend⟩
    refine .pure he' ?_
    rw [hw, hend, List.append_nil, List.append_nil]
    exact ⟨hb, rfl⟩

theorem wholeCondition_runs {ts : List Token} {p : Phrase (.run .any) .whole} {e : Expr}
    (he : Ended ts) (hp : p.yield = terminals ts) (hd : p.depth ≤ maxNesting)
    (hb : p.build Decimal.negated? = some e) : Runs (wholeCondition ts.length) ts e [] := by
  obtain ⟨x, v, hx, -⟩ := p.yield_eq_cons rfl
  obtain ⟨t, rest, rfl, hxt, he', hw⟩ := he.of_terminals (hp ▸ hx)
  refine .peek ?_
  rw [if_neg fun hf => by simp [Token.terminal?_eq_none.mpr hf] at hxt]
  have hlen : p.yield.length ≤ (t :: rest).length := hp ▸ length_terminals_le _
  refine (p.read _ hd hb he (by simp [hp]) (Stops.nil _) hlen).bind fun rest he hw => ?_
  refine (Runs.expectEnd he hw).bind fun rest he hw => ?_
  exact .pure he hw

end

theorem parseWith_eq {reader : Nat → Reader Expr} {source : String} {ts : List Token}
    (h : tokens (Text.trim source.toList) = .ok ts) :
    parseWith reader source =
      Except.mapError Failure.caught (Prod.fst <$> (reader ts.length).run ts) := by
  unfold parseWith
  rw [h]
  rfl

theorem parseWith_eq_ok {reader : Nat → Reader Expr} {source : String} {ts rest : List Token}
    {e : Expr} (h : tokens (Text.trim source.toList) = .ok ts)
    (hr : (reader ts.length).run ts = .ok (e, rest)) : parseWith reader source = .ok e := by
  rw [parseWith_eq h, hr]
  rfl

theorem parseWith_eq_error {reader : Nat → Reader Expr} {source : String} {ts : List Token}
    {f : Failure} (h : tokens (Text.trim source.toList) = .ok ts)
    (hr : (reader ts.length).run ts = .error f) : parseWith reader source = .error f.caught := by
  rw [parseWith_eq h, hr]
  rfl

theorem parseCondition_cases [Pattern.Engine] {source : String} {ts : List Token}
    (h : tokens source.toList = .ok ts) :
    (∃ e, parseCondition source = .ok e ∧ Derives Decimal.negated? ts e) ∨
    (∃ f, parseCondition source = .error (.fault f)) ∨
    (parseCondition source = .error (.breakdown .numberOverflow) ∧
      ∃ d ∈ minusNumbers (terminals ts), d.negated? = none) := by
  obtain ⟨ts', h', hc⟩ := tokens_trim h
  have he := ended_of_tokens h'
  cases hr : (wholeCondition ts'.length).run ts' with
  | ok p =>
    obtain ⟨-, w, -, ⟨p', hp, hd, hb⟩, rfl⟩ := wholeCondition_gives _ he p.1 p.2 hr
    rw [terminals_eq_of_content hc] at hp
    exact .inl ⟨p.1, parseWith_eq_ok h' hr, p', hp, hd, hb⟩
  | error f =>
    have hparse : parseCondition source = .error f.caught := parseWith_eq_error h' hr
    cases f with
    | fault f => exact .inr (.inl ⟨f, hparse⟩)
    | breakdown b =>
      have hbreaks := (wholeCondition_breakdown_iff he).mp hr
      rw [terminals_eq_of_content hc] at hbreaks
      rcases hbreaks.kinds with rfl | rfl
      · exact .inr (.inr ⟨hparse, hbreaks.exists_minusNumber⟩)
      · exact .inr (.inl ⟨_, hparse⟩)

theorem parseCondition_eq_ok_iff [Pattern.Engine] {source : String} {ts : List Token} {e : Expr}
    (h : tokens source.toList = .ok ts) :
    parseCondition source = .ok e ↔ Derives Decimal.negated? ts e := by
  constructor
  · intro hp
    rcases parseCondition_cases h with ⟨e', he, hd⟩ | ⟨f, hf⟩ | ⟨hf, -⟩
    · obtain rfl := Except.ok.inj (hp.symm.trans he)
      exact hd
    · simp [hp] at hf
    · simp [hp] at hf
  · rintro ⟨p, hp, hd, hb⟩
    obtain ⟨ts', h', hc⟩ := tokens_trim h
    rw [← terminals_eq_of_content hc] at hp
    obtain ⟨rest, hr, -⟩ := wholeCondition_runs (ended_of_tokens h') hp hd hb
    exact parseWith_eq_ok h' hr

/-- The expression of a phrase when every negated number is the exact one. -/
def exactly (d : Decimal) : Option Decimal := some d.opposite

theorem Phrase.negatives_eq_minusNumbers (p : Phrase (.run .any) .whole) {ts : List Token}
    (hp : p.yield = terminals ts) : p.negatives = minusNumbers (terminals ts) := by
  have := p.minusNumbers_yield []
  rw [List.append_nil, minusNumbers, List.append_nil] at this
  rw [← this, hp]

/-- A text with tokens is a condition exactly when they derive from the grammar, and then it means
what the one derivation builds. Numbers after a minus sign are the exact ones as long as they are
within the working precision; a number beyond it is rounded, or stops the reading. -/
theorem parseCondition_grammar [Pattern.Engine] {source : String} {ts : List Token}
    (h : tokens source.toList = .ok ts) :
    (∀ p q : Phrase (.run .any) .whole, p.yield = terminals ts → q.yield = terminals ts → p = q) ∧
    (∀ e, parseCondition source = .ok e ↔ Derives Decimal.negated? ts e) ∧
    ((∀ d ∈ minusNumbers (terminals ts), d.InPrecision) →
      (∀ e, parseCondition source = .ok e ↔ Derives exactly ts e) ∧
      ((∀ e, ¬Derives exactly ts e) → ∃ f, parseCondition source = .error (.fault f))) ∧
    ∀ e, Derives exactly ts e →
      (parseCondition source = .ok e ↔ ∀ d ∈ minusNumbers (terminals ts), d.InPrecision) := by
  have hunique : ∀ p q : Phrase (.run .any) .whole, p.yield = terminals ts →
      q.yield = terminals ts → p = q := by
    intro p q hp hq
    have hpq : p.yield ++ [] = q.yield ++ [] := by rw [hp, hq]
    exact (p.told q hpq (Stops.nil _) (Stops.nil _)).1
  have hbuild : ∀ p : Phrase (.run .any) .whole, p.yield = terminals ts →
      (∀ d ∈ minusNumbers (terminals ts), d.InPrecision) →
      p.build Decimal.negated? = p.build exactly := by
    intro p hp hprec
    refine p.build_congr fun d hd => ?_
    rw [p.negatives_eq_minusNumbers hp] at hd
    exact (negates_iff_inPrecision h hd).mpr (hprec d hd)
  have hexact : (∀ d ∈ minusNumbers (terminals ts), d.InPrecision) → ∀ e,
      (parseCondition source = .ok e ↔ Derives exactly ts e) := by
    intro hprec e
    rw [parseCondition_eq_ok_iff h]
    constructor
    · rintro ⟨p, hp, hd, hb⟩
      exact ⟨p, hp, hd, (hbuild p hp hprec).symm.trans hb⟩
    · rintro ⟨p, hp, hd, hb⟩
      exact ⟨p, hp, hd, (hbuild p hp hprec).trans hb⟩
  refine ⟨hunique, fun e => parseCondition_eq_ok_iff h,
    fun hprec => ⟨hexact hprec, fun hnone => ?_⟩,
    fun e hder => ⟨fun hok d hd => ?_, fun hprec => (hexact hprec e).mpr hder⟩⟩
  · rcases parseCondition_cases h with ⟨e, he, -⟩ | hf | ⟨-, d, hd, hn⟩
    · exact absurd ((hexact hprec e).mp he) (hnone e)
    · exact hf
    · have := (negates_iff_inPrecision h hd).mpr (hprec d hd)
      simp [hn] at this
  · obtain ⟨p, hp, -, hb⟩ := hder
    obtain ⟨q, hq, -, hb'⟩ := (parseCondition_eq_ok_iff h).mp hok
    obtain rfl := hunique p q hp hq
    have hagree := p.agree Decimal.negated? exactly e hb' hb d
    rw [p.negatives_eq_minusNumbers hp] at hagree
    exact (negates_iff_inPrecision h hd).mp (hagree hd)

open scoped Pattern.Builtin in
theorem parseCondition_grammar_negative :
    ∃ ts, tokens "-1 < transaction.amount".toList = .ok ts ∧
      (∃ e, parseCondition "-1 < transaction.amount" = .ok e ∧ Derives exactly ts e) ∧
      ∀ p q : Phrase (.run .any) .whole, p.yield = terminals ts → q.yield = terminals ts →
        p = q := by
  obtain ⟨ts, h, hts⟩ : ∃ ts, tokens "-1 < transaction.amount".toList = .ok ts ∧
      terminals ts = [.symbol .minus, .number (.finite false 1 0), .symbol (.compare .less),
        .word "transaction", .symbol .dot, .word "amount"] :=
    ⟨[⟨.symbol .minus, "-", 0⟩, ⟨.number (.finite false 1 0), "1", 1⟩,
      ⟨.symbol (.compare .less), "<", 3⟩, ⟨.word, "transaction", 5⟩, ⟨.symbol .dot, ".", 16⟩,
      ⟨.word, "amount", 17⟩, ⟨.finish, "", 23⟩], by decide +kernel, rfl⟩
  obtain ⟨hunique, -, hprecise, -⟩ := parseCondition_grammar h
  have hprec : ∀ d ∈ minusNumbers (terminals ts), d.InPrecision := by
    rw [hts]
    intro d hd
    obtain rfl : d = .finite false 1 0 := by simpa [minusNumbers] using hd
    exact ⟨fun _ => by decide, by decide⟩
  have hd : Derives exactly ts (.compare .less (.number (.finite true 1 0)) (.field .amount)) :=
    ⟨.run (.run (.compare .less (.called (.negative (.finite false 1 0)) .noCall)
      (.called (.field .amount) .noCall)) .noPart) .noPart, hts.symm, by decide, rfl⟩
  exact ⟨ts, h, ⟨_, ((hprecise hprec).1 _).mpr hd, hd⟩, hunique⟩

def roundedSource : String := "transaction.amount === -12345678901234567890123456789"

open scoped Pattern.Builtin in
theorem parseCondition_rounds :
    ∃ ts e, tokens roundedSource.toList = .ok ts ∧ Derives exactly ts e ∧
      parseCondition roundedSource ≠ .ok e := by
  have h : tokens roundedSource.toList = .ok
      [⟨.word, "transaction", 0⟩, ⟨.symbol .dot, ".", 11⟩, ⟨.word, "amount", 12⟩,
        ⟨.symbol (.compare .same), "===", 19⟩, ⟨.symbol .minus, "-", 23⟩,
        ⟨.number (.finite false 12345678901234567890123456789 0),
          "12345678901234567890123456789", 24⟩, ⟨.finish, "", 53⟩] := by decide +kernel
  let p : Phrase (.run .any) .whole :=
    .run (.run (.compare .same (.called (.field .amount) .noCall)
      (.called (.negative (.finite false 12345678901234567890123456789 0)) .noCall)) .noPart)
      .noPart
  have hparse : parseCondition roundedSource = .ok (.compare .same (.field .amount)
      (.number (.finite true 1234567890123456789012345679 1))) :=
    (parseCondition_eq_ok_iff h).mpr ⟨p, rfl, by decide, rfl⟩
  refine ⟨_, .compare .same (.field .amount)
    (.number (.finite true 12345678901234567890123456789 0)), h, ⟨p, rfl, by decide, rfl⟩, ?_⟩
  rw [hparse]
  decide

end LedgerRules.Condition
