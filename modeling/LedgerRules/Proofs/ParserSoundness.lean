import LedgerRules.Proofs.Readers

/-! What the readers of conditions take away is what a phrase derives, and they return the
expression that this phrase builds. The proof goes through the readers in the order in which they
are defined, under the assumption that the readers inside a bracket are sound; the induction is on
the room for brackets. -/

namespace LedgerRules.Condition
open Numeric

section
variable [Pattern.Engine]

/-- A phrase of limited depth derives the terminals and builds the expression. -/
def Built (c : Construct) (room : Nat) (e : Expr) (w : List Terminal) : Prop :=
  ∃ p : Phrase c .whole, p.yield = w ∧ p.depth ≤ room ∧ p.build Decimal.negated? = some e

/-- What follows the first piece of a construct, going on from an expression. -/
def Continued (c : Construct) (room : Nat) (left e : Expr) (w : List Terminal) : Prop :=
  ∃ m : Phrase c .more, m.yield = w ∧ m.depth ≤ room ∧ m.build Decimal.negated? left = some e

structure Level.Sound (l : Level) (room : Nat) : Prop where
  condition : ∀ ts, Ended ts → Gives l.condition ts fun e w => ∃ r < room, Built (.run .any) r e w
  operand : ∀ ts, Ended ts → Gives l.operand ts fun e w => ∃ r < room, Built .operand r e w

end

section
variable {fuel room : Nat} {inner : Option Level} {ts : List Token}

theorem enter_gives (he : Ended ts) (t : Token) :
    Gives (enter inner t) ts fun l w => w = [] ∧ inner = some l := by
  cases inner with
  | none => exact .failAt
  | some l => exact .pure he ⟨rfl, rfl⟩

section
variable [Pattern.Engine]

def Listed (room : Nat) (args : List Expr) (w : List Terminal) : Prop :=
  (args = [] ∧ w = [.symbol .closeParen]) ∨
    (∃ e v, args = [e] ∧ w = v ++ [.symbol .closeParen] ∧ ∃ r < room, Built .operand r e v) ∨
    2 ≤ args.length

theorem argumentsFrom_gives {l : Level} (hl : l.Sound room) (k : Nat) (before : List Expr)
    (he : Ended ts) :
    Gives (argumentsFrom l k before) ts fun args w =>
      (∃ e v, args = before.reverse ++ [e] ∧ w = v ++ [.symbol .closeParen] ∧
        ∃ r < room, Built .operand r e v) ∨ before.length + 2 ≤ args.length := by
  induction k generalizing before ts with
  | zero => exact .peek he fun _ _ _ => .failAt
  | succ k ih =>
    refine (hl.operand ts he).bind fun e v rest he' hb => ?_
    refine .peek he' fun t rest' hts => ?_
    subst hts
    split
    next hs =>
      have hx := Token.terminal?_symbol.mpr (Token.isSymbol_iff.mp hs)
      refine .advance he' hx fun he'' => (ih (e :: before) he'').mono ?_
      rintro args w (⟨e', v', rfl, -⟩ | hlen)
      · right
        simp
      · right
        have : (e :: before).length = before.length + 1 := rfl
        omega
    next hs =>
      refine (Gives.expectSymbol he' .closeParen).bind ?_
      rintro ⟨⟩ w rest he'' rfl
      refine .pure he'' (.inl ⟨e, v, ?_, ?_, hb⟩)
      · rw [List.reverse_cons]
      · rw [List.append_nil]

theorem arguments_gives (hi : ∀ l, inner = some l → l.Sound room) (he : Ended ts) :
    Gives (arguments fuel inner) ts (Listed room) := by
  refine .peek he fun t rest hts => ?_
  subst hts
  split
  next hs =>
    have hx := Token.terminal?_symbol.mpr (Token.isSymbol_iff.mp hs)
    exact .advance he hx fun he' => .pure he' (.inl ⟨rfl, rfl⟩)
  next hs =>
    refine (enter_gives he t).bind ?_
    rintro l w rest' he' ⟨rfl, hl⟩
    refine (argumentsFrom_gives (hi l hl) fuel [] he').mono ?_
    rintro args w (⟨e, v, rfl, hw, hb⟩ | hlen)
    · exact .inr (.inl ⟨e, v, rfl, hw, hb⟩)
    · exact .inr (.inr (by simpa using hlen))

end

theorem checkArguments_gives {method : Token} {args : List Expr} {types : List ValueType}
    (he : Ended ts) :
    Gives (checkArguments method args types) ts fun _ w => w = [] ∧ args.map Expr.type = types := by
  by_cases hlen : args.length = types.length
  · simp only [checkArguments, hlen, ne_eq, not_true_eq_false, ↓reduceIte]
    split
    · exact .failAt
    next hfind =>
      refine .pure he ⟨rfl, ?_⟩
      rw [List.find?_eq_none] at hfind
      refine List.ext_getElem (by simpa using hlen) fun i hi hi' => ?_
      rw [List.length_map] at hi
      have hmem : (args[i], types[i]) ∈ args.zip types :=
        List.mem_iff_getElem.mpr ⟨i, by simp_all, by simp⟩
      simpa using hfind _ hmem
  · simp only [checkArguments, hlen, ne_eq, not_false_eq_true, ↓reduceIte]
    exact .failAt_bind

section
variable [Pattern.Engine]

theorem Listed.one {args : List Expr} {type : ValueType} {w : List Terminal}
    (h : Listed room args w) (ht : args.map Expr.type = [type]) :
    ∃ (p : Phrase .operand .whole) (e : Expr), args = [e] ∧ e.type = type ∧
      w = p.yield ++ [.symbol .closeParen] ∧ p.depth < room ∧
      p.build Decimal.negated? = some e := by
  rcases h with ⟨rfl, -⟩ | ⟨e, v, rfl, rfl, r, hr, p, rfl, hd, hb⟩ | hlen
  · simp at ht
  · exact ⟨p, e, rfl, by simpa using ht, rfl, by omega, hb⟩
  · have := congrArg List.length ht
    simp only [List.length_map, List.length_singleton] at this
    omega

theorem Listed.none {args : List Expr} {w : List Terminal} (h : Listed room args w)
    (ht : args.map Expr.type = []) : w = [.symbol .closeParen] := by
  rcases h with ⟨-, rfl⟩ | ⟨e, v, rfl, -⟩ | hlen
  · rfl
  · simp at ht
  · simp_all

def Called (room : Nat) (target : Expr) (name : String) (e : Expr) (w : List Terminal) : Prop :=
  ∀ calls : Phrase .operand .more, ∃ m : Phrase .operand .more,
    m.yield = .symbol .dot :: .word name :: (w ++ calls.yield) ∧
    m.depth ≤ max room calls.depth ∧
    m.build Decimal.negated? target = calls.build Decimal.negated? e

theorem method_gives (hi : ∀ l, inner = some l → l.Sound room) (target : Expr) (name : Token)
    (he : Ended ts) :
    Gives (method fuel inner target name) ts (Called room target name.text) := by
  have hcase (upper : Bool) {args : List Expr} {v : List Terminal} {rest : List Token}
      (he : Ended rest) (ht : target.type = .text) (hv : Listed room args v)
      (hn : name.text = Phrase.caseWord upper) :
      Gives (checkArguments name args [] >>= fun _ => pure (.changeCase upper target)) rest
        fun e w => Called room target name.text e ([.symbol .openParen] ++ (v ++ w)) := by
    refine (checkArguments_gives he).bind ?_
    rintro _ w rest he ⟨rfl, hty⟩
    refine .pure he fun calls => ⟨.changeCase upper calls, ?_, ?_, ?_⟩
    · simp [Phrase.yield, Phrase.inParens, hv.none hty, hn]
    · exact Nat.le_max_right _ _
    · simp [Phrase.build, ht]
  refine (Gives.expectSymbol he .openParen).bind ?_
  rintro _ w rest he rfl
  refine (arguments_gives hi he).bind ?_
  intro args v rest he hv
  split
  · exact .failAt
  next ht =>
  rw [ne_eq, Decidable.not_not] at ht
  split
  next hn =>
    refine (checkArguments_gives he).bind ?_
    rintro _ w rest he ⟨rfl, hty⟩
    obtain ⟨p, e, rfl, hety, rfl, hd, hb⟩ := hv.one hty
    refine .pure he fun calls => ⟨.includes p calls, ?_, ?_, ?_⟩
    · simp [Phrase.yield, Phrase.inParens, hn]
    · simp only [Phrase.depth]
      omega
    · simp [Phrase.build, hb, ht, hety]
  next =>
    split
    next hn => exact hcase false he ht hv hn
    next =>
      split
      next hn => exact hcase true he ht hv hn
      next => exact .failAt

def Tested (room : Nat) (pattern : Pattern) (e : Expr) (w : List Terminal) : Prop :=
  ∃ (p : Phrase .operand .whole) (target : Expr), w = Phrase.testOf p.yield ∧ p.depth < room ∧
    p.build Decimal.negated? = some target ∧ target.type = .text ∧ e = .search pattern target

theorem patternTest_gives (hi : ∀ l, inner = some l → l.Sound room) (pattern : Pattern)
    (he : Ended ts) : Gives (patternTest fuel inner pattern) ts (Tested room pattern) := by
  refine (Gives.expectSymbol he .dot).bind ?_
  rintro _ w rest he rfl
  refine (Gives.expectWord he _).bind ?_
  rintro name w rest he rfl
  by_cases hn : name.text = "test"
  · simp only [hn, ne_eq, not_true_eq_false, ↓reduceIte]
    refine (Gives.expectSymbol he .openParen).bind ?_
    rintro _ w rest he rfl
    refine (arguments_gives hi he).bind ?_
    intro args v rest he hv
    refine (checkArguments_gives he).bind ?_
    rintro _ w rest he ⟨rfl, hty⟩
    obtain ⟨p, e, rfl, hety, rfl, hd, hb⟩ := hv.one hty
    refine .pure he ⟨p, e, ?_, hd, hb, hety, rfl⟩
    simp [Phrase.testOf, Phrase.inParens]
  · simp only [hn, ne_eq, not_false_eq_true, ↓reduceIte]
    exact .failAt_bind

theorem patternText_gives (hi : ∀ l, inner = some l → l.Sound room) (t : Token) (body : String)
    (flags : Option String) (he : Ended ts) :
    Gives (do
      expectSymbol .closeParen
      patternTest fuel inner (← compiled t body (flags.getD ""))) ts fun e w =>
        Built .primary room e (.word "new" :: .word "RegExp" :: .symbol .openParen :: .text body ::
          (Phrase.flagsYield flags ++ w)) := by
  refine (Gives.expectSymbol he .closeParen).bind ?_
  rintro _ w rest he rfl
  refine (Gives.compiled t body (flags.getD "") he).bind ?_
  rintro pattern w rest he ⟨rfl, hc⟩
  refine (patternTest_gives hi pattern he).mono ?_
  rintro e w ⟨p, target, rfl, hd, hb, ht, rfl⟩
  refine ⟨.newPattern body flags p, ?_, hd,
    Phrase.build_newPattern.mpr ⟨target, pattern, hb, hc, ht, rfl⟩⟩
  simp [Phrase.yield, Phrase.inParens]

theorem newPattern_gives (hi : ∀ l, inner = some l → l.Sound room) (he : Ended ts) :
    Gives (newPattern fuel inner) ts fun e w => Built .primary room e (.word "new" :: w) := by
  refine (Gives.expectWord he _).bind ?_
  rintro name w rest he rfl
  by_cases hn : name.text = "RegExp"
  · simp only [hn, ne_eq, not_true_eq_false, ↓reduceIte]
    refine (Gives.expectSymbol he .openParen).bind ?_
    rintro _ w rest he rfl
    refine (Gives.expectText he _).bind ?_
    rintro ⟨t, body⟩ w rest he rfl
    refine .peek he fun u rest' hts => ?_
    subst hts
    split
    next hs =>
      refine .advance he (Token.terminal?_symbol.mpr (Token.isSymbol_iff.mp hs)) fun he => ?_
      refine (Gives.expectText he _).bind ?_
      rintro ⟨-, flags⟩ w rest he rfl
      exact patternText_gives hi t body (some flags) he
    next => exact patternText_gives hi t body none he
  · simp only [hn, ne_eq, not_false_eq_true, ↓reduceIte]
    exact .failAt_bind

theorem fieldAccess_gives (he : Ended ts) :
    Gives fieldAccess ts fun e w => Built .primary room e (.word "transaction" :: w) := by
  refine (Gives.expectSymbol he .dot).bind ?_
  rintro _ w rest he rfl
  refine (Gives.expectWord he _).bind ?_
  rintro name w rest he rfl
  split
  next f hf =>
    refine .pure he ⟨.field f, ?_, Nat.zero_le _, rfl⟩
    simp [Phrase.yield, Field.name_of_ofName? hf]
  next => exact .failAt

theorem dateCall_gives (hi : ∀ l, inner = some l → l.Sound room) (part : DatePart) (name : Token)
    (he : Ended ts) :
    Gives (dateCall inner part name) ts fun e w =>
      Built .primary room e (.word part.name :: w) := by
  refine (Gives.expectSymbol he .openParen).bind ?_
  rintro _ w rest he rfl
  refine (enter_gives he name).bind ?_
  rintro l w rest he ⟨rfl, hl⟩
  refine ((hi l hl).operand _ he).bind ?_
  rintro e v rest he ⟨r, hr, p, rfl, hd, hb⟩
  refine (Gives.expectSymbol he .closeParen).bind ?_
  rintro _ w rest he rfl
  split
  · exact .failAt
  next ht =>
    rw [ne_eq, Decidable.not_not] at ht
    refine .pure he ⟨.datePart part p, ?_, ?_, ?_⟩
    · simp [Phrase.yield, Phrase.inParens]
    · simp only [Phrase.depth]
      omega
    · rw [Phrase.build, hb, Option.bind_some, if_pos ht]

theorem named_gives (hi : ∀ l, inner = some l → l.Sound room) (name : Token) (he : Ended ts) :
    Gives (named fuel inner name) ts fun e w => Built .primary room e (.word name.text :: w) := by
  unfold named
  split
  next hn =>
    rw [hn]
    exact fieldAccess_gives he
  next =>
    split
    next hn =>
      rw [hn]
      exact newPattern_gives hi he
    next =>
      split
      next part hpart =>
        rw [← DatePart.name_of_ofName? hpart]
        exact dateCall_gives hi part name he
      next =>
        refine .peek he fun t rest hts => ?_
        split
        · exact .failAt
        · exact .failAt

theorem negativeNumber_gives {m : Token} (hm : m.terminal? = some (.symbol .minus))
    (he : Ended (m :: ts)) :
    Gives (advance >>= fun _ => negativeNumber) (m :: ts) (Built .primary room) := by
  refine .advance he hm fun he => .peek he fun t rest hts => ?_
  subst hts
  split
  next d hd =>
    refine .advance he (Token.terminal?_number.mpr hd) fun he => ?_
    split
    next n hn => exact .pure he ⟨.negative d, rfl, Nat.zero_le _, by rw [Phrase.build, hn]; rfl⟩
    next => exact .of_error rfl
  next => exact .failAt

theorem primary_gives (hi : ∀ l, inner = some l → l.Sound room) (he : Ended ts) :
    Gives (primary fuel inner) ts (Built .primary room) := by
  refine .peek he fun t rest hts => ?_
  subst hts
  split
  next hl =>
    cases inner with
    | none => exact .failAt_bind
    | some l =>
      simp only [enter, pure_bind]
      refine .advance he (Token.terminal?_symbol.mpr hl) fun he => ?_
      refine ((hi l rfl).condition _ he).bind ?_
      rintro e v rest he ⟨r, hr, p, rfl, hd, hb⟩
      refine (Gives.expectSymbol he .closeParen).bind ?_
      rintro _ w rest he rfl
      refine .pure he ⟨.group p, ?_, ?_, hb⟩
      · simp [Phrase.yield, Phrase.inParens]
      · simp only [Phrase.depth]
        omega
  next value hl =>
    exact .advance he (Token.terminal?_text.mpr hl) fun he =>
      .pure he ⟨.text value, rfl, Nat.zero_le _, rfl⟩
  next value hl =>
    exact .advance he (Token.terminal?_number.mpr hl) fun he =>
      .pure he ⟨.number value, rfl, Nat.zero_le _, rfl⟩
  next hl => exact negativeNumber_gives (Token.terminal?_symbol.mpr hl) he
  next body flags hl =>
    refine .advance he (Token.terminal?_pattern.mpr hl) fun he => ?_
    refine (Gives.compiled t body flags he).bind ?_
    rintro pattern w rest he ⟨rfl, hc⟩
    refine (patternTest_gives hi pattern he).mono ?_
    rintro e w ⟨p, target, rfl, hd, hb, ht, rfl⟩
    exact ⟨.pattern body flags p, rfl, hd,
      Phrase.build_pattern.mpr ⟨target, pattern, hb, hc, ht, rfl⟩⟩
  next hl =>
    exact .advance he (Token.terminal?_word.mpr ⟨hl, rfl⟩) fun he => named_gives hi t he
  · exact .failAt
  · exact .failAt

theorem methodsFrom_gives (hi : ∀ l, inner = some l → l.Sound room) (k : Nat) (left : Expr)
    (he : Ended ts) :
    Gives (methodsFrom fuel inner k left) ts (Continued .operand room left) := by
  induction k generalizing left ts with
  | zero => exact .pure he ⟨.noCall, rfl, Nat.zero_le _, rfl⟩
  | succ k ih =>
    refine .peek he fun t rest hts => ?_
    subst hts
    split
    next hs =>
      refine .advance he (Token.terminal?_symbol.mpr (Token.isSymbol_iff.mp hs)) fun he => ?_
      refine (Gives.expectWord he _).bind ?_
      rintro name w rest he rfl
      refine (method_gives hi left name he).bind ?_
      intro e v rest he hcall
      refine (ih e he).mono ?_
      rintro e' w ⟨calls, rfl, hd, hb⟩
      obtain ⟨m, hy, hdm, hbm⟩ := hcall calls
      exact ⟨m, hy, Nat.le_trans hdm (Nat.max_le.mpr ⟨Nat.le_refl _, hd⟩), hbm.trans hb⟩
    next => exact .pure he ⟨.noCall, rfl, Nat.zero_le _, rfl⟩

theorem operand_gives (hi : ∀ l, inner = some l → l.Sound room) (he : Ended ts) :
    Gives (operand fuel inner) ts (Built .operand room) := by
  refine (primary_gives hi he).bind ?_
  rintro e v rest he ⟨p, rfl, hd, hb⟩
  refine (methodsFrom_gives hi fuel e he).mono ?_
  rintro e' w ⟨calls, rfl, hdc, hbc⟩
  refine ⟨.called p calls, rfl, Nat.max_le.mpr ⟨hd, hdc⟩, ?_⟩
  rw [Phrase.build, hb, Option.bind_some, hbc]

end

theorem makeComparison_eq_ok {op : CompareOp} {l r e : Expr} :
    makeComparison op l r = .ok e ↔
      (op.isOrdering = true → l.type = .number ∧ r.type = .number) ∧ .compare op l r = e := by
  unfold makeComparison
  by_cases hl : l.type = .number <;> by_cases hr : r.type = .number <;>
    cases hop : op.isOrdering <;> simp [hl, hr]

section
variable [Pattern.Engine]

theorem comparison_gives (hi : ∀ l, inner = some l → l.Sound room) (he : Ended ts) :
    Gives (comparison fuel inner) ts (Built .comparison room) := by
  refine (operand_gives hi he).bind ?_
  rintro l v rest he ⟨p, rfl, hd, hb⟩
  refine .peek he fun t rest' hts => ?_
  subst hts
  split
  next op hl =>
    refine .advance he (Token.terminal?_symbol.mpr hl) fun he => ?_
    refine (operand_gives hi he).bind ?_
    rintro r v rest he ⟨q, rfl, hdq, hbq⟩
    refine .blame he fun e hm => ?_
    obtain ⟨hop, rfl⟩ := makeComparison_eq_ok.mp hm
    refine ⟨.compare op p q, ?_, Nat.max_le.mpr ⟨hd, hdq⟩, ?_⟩
    · simp [Phrase.yield]
    · rw [Phrase.build, hb, Option.bind_some, hbq, Option.bind_some, if_pos hop]
  next => exact .pure he ⟨.alone p, by rw [Phrase.yield, List.append_nil], hd, hb⟩

theorem joins_gives {kind : Join} {part : Reader Expr} (k : Nat)
    (hp : ∀ ts, Ended ts → Gives part ts (Built (Construct.part kind) room)) (left : Expr)
    (he : Ended ts) :
    Gives (joinsFrom kind part k left) ts (Continued (.run kind) room left) := by
  induction k generalizing left ts with
  | zero => exact .pure he ⟨.noPart, rfl, Nat.zero_le _, rfl⟩
  | succ k ih =>
    refine .peek he fun t rest hts => ?_
    subst hts
    split
    next hs =>
      refine .advance he (Token.terminal?_symbol.mpr (Token.isSymbol_iff.mp hs)) fun he => ?_
      refine (hp _ he).bind ?_
      rintro e v rest he ⟨p, rfl, hd, hb⟩
      refine (ih (.join kind left e) he).mono ?_
      rintro e' w ⟨m, rfl, hdm, hbm⟩
      refine ⟨.part kind p m, rfl, Nat.max_le.mpr ⟨hd, hdm⟩, ?_⟩
      show (p.build Decimal.negated?).bind _ = some e'
      rw [hb]
      exact hbm
    next => exact .pure he ⟨.noPart, rfl, Nat.zero_le _, rfl⟩

theorem run_gives {kind : Join} {part : Reader Expr} (k : Nat)
    (hp : ∀ ts, Ended ts → Gives part ts (Built (Construct.part kind) room)) (he : Ended ts) :
    Gives (part >>= joinsFrom kind part k) ts (Built (.run kind) room) := by
  refine (hp ts he).bind ?_
  rintro e v rest he ⟨p, rfl, hd, hb⟩
  refine (joins_gives k hp e he).mono ?_
  rintro e' w ⟨m, rfl, hdm, hbm⟩
  refine ⟨.run p m, rfl, Nat.max_le.mpr ⟨hd, hdm⟩, ?_⟩
  rw [Phrase.build, hb, Option.bind_some, hbm]

theorem conjunction_gives (hi : ∀ l, inner = some l → l.Sound room)
    (he : Ended ts) : Gives (conjunction fuel inner) ts (Built (.run .all) room) :=
  run_gives fuel (fun _ he => comparison_gives hi he) he

theorem disjunction_gives (hi : ∀ l, inner = some l → l.Sound room)
    (he : Ended ts) : Gives (disjunction fuel inner) ts (Built (.run .any) room) :=
  run_gives fuel (fun _ he => conjunction_gives hi he) he

theorem level_sound (fuel room : Nat) : ∀ l, level fuel room = some l → l.Sound room := by
  induction room with
  | zero => simp [level]
  | succ room ih =>
    intro l hl
    obtain rfl := Option.some.inj hl
    refine ⟨fun ts he => (disjunction_gives ih he).mono ?_,
      fun ts he => (operand_gives ih he).mono ?_⟩
    · exact fun e w hb => ⟨room, Nat.lt_succ_self room, hb⟩
    · exact fun e w hb => ⟨room, Nat.lt_succ_self room, hb⟩

end

theorem expectEnd_gives (he : Ended ts) :
    Gives expectEnd ts fun _ w => w = [] ∧ terminals ts = [] := by
  refine .peek he fun t rest hts => ?_
  subst hts
  split
  next hl =>
    rcases he.cases with ⟨-, -, hn⟩ | ⟨x, hx, -⟩
    · exact .pure he ⟨rfl, hn⟩
    · simp [Token.terminal?_eq_none.mpr hl] at hx
  next => exact .failAt

end

end LedgerRules.Condition
