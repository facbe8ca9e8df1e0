import LedgerRules.Proofs.ParserCompleteness

/-! Where the reading of tokens breaks down. A reader breaks down at a snag, a minus sign before a
number that cannot be negated or a pattern that exhausts the stack, if everything before the snag is
built and a primary may begin there; and it breaks down nowhere else. -/

namespace LedgerRules.Condition
open Numeric

section
variable [Pattern.Engine]

inductive Snag : Breakdown → List Terminal → Prop
  | number {d : Decimal} {w : List Terminal} : d.negated? = none →
      Snag .numberOverflow (.symbol .minus :: .number d :: w)
  | pattern {body flags : String} {w : List Terminal} :
      compilePattern body flags = .error .exhausted →
      Snag .stackExhausted (.pattern body flags :: w)
  | newPattern {body : String} {flags : Option String} {w : List Terminal} :
      compilePattern body (flags.getD "") = .error .exhausted →
      Snag .stackExhausted
        (.word "new" :: .word "RegExp" :: (Phrase.inParens (.text body :: Phrase.flagsYield flags)
          ++ w))

inductive PatternHead : List Terminal → Prop
  | pattern {body flags : String} {p : Pattern} : compilePattern body flags = .ok p →
      PatternHead [.pattern body flags]
  | newPattern {body : String} {flags : Option String} {p : Pattern} :
      compilePattern body (flags.getD "") = .ok p →
      PatternHead
        (.word "new" :: .word "RegExp" :: Phrase.inParens (.text body :: Phrase.flagsYield flags))

inductive Earlier (room : Nat) : List Terminal → Prop
  | none : Earlier room []
  | next {e : Expr} {v u : List Terminal} : Built .operand room e v → Earlier room u →
      Earlier room (v ++ .symbol .comma :: u)

/-- The construct leads to a snag, and all that stands before the snag is built. -/
inductive Breaks (b : Breakdown) : (room : Nat) → Construct → List Terminal → Prop
  | snag {room : Nat} {w : List Terminal} : Snag b w → Breaks b room .primary w
  | group {room : Nat} {w : List Terminal} : Breaks b room (.run .any) w →
      Breaks b (room + 1) .primary (.symbol .openParen :: w)
  | datePart {room : Nat} {w : List Terminal} (d : DatePart) : Breaks b room .operand w →
      Breaks b (room + 1) .primary (.word d.name :: .symbol .openParen :: w)
  | test {room : Nat} {v u w : List Terminal} : PatternHead v → Earlier room u →
      Breaks b room .operand w → Breaks b (room + 1) .primary
        (v ++ .symbol .dot :: .word "test" :: .symbol .openParen :: (u ++ w))
  | primary {room : Nat} {w : List Terminal} : Breaks b room .primary w → Breaks b room .operand w
  | call {room : Nat} {e : Expr} {v u w : List Terminal} (name : String) :
      Built .operand (room + 1) e v → Earlier room u → Breaks b room .operand w →
      Breaks b (room + 1) .operand
        (v ++ .symbol .dot :: .word name :: .symbol .openParen :: (u ++ w))
  | left {room : Nat} {w : List Terminal} : Breaks b room .operand w → Breaks b room .comparison w
  | right {room : Nat} {e : Expr} {v w : List Terminal} (op : CompareOp) :
      Built .operand room e v → Breaks b room .operand w →
      Breaks b room .comparison (v ++ .symbol (.compare op) :: w)
  | first {room : Nat} {kind : Join} {w : List Terminal} : Breaks b room (Construct.part kind) w →
      Breaks b room (.run kind) w
  | later {room : Nat} {kind : Join} {e : Expr} {v w : List Terminal} :
      Built (.run kind) room e v → Breaks b room (Construct.part kind) w →
      Breaks b room (.run kind) (v ++ .symbol (.join kind) :: w)

def Argued (b : Breakdown) (room : Nat) (w : List Terminal) : Prop :=
  ∃ u v, w = u ++ v ∧ Earlier room u ∧ Breaks b room .operand v

end

section
variable {α β : Type} {ts : List Token}

def Steady (r : Reader α) : Prop := ∀ ts b, r.run ts ≠ .error (.breakdown b)

theorem Steady.pure (a : α) : Steady (Pure.pure a) := nofun

theorem Steady.failAt (pos : Nat) (cause : Cause) : Steady (failAt (α := α) pos cause) := nofun

theorem Steady.failAt_bind (pos : Nat) (cause : Cause) (k : α → Reader β) :
    Steady (Condition.failAt pos cause >>= k) :=
  nofun

theorem Steady.advance : Steady advance := nofun

theorem Steady.bind {r : Reader α} {k : α → Reader β} (h : Steady r) (hk : ∀ a, Steady (k a)) :
    Steady (r >>= k) := by
  intro ts b hb
  cases hr : r.run ts with
  | error f =>
    rw [run_bind_error hr, Except.error.injEq] at hb
    exact h ts b (hb ▸ hr)
  | ok p =>
    rw [run_bind_ok hr] at hb
    exact hk p.1 p.2 b hb

theorem Steady.peek {k : Token → Reader β} (hk : ∀ t, Steady (k t)) : Steady (peek >>= k) :=
  Steady.bind nofun hk

theorem Steady.ite {c : Prop} [Decidable c] {r r' : Reader α} (h : Steady r) (h' : Steady r') :
    Steady (if c then r else r') := by
  split
  · exact h
  · exact h'

theorem Steady.expectSymbol (s : Symbol) : Steady (expectSymbol s) :=
  .peek fun _ => .ite .advance (.failAt _ _)

theorem Steady.expectWord (what : String) : Steady (expectWord what) :=
  .peek fun _ => .ite (.bind .advance fun _ => .pure _) (.failAt _ _)

theorem Steady.expectText (what : String) : Steady (expectText what) := by
  refine .peek fun t => ?_
  split
  · exact .bind .advance fun _ => .pure _
  · exact .failAt _ _

theorem Steady.expectEnd : Steady expectEnd := .peek fun _ => .ite (.pure _) (.failAt _ _)

theorem Steady.blame (t : Token) (x : Except Cause α) : Steady (blame t x) := by
  cases x with
  | ok a => exact .pure a
  | error cause => exact .failAt _ _

theorem Steady.checkArguments (name : Token) (args : List Expr) (types : List ValueType) :
    Steady (checkArguments name args types) := by
  refine .ite (.failAt_bind _ _ _) ?_
  split
  · exact .failAt _ _
  · exact .pure _

theorem fieldAccess_steady : Steady fieldAccess := by
  refine .bind (.expectSymbol _) fun _ => .bind (.expectWord _) fun name => ?_
  split
  · exact .pure _
  · exact .failAt _ _

/-- Where the reader breaks down on the tokens, `P` holds of how it does and what they stand for. -/
def Breaking (r : Reader α) (ts : List Token) (P : Breakdown → List Terminal → Prop) : Prop :=
  ∀ b, r.run ts = .error (.breakdown b) → P b (terminals ts)

variable {P : Breakdown → List Terminal → Prop}

theorem Steady.breaking {r : Reader α} (h : Steady r) : Breaking r ts P :=
  fun b hb => absurd hb (h ts b)

theorem Breaking.mono {r : Reader α} {Q : Breakdown → List Terminal → Prop} (h : Breaking r ts P)
    (hQ : ∀ b w, P b w → Q b w) : Breaking r ts Q :=
  fun b hb => hQ b _ (h b hb)

theorem Breaking.bind {r : Reader α} {k : α → Reader β} {Q : α → List Terminal → Prop}
    (h : Breaking r ts P) (hg : Gives r ts Q)
    (hk : ∀ a w rest, Ended rest → Q a w → Breaking (k a) rest fun b v => P b (w ++ v)) :
    Breaking (r >>= k) ts P := by
  intro b hb
  cases hr : r.run ts with
  | error f =>
    rw [run_bind_error hr, Except.error.injEq] at hb
    exact h b (hb ▸ hr)
  | ok p =>
    obtain ⟨he, w, hw, hq⟩ := hg p.1 p.2 hr
    rw [run_bind_ok hr] at hb
    exact hw ▸ hk p.1 w p.2 he hq b hb

theorem Breaking.peek {k : Token → Reader β} (he : Ended ts)
    (hk : ∀ t rest, ts = t :: rest → Breaking (k t) ts P) : Breaking (peek >>= k) ts P := by
  obtain ⟨t, rest, rfl⟩ := he.exists_cons
  exact hk t rest rfl

theorem Breaking.advance {t : Token} {x : Terminal} {k : Unit → Reader β} (he : Ended (t :: ts))
    (hx : t.terminal? = some x) (hk : Ended ts → Breaking (k ()) ts fun b w => P b (x :: w)) :
    Breaking (advance >>= k) (t :: ts) P := by
  have hf : t.lexeme ≠ .finish := fun h => by simp [Token.terminal?_eq_none.mpr h] at hx
  intro b hb
  rw [run_bind_ok (run_advance he hx)] at hb
  rw [terminals_cons hx]
  exact hk (he.tail hf) b hb

theorem Breaking.symbol {k : Unit → Reader β} (he : Ended ts) (s : Symbol)
    (hk : ∀ rest, Ended rest → Breaking (k ()) rest fun b w => P b (.symbol s :: w)) :
    Breaking (expectSymbol s >>= k) ts P :=
  (Steady.expectSymbol s).breaking.bind (Gives.expectSymbol he s) fun _ _ rest he hw =>
    hw ▸ hk rest he

theorem Breaking.word {k : Token → Reader β} (he : Ended ts) (what : String)
    (hk : ∀ t rest, Ended rest → Breaking (k t) rest fun b w => P b (.word t.text :: w)) :
    Breaking (expectWord what >>= k) ts P :=
  (Steady.expectWord what).breaking.bind (Gives.expectWord he what) fun t _ rest he hw =>
    hw ▸ hk t rest he

theorem Breaking.text {k : Token × String → Reader β} (he : Ended ts) (what : String)
    (hk : ∀ t value rest, Ended rest →
      Breaking (k (t, value)) rest fun b w => P b (.text value :: w)) :
    Breaking (expectText what >>= k) ts P :=
  (Steady.expectText what).breaking.bind (Gives.expectText he what) fun p _ rest he hw =>
    hw ▸ hk p.1 p.2 rest he

end

section
variable [Pattern.Engine] {fuel room : Nat} {ts : List Token}

theorem argumentsFrom_breaking {l : Level} (hg : l.Sound (room + 1))
    (h : ∀ ts, Ended ts → Breaking l.operand ts fun b w => Breaks b room .operand w) (k : Nat)
    (before : List Expr) (he : Ended ts) :
    Breaking (argumentsFrom l k before) ts fun b w => Argued b room w := by
  induction k generalizing before ts with
  | zero => exact (Steady.peek fun _ => .failAt _ _).breaking
  | succ k ih =>
    refine Breaking.bind ((h ts he).mono fun b w hw => ⟨[], w, rfl, .none, hw⟩)
      (hg.operand ts he) fun e v rest he hb => ?_
    obtain ⟨r, hr, p, rfl, hd, hp⟩ := hb
    refine .peek he fun t rest' hts => ?_
    subst hts
    split
    next hs =>
      have hx := Token.terminal?_symbol.mpr (Token.isSymbol_iff.mp hs)
      refine .advance he hx fun he => (ih (e :: before) he).mono ?_
      rintro b w ⟨u, v, rfl, hu, hv⟩
      exact ⟨p.yield ++ .symbol .comma :: u, v, by simp, .next ⟨p, rfl, by omega, hp⟩ hu, hv⟩
    next => exact (Steady.bind (.expectSymbol _) fun _ => .pure _).breaking

def Level.Breaking (l : Level) (room : Nat) : Prop :=
  (∀ ts, Ended ts → Condition.Breaking l.condition ts fun b w => Breaks b room (.run .any) w) ∧
    ∀ ts, Ended ts → Condition.Breaking l.operand ts fun b w => Breaks b room .operand w

theorem enter_breaking {α : Type} {k : Level → Reader α} {P : Breakdown → List Terminal → Prop}
    (hi : ∀ l r, room = r + 1 → level fuel room = some l → l.Breaking r) (t : Token)
    (hk : ∀ l r, room = r + 1 → l.Sound room → l.Breaking r → Breaking (k l) ts P) :
    Breaking (enter (level fuel room) t >>= k) ts P := by
  cases room with
  | zero => exact (Steady.failAt t.pos .tooDeep).breaking
  | succ r => exact hk _ r rfl (level_sound fuel (r + 1) _ rfl) (hi _ r rfl rfl)

theorem compiled_breaking {b : Breakdown} {t : Token} {body flags : String} {ts : List Token}
    (h : (compiled t body flags).run ts = .error (.breakdown b)) :
    b = .stackExhausted ∧ compilePattern body flags = .error .exhausted := by
  unfold compiled at h
  cases hc : compilePattern body flags with
  | ok p =>
    rw [hc] at h
    exact nomatch h
  | error f =>
    rw [hc] at h
    cases f with
    | cause c => exact nomatch h
    | exhausted => exact ⟨(Failure.breakdown.inj (Except.error.inj h)).symm, rfl⟩

theorem negativeNumber_breaking {m : Token} (hm : m.terminal? = some (.symbol .minus))
    (he : Ended (m :: ts)) :
    Breaking (advance >>= fun _ => negativeNumber) (m :: ts) fun b w =>
      Breaks b room .primary w := by
  refine .advance he hm fun he => .peek he fun t rest hts => ?_
  subst hts
  split
  next d hd =>
    refine .advance he (Token.terminal?_number.mpr hd) fun _ => ?_
    split
    next => exact (Steady.pure _).breaking
    next hn =>
      rintro b hb
      obtain rfl := Failure.breakdown.inj (Except.error.inj hb)
      exact .snag (.number hn)
  next => exact (Steady.failAt _ _).breaking

variable (hi : ∀ l r, room = r + 1 → level fuel room = some l → l.Breaking r)
include hi

theorem arguments_breaking (he : Ended ts) :
    Breaking (arguments fuel (level fuel room)) ts fun b w => ∃ r, room = r + 1 ∧ Argued b r w := by
  refine .peek he fun t rest hts => ?_
  subst hts
  split
  · exact (Steady.bind .advance fun _ => .pure _).breaking
  · refine enter_breaking hi t fun l r hr hg hl => ?_
    subst hr
    exact (argumentsFrom_breaking hg hl.2 fuel [] he).mono fun b w hw => ⟨r, rfl, hw⟩

theorem method_breaking (target : Expr) (name : Token) (he : Ended ts) :
    Breaking (method fuel (level fuel room) target name) ts fun b w =>
      ∃ r v, room = r + 1 ∧ w = .symbol .openParen :: v ∧ Argued b r v := by
  refine .symbol he _ fun rest he => ?_
  have hcheck (args : List Expr) (types : List ValueType) (e : Expr) :
      Steady (checkArguments name args types >>= fun _ => pure e) :=
    .bind (.checkArguments _ _ _) fun _ => .pure _
  refine Breaking.bind ((arguments_breaking hi he).mono ?_)
    (arguments_gives (level_sound fuel room) he) fun args v rest he hv => Steady.breaking ?_
  · rintro b w ⟨r, hr, hw⟩
    exact ⟨r, w, hr, rfl, hw⟩
  · exact .ite (.failAt _ _) (.ite (hcheck _ _ _) (.ite (hcheck _ _ _) (.ite (hcheck _ _ _)
      (.failAt _ _))))

theorem patternTest_breaking (pattern : Pattern) (he : Ended ts) :
    Breaking (patternTest fuel (level fuel room) pattern) ts fun b w =>
      ∃ r v, room = r + 1 ∧ w = .symbol .dot :: .word "test" :: .symbol .openParen :: v ∧
        Argued b r v := by
  refine .symbol he _ fun rest he => .word he _ fun name rest he => ?_
  by_cases hn : name.text = "test"
  · simp only [hn, ne_eq, not_true_eq_false, ↓reduceIte]
    refine .symbol he _ fun rest he => ?_
    refine Breaking.bind ((arguments_breaking hi he).mono ?_)
      (arguments_gives (level_sound fuel room) he) fun args v rest he hv => Steady.breaking ?_
    · rintro b w ⟨r, hr, hw⟩
      exact ⟨r, w, hr, rfl, hw⟩
    · exact .bind (.checkArguments _ _ _) fun _ => .pure _
  · simp only [hn, ne_eq, not_false_eq_true, ↓reduceIte]
    exact (Steady.failAt_bind _ _ _).breaking

theorem patternText_breaking (t : Token) (body : String) (flags : Option String) (he : Ended ts) :
    Breaking (do
      expectSymbol .closeParen
      patternTest fuel (level fuel room) (← compiled t body (flags.getD ""))) ts fun b w =>
        Breaks b room .primary (.word "new" :: .word "RegExp" :: .symbol .openParen ::
          .text body :: (Phrase.flagsYield flags ++ w)) := by
  refine .symbol he _ fun rest he => ?_
  refine Breaking.bind (fun b hb => ?_) (Gives.compiled t body (flags.getD "") he)
    fun pattern w rest he hw => ?_
  · obtain ⟨rfl, hc⟩ := compiled_breaking hb
    have hsnag := @Snag.newPattern _ body flags (terminals rest) hc
    simpa [Phrase.inParens] using @Breaks.snag _ _ room _ hsnag
  · obtain ⟨rfl, hc⟩ := hw
    refine (patternTest_breaking hi pattern he).mono ?_
    rintro b w ⟨r, v, rfl, rfl, u, x, rfl, hu, hx⟩
    simpa [Phrase.inParens] using Breaks.test (.newPattern hc) hu hx

theorem newPattern_breaking (he : Ended ts) :
    Breaking (newPattern fuel (level fuel room)) ts fun b w =>
      Breaks b room .primary (.word "new" :: w) := by
  refine .word he _ fun name rest he => ?_
  by_cases hn : name.text = "RegExp"
  · simp only [hn, ne_eq, not_true_eq_false, ↓reduceIte]
    refine .symbol he _ fun rest he => .text he _ fun t body rest he => ?_
    refine .peek he fun u rest' hts => ?_
    subst hts
    split
    next hs =>
      refine .advance he (Token.terminal?_symbol.mpr (Token.isSymbol_iff.mp hs)) fun he => ?_
      refine .text he _ fun _ flags rest he => ?_
      exact patternText_breaking hi t body (some flags) he
    next => exact patternText_breaking hi t body none he
  · simp only [hn, ne_eq, not_false_eq_true, ↓reduceIte]
    exact (Steady.failAt_bind _ _ _).breaking

theorem dateCall_breaking (part : DatePart) (name : Token) (he : Ended ts) :
    Breaking (dateCall (level fuel room) part name) ts fun b w =>
      Breaks b room .primary (.word part.name :: w) := by
  refine .symbol he _ fun rest he => ?_
  refine enter_breaking hi name fun l r hr hg hl => ?_
  subst hr
  refine Breaking.bind ((hl.2 rest he).mono fun b w hw => .datePart part hw)
    (hg.operand rest he) fun e v rest he _ => Steady.breaking ?_
  exact .bind (.expectSymbol _) fun _ => .ite (.failAt _ _) (.pure _)

theorem named_breaking (name : Token) (he : Ended ts) :
    Breaking (named fuel (level fuel room) name) ts fun b w =>
      Breaks b room .primary (.word name.text :: w) := by
  unfold named
  split
  · exact fieldAccess_steady.breaking
  · split
    next hn =>
      rw [hn]
      exact newPattern_breaking hi he
    next =>
      split
      next part hpart =>
        rw [← DatePart.name_of_ofName? hpart]
        exact dateCall_breaking hi part name he
      next => exact (Steady.peek fun _ => .ite (.failAt _ _) (.failAt _ _)).breaking

theorem primary_breaking (he : Ended ts) :
    Breaking (primary fuel (level fuel room)) ts fun b w => Breaks b room .primary w := by
  refine .peek he fun t rest hts => ?_
  subst hts
  split
  next hl =>
    refine enter_breaking hi t fun l r hr hg hl' => ?_
    subst hr
    refine .advance he (Token.terminal?_symbol.mpr hl) fun he => ?_
    refine Breaking.bind ((hl'.1 rest he).mono fun b w hw => .group hw) (hg.condition rest he)
      fun e v rest he _ => Steady.breaking ?_
    exact .bind (.expectSymbol _) fun _ => .pure _
  next => exact (Steady.bind .advance fun _ => .pure _).breaking
  next => exact (Steady.bind .advance fun _ => .pure _).breaking
  next hl => exact negativeNumber_breaking (Token.terminal?_symbol.mpr hl) he
  next body flags hl =>
    refine .advance he (Token.terminal?_pattern.mpr hl) fun he => ?_
    refine Breaking.bind (fun b hb => ?_) (Gives.compiled t body flags he)
      fun pattern w rest he hw => ?_
    · obtain ⟨rfl, hc⟩ := compiled_breaking hb
      exact .snag (.pattern hc)
    · obtain ⟨rfl, hc⟩ := hw
      refine (patternTest_breaking hi pattern he).mono ?_
      rintro b w ⟨r, v, rfl, rfl, u, x, rfl, hu, hx⟩
      exact .test (.pattern hc) hu hx
  next hl =>
    exact .advance he (Token.terminal?_word.mpr ⟨hl, rfl⟩) fun he => named_breaking hi t he
  · exact (Steady.failAt _ _).breaking
  · exact (Steady.failAt _ _).breaking

theorem methodsFrom_breaking (k : Nat) (left : Expr) (he : Ended ts) :
    Breaking (methodsFrom fuel (level fuel room) k left) ts fun b w =>
      ∃ r e u name v, room = r + 1 ∧ Continued .operand room left e u ∧
        w = u ++ .symbol .dot :: .word name :: .symbol .openParen :: v ∧ Argued b r v := by
  induction k generalizing left ts with
  | zero => exact (Steady.pure _).breaking
  | succ k ih =>
    refine .peek he fun t rest hts => ?_
    subst hts
    split
    next hs =>
      refine .advance he (Token.terminal?_symbol.mpr (Token.isSymbol_iff.mp hs)) fun he => ?_
      refine .word he _ fun name rest he => ?_
      refine Breaking.bind ((method_breaking hi left name he).mono ?_)
        (method_gives (level_sound fuel room) left name he) fun e v rest he hcall =>
          (ih e he).mono ?_
      · rintro b w ⟨r, v, hr, rfl, hv⟩
        exact ⟨r, left, [], name.text, v, hr, ⟨.noCall, rfl, Nat.zero_le _, rfl⟩, rfl, hv⟩
      · rintro b w ⟨r, e', u, name', x, hr, ⟨calls, rfl, hd, hb⟩, rfl, hx⟩
        obtain ⟨m, hy, hdm, hbm⟩ := hcall calls
        refine ⟨r, e', m.yield, name', x, hr, ⟨m, rfl, ?_, hbm.trans hb⟩, ?_, hx⟩
        · exact Nat.le_trans hdm (Nat.max_le.mpr ⟨Nat.le_refl _, hd⟩)
        · simp [hy]
    next => exact (Steady.pure _).breaking

theorem operand_breaking (he : Ended ts) :
    Breaking (operand fuel (level fuel room)) ts fun b w => Breaks b room .operand w := by
  refine Breaking.bind ((primary_breaking hi he).mono fun b w hw => .primary hw)
    (primary_gives (level_sound fuel room) he) fun e v rest he hb =>
      (methodsFrom_breaking hi fuel e he).mono ?_
  obtain ⟨p, rfl, hd, hp⟩ := hb
  rintro b w ⟨r, e', u, name, x, rfl, ⟨m, rfl, hdm, hm⟩, rfl, u', x', rfl, hu, hx⟩
  have hbuilt : Built .operand (r + 1) e' (p.yield ++ m.yield) :=
    ⟨.called p m, rfl, Nat.max_le.mpr ⟨hd, hdm⟩, Phrase.build_called.mpr ⟨e, hp, hm⟩⟩
  simpa using Breaks.call name hbuilt hu hx

theorem comparison_breaking (he : Ended ts) :
    Breaking (comparison fuel (level fuel room)) ts fun b w => Breaks b room .comparison w := by
  refine Breaking.bind ((operand_breaking hi he).mono fun b w hw => .left hw)
    (operand_gives (level_sound fuel room) he) fun left v rest he hb => ?_
  refine .peek he fun t rest hts => ?_
  subst hts
  split
  next op hl =>
    refine .advance he (Token.terminal?_symbol.mpr hl) fun he => ?_
    refine Breaking.bind ((operand_breaking hi he).mono fun b w hw => .right op hb hw)
      (operand_gives (level_sound fuel room) he) fun right w rest he _ =>
        (Steady.blame _ _).breaking
  next => exact (Steady.pure _).breaking

omit hi in
theorem joinsFrom_breaking {kind : Join} {part : Reader Expr}
    (hg : ∀ ts, Ended ts → Gives part ts (Built (Construct.part kind) room))
    (h : ∀ ts, Ended ts → Breaking part ts fun b w => Breaks b room (Construct.part kind) w)
    (k : Nat) (left : Expr) (he : Ended ts) :
    Breaking (joinsFrom kind part k left) ts fun b w =>
      ∃ e u v, Continued (.run kind) room left e u ∧ w = u ++ .symbol (.join kind) :: v ∧
        Breaks b room (Construct.part kind) v := by
  induction k generalizing left ts with
  | zero => exact (Steady.pure _).breaking
  | succ k ih =>
    refine .peek he fun t rest hts => ?_
    subst hts
    split
    next hs =>
      refine .advance he (Token.terminal?_symbol.mpr (Token.isSymbol_iff.mp hs)) fun he => ?_
      refine Breaking.bind ((h _ he).mono ?_) (hg _ he) fun e v rest he hb => (ih _ he).mono ?_
      · intro b w hw
        exact ⟨left, [], w, ⟨.noPart, rfl, Nat.zero_le _, rfl⟩, rfl, hw⟩
      · obtain ⟨p, rfl, hd, hp⟩ := hb
        rintro b w ⟨e', u, v, ⟨m, rfl, hdm, hm⟩, rfl, hv⟩
        refine ⟨e', (Phrase.part kind p m).yield, v, ⟨.part kind p m, rfl, ?_, ?_⟩, ?_, hv⟩
        · exact Nat.max_le.mpr ⟨hd, hdm⟩
        · exact Phrase.build_part.mpr ⟨e, hp, hm⟩
        · simp [Phrase.yield]
    next => exact (Steady.pure _).breaking

omit hi in
theorem run_breaking {kind : Join} {part : Reader Expr}
    (hg : ∀ ts, Ended ts → Gives part ts (Built (Construct.part kind) room))
    (h : ∀ ts, Ended ts → Breaking part ts fun b w => Breaks b room (Construct.part kind) w)
    (he : Ended ts) :
    Breaking (part >>= joinsFrom kind part fuel) ts fun b w => Breaks b room (.run kind) w := by
  refine Breaking.bind ((h ts he).mono fun b w hw => .first hw) (hg ts he)
    fun left v rest he hb => (joinsFrom_breaking hg h fuel left he).mono ?_
  obtain ⟨p, rfl, hd, hp⟩ := hb
  rintro b w ⟨e, u, v, ⟨m, rfl, hdm, hm⟩, rfl, hv⟩
  have hbuilt : Built (.run kind) room e (p.yield ++ m.yield) :=
    ⟨.run p m, rfl, Nat.max_le.mpr ⟨hd, hdm⟩, Phrase.build_run.mpr ⟨left, hp, hm⟩⟩
  simpa using Breaks.later hbuilt hv

theorem conjunction_breaking (he : Ended ts) :
    Breaking (conjunction fuel (level fuel room)) ts fun b w => Breaks b room (.run .all) w :=
  run_breaking (fun _ he => comparison_gives (level_sound fuel room) he)
    (fun _ he => comparison_breaking hi he) he

theorem disjunction_breaking (he : Ended ts) :
    Breaking (disjunction fuel (level fuel room)) ts fun b w => Breaks b room (.run .any) w :=
  run_breaking (fun _ he => conjunction_gives (level_sound fuel room) he)
    (fun _ he => conjunction_breaking hi he) he

omit hi in
theorem level_breaking (fuel room : Nat) :
    ∀ l r, room = r + 1 → level fuel room = some l → l.Breaking r := by
  induction room with
  | zero => exact nofun
  | succ room ih =>
    rintro l r hr hl
    obtain rfl := Nat.succ.inj hr
    obtain rfl := Option.some.inj hl
    exact ⟨fun ts he => disjunction_breaking ih he, fun ts he => operand_breaking ih he⟩

end

section
variable {α β : Type} {ts : List Token} {w : List Terminal}

theorem Leads.error {r r' : Reader α} {f : Failure} (h : Leads r ts r' w)
    (h' : ∀ rest, Ended rest → terminals rest = w → r'.run rest = .error f) :
    r.run ts = .error f := by
  obtain ⟨rest, hr, he, hw⟩ := h
  rw [hr, h' rest he hw]

theorem Runs.bind_error {r : Reader α} {k : α → Reader β} {a : α} {f : Failure}
    (h : Runs r ts a w)
    (hk : ∀ rest, Ended rest → terminals rest = w → (k a).run rest = .error f) :
    (r >>= k).run ts = .error f :=
  (h.leads k).error hk

theorem Stops.comma (w : List Terminal) : Stops .operand (.symbol .comma :: w) := by
  intro s hs
  obtain rfl : Symbol.comma = s := by simpa using hs
  rfl

theorem compiled_run_exhausted [Pattern.Engine] {body flags : String} (t : Token)
    (h : compilePattern body flags = .error .exhausted) :
    (compiled t body flags).run ts = .error (.breakdown .stackExhausted) := by
  unfold compiled
  rw [h]
  rfl

end

section
variable [Pattern.Engine] {b : Breakdown} {fuel room : Nat} {ts : List Token}
  {u v w : List Terminal}

theorem Snag.eq_cons (h : Snag b w) : ∃ x v, w = x :: v ∧ x ≠ .symbol .closeParen := by
  cases h with
  | number | pattern | newPattern => exact ⟨_, _, rfl, nofun⟩

theorem Built.eq_cons {c : Construct} {e : Expr} (h : Built c room e v) (w : List Terminal) :
    ∃ x v', v ++ w = x :: v' ∧ x ≠ .symbol .closeParen := by
  obtain ⟨p, rfl, -, -⟩ := h
  obtain ⟨x, v', hx, hc⟩ := p.yield_eq_cons rfl
  exact ⟨x, v' ++ w, by rw [hx, List.cons_append], hc⟩

theorem Breaks.eq_cons {c : Construct} (h : Breaks b room c w) :
    ∃ x v, w = x :: v ∧ x ≠ .symbol .closeParen := by
  induction h with
  | snag hs => exact hs.eq_cons
  | group | datePart => exact ⟨_, _, rfl, nofun⟩
  | test hv => cases hv <;> exact ⟨_, _, rfl, nofun⟩
  | primary _ ih | left _ ih | first _ ih => exact ih
  | call _ hb | right _ hb | later hb => exact hb.eq_cons _

theorem Snag.run (h : Snag b w) (he : Ended ts) (hw : terminals ts = w) (inner : Option Level) :
    (primary fuel inner).run ts = .error (.breakdown b) := by
  cases h with
  | number hd =>
    refine (primary_negative he hw).error fun rest _ _ => ?_
    rw [hd]
    rfl
  | pattern hc =>
    obtain ⟨t, hlead⟩ := primary_pattern he hw
    exact hlead.error fun rest _ _ => run_bind_error (compiled_run_exhausted t hc)
  | newPattern hc =>
    obtain ⟨t, hlead⟩ := primary_newPattern he hw
    exact hlead.error fun rest _ _ => run_bind_error (compiled_run_exhausted t hc)

theorem PatternHead.leads (h : PatternHead v) (he : Ended ts) (hw : terminals ts = v ++ w)
    (inner : Option Level) :
    ∃ p, Leads (primary fuel inner) ts (patternTest fuel inner p) w := by
  cases h with
  | @pattern _ _ p hc =>
    obtain ⟨t, hlead⟩ := primary_pattern he hw
    exact ⟨p, hlead.trans fun rest he hw => (Runs.compiled he hw hc).leads _⟩
  | @newPattern _ _ p hc =>
    obtain ⟨t, hlead⟩ := primary_newPattern he hw
    exact ⟨p, hlead.trans fun rest he hw => (Runs.compiled he hw hc).leads _⟩

/-- What is built is read, in front of something that cannot belong to it. -/
theorem Built.runs {c : Construct} {e : Expr} (h : Built c room e v) (he : Ended ts)
    (hw : terminals ts = v ++ w) (hs : Stops c w) (hf : v.length ≤ fuel) :
    Runs (c.reader fuel (level fuel room)) ts e w := by
  obtain ⟨p, rfl, hd, hb⟩ := h
  exact p.read fuel hd hb he hw hs hf

section
variable (hop : ∀ ts, Ended ts → terminals ts = w →
  (operand fuel (level fuel room)).run ts = .error (.breakdown b))
include hop

theorem argumentsFrom_error (hu : Earlier room u) (hne : w ≠ []) {k : Nat} (before : List Expr)
    (he : Ended ts) (hw : terminals ts = u ++ w) (hf : (u ++ w).length ≤ fuel)
    (hk : (u ++ w).length ≤ k) :
    (argumentsFrom ⟨disjunction fuel (level fuel room), operand fuel (level fuel room)⟩ k
      before).run ts = .error (.breakdown b) := by
  have hlen := List.length_pos_iff.mpr hne
  induction hu generalizing k before ts with
  | none =>
    obtain ⟨k, rfl⟩ := Nat.exists_eq_succ_of_ne_zero (by simp at hk; omega : k ≠ 0)
    exact run_bind_error (hop ts he hw)
  | next hb _ ih =>
    simp only [List.append_assoc, List.cons_append, List.length_append, List.length_cons]
      at hw hf hk
    obtain ⟨k, rfl⟩ := Nat.exists_eq_succ_of_ne_zero (by omega : k ≠ 0)
    refine (hb.runs he hw (Stops.comma _) (by omega)).bind_error fun rest he hw => ?_
    refine (Leads.symbol he hw).error fun rest he hw => ?_
    exact ih _ he hw (by simp; omega) (by simp; omega)

theorem arguments_error (hu : Earlier room u) (h : Breaks b room .operand w) (he : Ended ts)
    (hw : terminals ts = u ++ w) (hf : (u ++ w).length ≤ fuel) :
    (arguments fuel (level fuel (room + 1))).run ts = .error (.breakdown b) := by
  have hne : w ≠ [] := by
    obtain ⟨x, v, rfl, -⟩ := h.eq_cons
    nofun
  obtain ⟨x, v, hx, hc⟩ : ∃ x v, u ++ w = x :: v ∧ x ≠ .symbol .closeParen := by
    cases hu with
    | none => exact h.eq_cons
    | next hb _ =>
      rw [List.append_assoc]
      exact hb.eq_cons _
  have hlead : Leads (arguments fuel (level fuel (room + 1))) ts
      (argumentsFrom ⟨disjunction fuel (level fuel room), operand fuel (level fuel room)⟩ fuel [])
      (u ++ w) :=
    .other he (by simp [hw, hx, hc]) fun t => .refl he hw
  exact hlead.error fun rest he hw => argumentsFrom_error hop hu hne [] he hw hf hf

end

theorem Built.joins {kind : Join} {e : Expr} (h : Built (.run kind) room e v) (he : Ended ts)
    (hw : terminals ts = v ++ .symbol (.join kind) :: w)
    (hf : (v ++ .symbol (.join kind) :: w).length ≤ fuel) :
    ∃ k, Leads ((Construct.run kind).reader fuel (level fuel room)) ts
      ((Construct.part kind).reader fuel (level fuel room) >>= fun e' =>
        (Construct.run kind).follow fuel (level fuel room) k (.join kind e e')) w := by
  obtain ⟨p, rfl, hd, hb⟩ := h
  cases p with
  | run first more =>
    rw [Phrase.yield, List.append_assoc] at hw
    rw [Phrase.yield, List.length_append, List.length_append, List.length_cons] at hf
    obtain ⟨e₁, hb₁, hb₂⟩ := Phrase.build_run.mp hb
    have hs := Stops.join kind w
    have hlen : first.yield.length + more.yield.length ≤ fuel := by omega
    obtain ⟨k, hk, hlead⟩ := Phrase.arrives (first.read fuel) (more.read fuel) hd hb₁ hb₂ he hw
      (hs.more more) hs hlen
    obtain ⟨k, rfl⟩ := Nat.exists_eq_succ_of_ne_zero (by omega : k ≠ 0)
    rw [Construct.reader_run]
    exact ⟨k, hlead.trans fun rest he hw => Leads.symbol he hw⟩

theorem Built.calls {e : Expr} {name : String} (h : Built .operand room e v) (he : Ended ts)
    (hw : terminals ts = v ++ .symbol .dot :: .word name :: w)
    (hf : (v ++ .symbol .dot :: .word name :: w).length ≤ fuel) :
    ∃ k t, Leads (operand fuel (level fuel room)) ts
      (method fuel (level fuel room) e t >>= methodsFrom fuel (level fuel room) k) w := by
  obtain ⟨p, rfl, hd, hb⟩ := h
  cases p with
  | called p calls =>
    rw [Phrase.yield, List.append_assoc] at hw
    rw [Phrase.yield, List.length_append, List.length_append, List.length_cons] at hf
    obtain ⟨e₁, hb₁, hb₂⟩ := Phrase.build_called.mp hb
    have hlen : p.yield.length + calls.yield.length ≤ fuel := by omega
    obtain ⟨k, hk, hlead⟩ := Phrase.arrives (p.read fuel) (calls.read fuel) hd hb₁ hb₂ he hw
      (fun _ _ => rfl) (fun _ _ => rfl) hlen
    obtain ⟨k, rfl⟩ := Nat.exists_eq_succ_of_ne_zero (by omega : k ≠ 0)
    obtain ⟨rest, hrun, he, hw⟩ := hlead.trans fun rest he hw => Leads.symbol he hw
    obtain ⟨t, -, hword⟩ := Runs.expectWord "a method name" he hw
    exact ⟨k, t, .of_run hrun (hword.leads _)⟩

theorem Breaks.run {c : Construct} (h : Breaks b room c w) (he : Ended ts)
    (hw : terminals ts = w) (hf : w.length ≤ fuel) :
    (c.reader fuel (level fuel room)).run ts = .error (.breakdown b) := by
  induction h generalizing ts with
  | snag hs => exact hs.run he hw _
  | group _ ih =>
    refine (primary_group he hw).error fun rest he hw => run_bind_error (ih he hw ?_)
    exact Nat.le_of_succ_le hf
  | datePart d _ ih =>
    obtain ⟨name, hlead⟩ := primary_datePart he hw
    refine hlead.error fun rest he hw => run_bind_error (ih he hw ?_)
    simp only [List.length_cons] at hf
    omega
  | test hv hu h ih =>
    simp only [List.length_append, List.length_cons] at hf
    obtain ⟨p, hlead⟩ := hv.leads he hw _
    refine hlead.error fun rest he hw => ?_
    obtain ⟨name, htest⟩ := patternTest_leads p he hw
    refine htest.error fun rest he hw => run_bind_error ?_
    exact arguments_error (fun ts he hw => ih he hw (by omega)) hu h he hw
      (by rw [List.length_append]; omega)
  | primary _ ih => exact run_bind_error (ih he hw hf)
  | call name hb hu h ih =>
    obtain ⟨k, t, hlead⟩ := hb.calls he hw hf
    simp only [List.length_append, List.length_cons] at hf
    refine hlead.error fun rest he hw => run_bind_error ?_
    refine (Runs.expectSymbol he hw).bind_error fun rest he hw => run_bind_error ?_
    exact arguments_error (fun ts he hw => ih he hw (by omega)) hu h he hw
      (by rw [List.length_append]; omega)
  | left _ ih => exact run_bind_error (ih he hw hf)
  | right op hb _ ih =>
    simp only [List.length_append, List.length_cons] at hf
    refine (hb.runs he hw (Stops.compare op _) (by omega)).bind_error fun rest he hw => ?_
    obtain ⟨t, rest, rfl, hx, he', hw'⟩ := he.of_terminals hw
    rw [run_bind_ok (run_peek t), Token.terminal?_symbol.mp hx]
    exact (run_bind_ok (run_advance he hx)).trans (run_bind_error (ih he' hw' (by omega)))
  | first _ ih =>
    rw [Construct.reader_run]
    exact run_bind_error (ih he hw hf)
  | later hb _ ih =>
    obtain ⟨k, hlead⟩ := hb.joins he hw hf
    simp only [List.length_append, List.length_cons] at hf
    exact hlead.error fun rest he hw => run_bind_error (ih he hw (by omega))

/-- Where the tokens stand for a construct that leads to a snag, and only there, its reader breaks
down. -/
theorem breaks_iff {c : Construct} (he : Ended ts) (hf : (terminals ts).length ≤ fuel) :
    (c.reader fuel (level fuel room)).run ts = .error (.breakdown b) ↔
      Breaks b room c (terminals ts) := by
  have hi := level_breaking fuel room
  refine ⟨fun h => ?_, fun h => h.run he rfl hf⟩
  cases c with
  | run kind =>
    cases kind with
    | any => exact disjunction_breaking hi he b h
    | all => exact conjunction_breaking hi he b h
  | comparison => exact comparison_breaking hi he b h
  | operand => exact operand_breaking hi he b h
  | primary => exact primary_breaking hi he b h

theorem whole_breakdown_iff {c : Construct} (he : Ended ts) :
    (do
      let e ← c.reader ts.length (level ts.length maxNesting)
      expectEnd
      return e : Reader Expr).run ts = .error (.breakdown b) ↔
      Breaks b maxNesting c (terminals ts) := by
  rw [← breaks_iff he (length_terminals_le ts)]
  refine ⟨fun h => ?_, fun h => run_bind_error h⟩
  cases hr : (c.reader ts.length (level ts.length maxNesting)).run ts with
  | error f =>
    rw [run_bind_error hr] at h
    exact h
  | ok p =>
    rw [run_bind_ok hr] at h
    exact absurd h ((Steady.expectEnd.bind fun _ => .pure p.1) p.2 b)

theorem wholeCondition_breakdown_iff (he : Ended ts) :
    (wholeCondition ts.length).run ts = .error (.breakdown b) ↔
      Breaks b maxNesting (.run .any) (terminals ts) := by
  rw [← whole_breakdown_iff he]
  obtain ⟨t, rest, rfl⟩ := he.exists_cons
  unfold wholeCondition
  rw [run_bind_ok (run_peek t)]
  split
  next hf =>
    rw [whole_breakdown_iff he]
    refine ⟨nofun, fun h => ?_⟩
    rcases he.cases with ⟨-, -, hn⟩ | ⟨x, hx, -⟩
    · obtain ⟨x, v, hx, -⟩ := h.eq_cons
      rw [hn] at hx
      cases hx
    · simp [Token.terminal?_eq_none.mpr hf] at hx
  next => rfl

theorem wholeOperand_breakdown_iff (he : Ended ts) :
    (wholeOperand ts.length).run ts = .error (.breakdown b) ↔
      Breaks b maxNesting .operand (terminals ts) :=
  whole_breakdown_iff (c := .operand) he

theorem Breaks.snagged {c : Construct} (h : Breaks b room c w) :
    ∃ u v, w = u ++ v ∧ Snag b v := by
  have hbehind {x : List Terminal} (u : List Terminal) (h : ∃ v y, x = v ++ y ∧ Snag b y) :
      ∃ v y, u ++ x = v ++ y ∧ Snag b y := by
    obtain ⟨v, y, rfl, hs⟩ := h
    exact ⟨u ++ v, y, (List.append_assoc ..).symm, hs⟩
  induction h with
  | snag hs => exact ⟨[], _, rfl, hs⟩
  | group _ ih => exact hbehind [_] ih
  | datePart d _ ih => exact hbehind [_, _] ih
  | @test room v u w _ _ _ ih =>
    have := hbehind (v ++ .symbol .dot :: .word "test" :: .symbol .openParen :: u) ih
    simpa using this
  | primary _ ih | left _ ih | first _ ih => exact ih
  | @call room e v u w name _ _ _ ih =>
    have := hbehind (v ++ .symbol .dot :: .word name :: .symbol .openParen :: u) ih
    simpa using this
  | @right room e v w op _ _ ih =>
    have := hbehind (v ++ [.symbol (.compare op)]) ih
    simpa using this
  | @later room kind e v w _ _ ih =>
    have := hbehind (v ++ [.symbol (.join kind)]) ih
    simpa using this

theorem Breaks.exists_minusNumber {c : Construct} (h : Breaks .numberOverflow room c w) :
    ∃ d ∈ minusNumbers w, d.negated? = none := by
  obtain ⟨u, v, rfl, hs⟩ := h.snagged
  cases hs with
  | number hd => exact ⟨_, mem_minusNumbers_append List.mem_cons_self, hd⟩

theorem Breaks.kinds {c : Construct} (h : Breaks b room c w) :
    b = .numberOverflow ∨ b = .stackExhausted := by
  obtain ⟨u, v, -, hs⟩ := h.snagged
  cases hs with
  | number => exact .inl rfl
  | pattern | newPattern => exact .inr rfl

end

end LedgerRules.Condition
