import LedgerRules.Proofs.ParserSoundness

/-! Where the tokens start with what a phrase derives, and nothing that follows could belong to it,
the reader of its construct reads it and returns the expression that the phrase builds. The
induction is on the phrase; the number of tokens bounds the steps of every loop. -/

namespace LedgerRules.Condition
open Numeric

section
variable [Pattern.Engine]

def Construct.reader (fuel : Nat) (inner : Option Level) : Construct → Reader Expr
  | run .any => disjunction fuel inner
  | run .all => conjunction fuel inner
  | comparison => Condition.comparison fuel inner
  | operand => Condition.operand fuel inner
  | primary => Condition.primary fuel inner

def Construct.follow (fuel : Nat) (inner : Option Level) : Construct → Nat → Expr → Reader Expr
  | run kind => joinsFrom kind ((Construct.part kind).reader fuel inner)
  | operand => methodsFrom fuel inner
  | _ => fun _ => pure

theorem Construct.reader_run (fuel : Nat) (inner : Option Level) (kind : Join) :
    (Construct.run kind).reader fuel inner =
      (Construct.part kind).reader fuel inner >>= (Construct.run kind).follow fuel inner fuel := by
  cases kind <;> rfl

theorem Construct.reader_operand (fuel : Nat) (inner : Option Level) :
    Construct.operand.reader fuel inner =
      Construct.primary.reader fuel inner >>= Construct.operand.follow fuel inner fuel :=
  rfl

end

section
variable {β : Type} {fuel room : Nat} {ts : List Token} {w v : List Terminal}

theorem Runs.symbol_next {s : Symbol} {yes : Reader β} {no : Token → Reader β} {b : β}
    (he : Ended ts) (hw : terminals ts = .symbol s :: w)
    (h : ∀ rest, Ended rest → terminals rest = w → Runs yes rest b v) :
    Runs (Condition.peek >>= fun t =>
      if t.isSymbol s then Condition.advance >>= fun _ => yes else no t) ts b v := by
  exact (Leads.symbol he hw).runs h

theorem Runs.symbol_other {s : Symbol} {yes : Reader β} {no : Token → Reader β} {b : β}
    (he : Ended ts) (hw : (terminals ts).head? ≠ some (.symbol s))
    (h : ∀ t, Runs (no t) ts b v) :
    Runs (Condition.peek >>= fun t => if t.isSymbol s then yes else no t) ts b v := by
  obtain ⟨t, rest, rfl⟩ := he.exists_cons
  refine .peek ?_
  rw [if_neg fun hs => hw (he.head?_symbol.mpr (Token.isSymbol_iff.mp hs))]
  exact h t

theorem Phrase.yield_eq_cons {c : Construct} {s : Shape} (p : Phrase c s) (hs : s = .whole) :
    ∃ x v, p.yield = x :: v ∧ x ≠ .symbol .closeParen := by
  induction p with
  | run first more ih =>
    obtain ⟨x, v, hx, hc⟩ := ih rfl
    exact ⟨x, v ++ more.yield, by rw [yield, hx]; rfl, hc⟩
  | alone o ih => exact ih rfl
  | compare op left right ih =>
    obtain ⟨x, v, hx, hc⟩ := ih rfl
    exact ⟨x, v ++ .symbol (.compare op) :: right.yield, by rw [yield, hx]; rfl, hc⟩
  | called p calls ih =>
    obtain ⟨x, v, hx, hc⟩ := ih rfl
    exact ⟨x, v ++ calls.yield, by rw [yield, hx]; rfl, hc⟩
  | noPart | part | noCall | includes | changeCase => exact nomatch hs
  | _ => exact ⟨_, _, rfl, by simp⟩

theorem checkArguments_runs {method : Token} {args : List Expr} {types : List ValueType}
    (he : Ended ts) (hw : terminals ts = w) (h : args.map Expr.type = types) :
    Runs (checkArguments method args types) ts () w := by
  subst h
  have hfind : (args.zip (args.map Expr.type)).find? (fun p => decide (p.1.type ≠ p.2)) = none := by
    rw [List.find?_eq_none]
    intro p hp
    obtain ⟨i, hi, rfl⟩ := List.mem_iff_getElem.mp hp
    simp
  simp only [checkArguments, List.length_map, ne_eq, not_true_eq_false, ↓reduceIte, hfind]
  exact .pure he hw

theorem arguments_runs_none {inner : Option Level} (he : Ended ts)
    (hw : terminals ts = .symbol .closeParen :: w) : Runs (arguments fuel inner) ts [] w :=
  .symbol_next he hw fun _ he hw => .pure he hw

theorem arguments_runs_one {l : Level} {p : Phrase .operand .whole} {e : Expr} (he : Ended ts)
    (hw : terminals ts = p.yield ++ .symbol .closeParen :: w) (hf : 0 < fuel)
    (hop : Runs l.operand ts e (.symbol .closeParen :: w)) :
    Runs (arguments fuel (some l)) ts [e] w := by
  obtain ⟨k, rfl⟩ := Nat.exists_eq_succ_of_ne_zero (Nat.ne_of_gt hf)
  obtain ⟨x, v, hx, hc⟩ := p.yield_eq_cons rfl
  refine .symbol_other he (by simp [hw, hx, hc]) fun t => ?_
  simp only [enter, pure_bind]
  refine hop.bind fun rest he hw => ?_
  refine .symbol_other he (by simp [hw]) fun t => ?_
  refine (Runs.expectSymbol he hw).bind fun rest he hw => ?_
  exact .pure he hw

theorem method_includes {l : Level} {p : Phrase .operand .whole} {target e : Expr} {name : Token}
    (he : Ended ts) (hw : terminals ts = Phrase.inParens p.yield ++ w) (hf : 0 < fuel)
    (hn : name.text = "includes") (ht : target.type = .text) (het : e.type = .text)
    (hop : ∀ ts, Ended ts → terminals ts = p.yield ++ .symbol .closeParen :: w →
      Runs l.operand ts e (.symbol .closeParen :: w)) :
    Runs (method fuel (some l) target name) ts (.includes target e) w := by
  simp only [Phrase.inParens, List.cons_append, List.append_assoc, List.nil_append] at hw
  refine (Runs.expectSymbol he hw).bind fun rest he hw => ?_
  refine (arguments_runs_one he hw hf (hop rest he hw)).bind fun rest he hw => ?_
  rw [if_neg (by simp [ht]), if_pos hn]
  refine (checkArguments_runs he hw (by simp [het])).bind fun rest he hw => ?_
  exact .pure he hw

theorem method_changeCase {inner : Option Level} {upper : Bool} {target : Expr} {name : Token}
    (he : Ended ts) (hw : terminals ts = Phrase.inParens [] ++ w)
    (hn : name.text = Phrase.caseWord upper) (ht : target.type = .text) :
    Runs (method fuel inner target name) ts (.changeCase upper target) w := by
  simp only [Phrase.inParens, List.cons_append, List.nil_append] at hw
  refine (Runs.expectSymbol he hw).bind fun rest he hw => ?_
  refine (arguments_runs_none he hw).bind fun rest he hw => ?_
  rw [if_neg (by simp [ht]), if_neg (by simp [hn, caseWord_ne])]
  have hcheck : Runs (checkArguments name [] []) rest () w := checkArguments_runs he hw rfl
  cases upper with
  | false =>
    rw [if_pos (show name.text = "toLowerCase" from hn)]
    exact hcheck.bind fun rest he hw => .pure he hw
  | true =>
    rw [if_neg (by rw [hn]; decide), if_pos (show name.text = "toUpperCase" from hn)]
    exact hcheck.bind fun rest he hw => .pure he hw

theorem patternTest_leads {inner : Option Level} (pattern : Pattern) (he : Ended ts)
    (hw : terminals ts = .symbol .dot :: .word "test" :: .symbol .openParen :: w) :
    ∃ name, Leads (patternTest fuel inner pattern) ts (do
      let args ← arguments fuel inner
      checkArguments name args [.text]
      return .search pattern (args.headD (.text ""))) w := by
  obtain ⟨rest, hdot, he, hw⟩ := Runs.expectSymbol he hw
  obtain ⟨name, hname, hword⟩ := Runs.expectWord "'test'" he hw
  refine ⟨name, .of_run (run_bind_ok hdot) ?_⟩
  refine (hword.leads _).trans fun rest he hw => ?_
  simp only [hname, ne_eq, not_true_eq_false, ↓reduceIte]
  exact (Runs.expectSymbol he hw).leads _

theorem patternTest_runs {l : Level} {p : Phrase .operand .whole} {e : Expr} (pattern : Pattern)
    (he : Ended ts) (hw : terminals ts = Phrase.testOf p.yield ++ w) (hf : 0 < fuel)
    (het : e.type = .text)
    (hop : ∀ ts, Ended ts → terminals ts = p.yield ++ .symbol .closeParen :: w →
      Runs l.operand ts e (.symbol .closeParen :: w)) :
    Runs (patternTest fuel (some l) pattern) ts (.search pattern e) w := by
  simp only [Phrase.testOf, Phrase.inParens, List.cons_append, List.append_assoc,
    List.nil_append] at hw
  obtain ⟨name, htest⟩ := patternTest_leads pattern he hw
  refine htest.runs fun rest he hw => ?_
  refine (arguments_runs_one he hw hf (hop rest he hw)).bind fun rest he hw => ?_
  refine (checkArguments_runs he hw (by simp [het])).bind fun rest he hw => ?_
  exact .pure he hw

section
variable [Pattern.Engine]

theorem search_runs {l : Level} {p : Phrase .operand .whole} {e : Expr} {pattern : Pattern}
    {t : Token} {body flags : String} (he : Ended ts)
    (hw : terminals ts = Phrase.testOf p.yield ++ w) (hf : 0 < fuel)
    (hc : compilePattern body flags = .ok pattern) (het : e.type = .text)
    (hop : ∀ ts, Ended ts → terminals ts = p.yield ++ .symbol .closeParen :: w →
      Runs l.operand ts e (.symbol .closeParen :: w)) :
    Runs (compiled t body flags >>= patternTest fuel (some l)) ts (.search pattern e) w := by
  refine (Runs.compiled he hw hc).bind fun rest he hw => ?_
  exact patternTest_runs pattern he hw hf het hop

theorem primary_group (he : Ended ts)
    (hw : terminals ts = .symbol .openParen :: w) :
    Leads (primary fuel (level fuel (room + 1))) ts (do
      let e ← disjunction fuel (level fuel room)
      expectSymbol .closeParen
      return e) w := by
  obtain ⟨t, rest, rfl, hx, he', hw'⟩ := he.of_terminals hw
  refine .peek ?_
  rw [Token.terminal?_symbol.mp hx]
  simp only [level, enter, pure_bind]
  exact .advance he hx (.refl he' hw')

theorem primary_negative {inner : Option Level} {d : Decimal} (he : Ended ts)
    (hw : terminals ts = .symbol .minus :: .number d :: w) :
    Leads (primary fuel inner) ts (match d.negated? with
      | some n => return .number n
      | none => throw (.breakdown .numberOverflow)) w := by
  obtain ⟨m, rest, rfl, hm, he', hrest⟩ := he.of_terminals hw
  obtain ⟨t, rest, rfl, ht, he'', hw⟩ := he'.of_terminals hrest
  refine .peek ?_
  rw [Token.terminal?_symbol.mp hm]
  refine .advance he hm (.peek ?_)
  rw [Token.terminal?_number.mp ht]
  exact .advance he' ht (.refl he'' hw)

theorem primary_word {inner : Option Level} {name : String} (he : Ended ts)
    (hw : terminals ts = .word name :: w) :
    ∃ t, t.text = name ∧ Leads (primary fuel inner) ts (named fuel inner t) w := by
  obtain ⟨t, rest, rfl, hx, he', hw'⟩ := he.of_terminals hw
  obtain ⟨hl, ht⟩ := Token.terminal?_word.mp hx
  refine ⟨t, ht, .peek ?_⟩
  rw [hl]
  exact .advance he hx (.refl he' hw')

theorem primary_datePart {d : DatePart} (he : Ended ts)
    (hw : terminals ts = .word d.name :: .symbol .openParen :: w) :
    ∃ name, Leads (primary fuel (level fuel (room + 1))) ts (do
      let arg ← operand fuel (level fuel room)
      expectSymbol .closeParen
      if arg.type ≠ .date then failAt (Token.pos name) (.dateWanted d)
      else return .datePart d arg) w := by
  obtain ⟨t, ht, hlead⟩ := primary_word he hw
  refine ⟨t, hlead.trans fun rest he hw => ?_⟩
  unfold named
  rw [ht, if_neg (DatePart.name_ne d).1, if_neg (DatePart.name_ne d).2, DatePart.ofName?_name]
  exact (Runs.expectSymbol he hw).leads _

theorem primary_pattern {inner : Option Level} {body flags : String}
    (he : Ended ts) (hw : terminals ts = .pattern body flags :: w) :
    ∃ t, Leads (primary fuel inner) ts (compiled t body flags >>= patternTest fuel inner) w := by
  obtain ⟨t, rest, rfl, hx, he', hw'⟩ := he.of_terminals hw
  refine ⟨t, .peek ?_⟩
  rw [Token.terminal?_pattern.mp hx]
  exact .advance he hx (.refl he' hw')

theorem newPattern_leads {inner : Option Level} {body : String}
    {flags : Option String} (he : Ended ts)
    (hw : terminals ts = .word "RegExp" ::
      (Phrase.inParens (.text body :: Phrase.flagsYield flags) ++ w)) :
    ∃ t, Leads (newPattern fuel inner) ts
      (compiled t body (flags.getD "") >>= patternTest fuel inner) w := by
  simp only [Phrase.inParens, List.cons_append, List.append_assoc, List.nil_append] at hw
  obtain ⟨name, hname, rest₁, hrun₁, he, hw⟩ := Runs.expectWord "'RegExp'" he hw
  obtain ⟨rest₂, hrun₂, he, hw⟩ := Runs.expectSymbol he hw
  obtain ⟨t, rest₃, hrun₃, he, hw⟩ := Runs.expectText "a pattern string" he hw
  have hclose (flags : String) (ts : List Token) (he : Ended ts)
      (hw : terminals ts = .symbol .closeParen :: w) : Leads (do
        expectSymbol .closeParen
        patternTest fuel inner (← compiled t body flags)) ts
      (compiled t body flags >>= patternTest fuel inner) w :=
    (Runs.expectSymbol he hw).leads _
  unfold newPattern
  refine ⟨t, .of_run (run_bind_ok hrun₁) ?_⟩
  simp only [hname, ne_eq, not_true_eq_false, ↓reduceIte]
  refine .of_run ((run_bind_ok hrun₂).trans (run_bind_ok hrun₃)) ?_
  cases flags with
  | none =>
    exact .other he (by simp [hw, Phrase.flagsYield]) fun _ => hclose _ _ he hw
  | some flags =>
    refine (Leads.symbol he hw).trans fun rest he hw => ?_
    obtain ⟨u, hu⟩ := Runs.expectText "a flags string" he hw
    exact (hu.leads _).trans fun rest he hw => hclose _ _ he hw

theorem primary_newPattern {inner : Option Level} {body : String}
    {flags : Option String} (he : Ended ts)
    (hw : terminals ts = .word "new" :: .word "RegExp" ::
      (Phrase.inParens (.text body :: Phrase.flagsYield flags) ++ w)) :
    ∃ t, Leads (primary fuel inner) ts
      (compiled t body (flags.getD "") >>= patternTest fuel inner) w := by
  obtain ⟨name, hname, hlead⟩ := primary_word he hw
  obtain ⟨rest, hrun, he, hw⟩ := hlead
  obtain ⟨t, hnew⟩ := newPattern_leads he hw
  refine ⟨t, .of_run hrun ?_⟩
  unfold named
  rwa [if_neg (by rw [hname]; decide), if_pos hname]

end

end

section
variable [Pattern.Engine]

def Phrase.Read (fuel : Nat) {c : Construct} : {s : Shape} → Phrase c s → Prop
  | .whole, p => ∀ {room : Nat} {ts : List Token} {w : List Terminal} {e : Expr},
    p.depth ≤ room → p.build Decimal.negated? = some e → Ended ts → terminals ts = p.yield ++ w →
    Stops c w → p.yield.length ≤ fuel → Runs (c.reader fuel (level fuel room)) ts e w
  | .more, m => ∀ {room : Nat} {ts : List Token} {w : List Terminal} {k : Nat} {left e : Expr},
    m.depth ≤ room → m.build Decimal.negated? left = some e → Ended ts →
    terminals ts = m.yield ++ w → Stops c.piece w → m.yield.length ≤ fuel → m.yield.length ≤ k →
    ∃ k', k ≤ k' + m.yield.length ∧
      Leads (c.follow fuel (level fuel room) k left) ts (c.follow fuel (level fuel room) k' e) w

theorem Construct.follow_runs {fuel k : Nat} {inner : Option Level}
    {c : Construct} {e : Expr} {ts : List Token} {w : List Terminal} (he : Ended ts)
    (hw : terminals ts = w) (hs : Stops c w) : Runs (c.follow fuel inner k e) ts e w := by
  have hother {s : Symbol} (h : c.goesOn s = true) : (terminals ts).head? ≠ some (.symbol s) :=
    fun hj => by simp [hs s (hw ▸ hj)] at h
  cases c with
  | run kind =>
    cases k with
    | zero => exact .pure he hw
    | succ k => exact .symbol_other he (hother (by cases kind <;> rfl)) fun t => .pure he hw
  | operand =>
    cases k with
    | zero => exact .pure he hw
    | succ k => exact .symbol_other he (hother rfl) fun t => .pure he hw
  | comparison => exact .pure he hw
  | primary => exact .pure he hw

namespace Phrase
variable {fuel : Nat}

theorem arrives {c : Construct} {first : Phrase c.piece .whole}
    {more : Phrase c .more} (hfirst : first.Read fuel) (hmore : more.Read fuel) {room : Nat}
    {ts : List Token} {w : List Terminal} {e₁ e : Expr} (hd : max first.depth more.depth ≤ room)
    (hb₁ : first.build Decimal.negated? = some e₁) (hb₂ : more.build Decimal.negated? e₁ = some e)
    (he : Ended ts) (hw : terminals ts = first.yield ++ (more.yield ++ w))
    (hs : Stops c.piece (more.yield ++ w)) (hs' : Stops c.piece w)
    (hf : first.yield.length + more.yield.length ≤ fuel) :
    ∃ k, fuel ≤ k + more.yield.length ∧
      Leads (c.piece.reader fuel (level fuel room) >>= c.follow fuel (level fuel room) fuel) ts
        (c.follow fuel (level fuel room) k e) w := by
  rw [Nat.max_le] at hd
  obtain ⟨rest, hrun, he, hw⟩ := (hfirst hd.1 hb₁ he hw hs (by omega)).leads
    (c.follow fuel (level fuel room) fuel)
  obtain ⟨k, hk, hmore⟩ := hmore (k := fuel) hd.2 hb₂ he hw hs' (by omega) (by omega)
  exact ⟨k, hk, .of_run hrun hmore⟩

theorem read_run {kind : Join} {first : Phrase (Construct.part kind) .whole}
    {more : Phrase (.run kind) .more} (hfirst : first.Read fuel) (hmore : more.Read fuel) :
    (run first more).Read fuel := by
  intro room ts w e hd hb he hw hs hf
  rw [yield, List.append_assoc] at hw
  rw [yield, List.length_append] at hf
  obtain ⟨e₁, hb₁, hb₂⟩ := build_run.mp hb
  obtain ⟨k, -, hlead⟩ := arrives hfirst hmore hd hb₁ hb₂ he hw (hs.part.more more) hs.part hf
  rw [Construct.reader_run]
  exact hlead.runs fun rest he hw => Construct.follow_runs he hw hs

theorem read_noPart {kind : Join} :
    (noPart : Phrase (.run kind) .more).Read fuel := by
  intro room ts w k left e hd hb he hw hs hf hk
  obtain rfl := Option.some.inj hb
  exact ⟨k, Nat.le_add_right _ _, .refl he hw⟩

theorem read_part {kind : Join} {next : Phrase (Construct.part kind) .whole}
    {more : Phrase (.run kind) .more} (hnext : next.Read fuel) (hmore : more.Read fuel) :
    (part kind next more).Read fuel := by
  intro room ts w k left e hd hb he hw hs hf hk
  rw [depth, Nat.max_le] at hd
  rw [yield, List.cons_append, List.append_assoc] at hw
  rw [yield, List.length_cons, List.length_append] at hf hk ⊢
  obtain ⟨e₁, hb₁, hb₂⟩ := build_part.mp hb
  obtain ⟨k, rfl⟩ := Nat.exists_eq_succ_of_ne_zero (by omega : k ≠ 0)
  have hnext : Leads ((Construct.run kind).follow fuel (level fuel room) (k + 1) left) ts
      ((Construct.run kind).follow fuel (level fuel room) k (.join kind left e₁))
      (more.yield ++ w) :=
    (Leads.symbol he hw).trans fun rest he hw =>
      (hnext hd.1 hb₁ he hw (hs.more more) (by omega)).leads _
  obtain ⟨rest, hrun, he, hw⟩ := hnext
  obtain ⟨k', hk', hmore⟩ := hmore (k := k) hd.2 hb₂ he hw hs (by omega) (by omega)
  exact ⟨k', by omega, .of_run hrun hmore⟩

theorem read_alone {o : Phrase .operand .whole} (ho : o.Read fuel) : (alone o).Read fuel := by
  intro room ts w e hd hb he hw hs hf
  refine (ho hd hb he hw hs.operand hf).bind fun rest he hw => ?_
  obtain ⟨t, rest, rfl⟩ := he.exists_cons
  refine .peek ?_
  split
  next op hl =>
    have hg := hs (.compare op) (hw ▸ he.head?_symbol.mpr hl)
    simp [Construct.goesOn] at hg
  next => exact .pure he hw

theorem read_compare {op : CompareOp} {left right : Phrase .operand .whole}
    (hleft : left.Read fuel) (hright : right.Read fuel) : (compare op left right).Read fuel := by
  intro room ts w e hd hb he hw hs hf
  rw [depth, Nat.max_le] at hd
  rw [yield, List.append_assoc, List.cons_append] at hw
  rw [yield, List.length_append, List.length_cons] at hf
  obtain ⟨l, r, hl, hr, hop, rfl⟩ := build_compare.mp hb
  refine (hleft hd.1 hl he hw (Stops.compare op _) (by omega)).bind fun rest he hw => ?_
  obtain ⟨t, rest, rfl, hx, he', hw'⟩ := he.of_terminals hw
  refine .peek ?_
  rw [Token.terminal?_symbol.mp hx]
  refine .advance he hx ?_
  refine (hright hd.2 hr he' hw' hs.operand (by omega)).bind fun rest he hw => ?_
  exact .blame he hw (makeComparison_eq_ok.mpr ⟨hop, rfl⟩)

theorem read_called {p : Phrase .primary .whole} {calls : Phrase .operand .more}
    (hp : p.Read fuel) (hcalls : calls.Read fuel) : (called p calls).Read fuel := by
  intro room ts w e hd hb he hw hs hf
  rw [yield, List.append_assoc] at hw
  rw [yield, List.length_append] at hf
  obtain ⟨e₁, hb₁, hb₂⟩ := build_called.mp hb
  obtain ⟨k, -, hlead⟩ := arrives hp hcalls hd hb₁ hb₂ he hw (fun _ _ => rfl) (fun _ _ => rfl) hf
  rw [Construct.reader_operand]
  exact hlead.runs fun rest he hw => Construct.follow_runs he hw hs

theorem read_noCall : noCall.Read fuel := by
  intro room ts w k left e hd hb he hw hs hf hk
  obtain rfl := Option.some.inj hb
  exact ⟨k, Nat.le_add_right _ _, .refl he hw⟩

theorem read_includes {needle : Phrase .operand .whole}
    {calls : Phrase .operand .more} (hneedle : needle.Read fuel) (hcalls : calls.Read fuel) :
    (includes needle calls).Read fuel := by
  intro room ts w k left e hd hb he hw hs hf hk
  rw [depth, Nat.max_le] at hd
  simp only [yield, List.cons_append, List.append_assoc] at hw
  simp only [yield, inParens, List.length_cons, List.length_append, List.length_nil] at hf hk ⊢
  obtain ⟨n, hn, ⟨hl, hnt⟩, hb⟩ := build_includes.mp hb
  obtain ⟨k, rfl⟩ := Nat.exists_eq_succ_of_ne_zero (by omega : k ≠ 0)
  obtain ⟨room, rfl⟩ := Nat.exists_eq_succ_of_ne_zero (by omega : room ≠ 0)
  have hcall : Leads (methodsFrom fuel (level fuel (room + 1)) (k + 1) left) ts
      (methodsFrom fuel (level fuel (room + 1)) k (.includes left n)) (calls.yield ++ w) := by
    refine (Leads.symbol he hw).trans fun rest he hw => ?_
    obtain ⟨name, hname, hword⟩ := Runs.expectWord "a method name" he hw
    refine (hword.leads _).trans fun rest he hw => ?_
    refine (method_includes he hw (by omega) hname hl hnt fun ts he hw => ?_).leads _
    exact hneedle (by omega) hn he hw (Stops.closeParen _ _) (by omega)
  obtain ⟨rest, hrun, he, hw⟩ := hcall
  obtain ⟨k', hk', hcalls⟩ := hcalls (k := k) hd.2 hb he hw hs (by omega) (by omega)
  exact ⟨k', by omega, .of_run hrun hcalls⟩

theorem read_changeCase {upper : Bool} {calls : Phrase .operand .more}
    (hcalls : calls.Read fuel) : (changeCase upper calls).Read fuel := by
  intro room ts w k left e hd hb he hw hs hf hk
  simp only [yield, List.cons_append, List.append_assoc] at hw
  simp only [yield, inParens, List.length_cons, List.length_append, List.length_nil] at hf hk ⊢
  obtain ⟨hl, hb⟩ := build_changeCase.mp hb
  obtain ⟨k, rfl⟩ := Nat.exists_eq_succ_of_ne_zero (by omega : k ≠ 0)
  have hcall : Leads (methodsFrom fuel (level fuel room) (k + 1) left) ts
      (methodsFrom fuel (level fuel room) k (.changeCase upper left)) (calls.yield ++ w) := by
    refine (Leads.symbol he hw).trans fun rest he hw => ?_
    obtain ⟨name, hname, hword⟩ := Runs.expectWord "a method name" he hw
    exact (hword.leads _).trans fun rest he hw => (method_changeCase he hw hname hl).leads _
  obtain ⟨rest, hrun, he, hw⟩ := hcall
  obtain ⟨k', hk', hcalls⟩ := hcalls (k := k) hd hb he hw hs (by omega) (by omega)
  exact ⟨k', by omega, .of_run hrun hcalls⟩

theorem read_group {inner : Phrase (.run .any) .whole}
    (hinner : inner.Read fuel) : (group inner).Read fuel := by
  intro room ts w e hd hb he hw hs hf
  rw [depth] at hd
  simp only [yield, inParens, List.cons_append, List.append_assoc, List.nil_append] at hw
  simp only [yield, inParens, List.length_cons, List.length_append, List.length_nil] at hf
  obtain ⟨room, rfl⟩ := Nat.exists_eq_succ_of_ne_zero (by omega : room ≠ 0)
  refine (primary_group he hw).runs fun rest he hw => ?_
  refine (hinner (by omega) hb he hw (Stops.closeParen _ _) (by omega)).bind fun rest he hw => ?_
  refine (Runs.expectSymbol he hw).bind fun rest he hw => ?_
  exact .pure he hw

theorem read_text {value : String} : (text value).Read fuel := by
  intro room ts w e hd hb he hw hs hf
  obtain rfl := Option.some.inj hb
  obtain ⟨t, rest, rfl, hx, he', hw'⟩ := he.of_terminals hw
  refine .peek ?_
  rw [Token.terminal?_text.mp hx]
  exact .advance he hx (.pure he' hw')

theorem read_number {value : Decimal} : (number value).Read fuel := by
  intro room ts w e hd hb he hw hs hf
  obtain rfl := Option.some.inj hb
  obtain ⟨t, rest, rfl, hx, he', hw'⟩ := he.of_terminals hw
  refine .peek ?_
  rw [Token.terminal?_number.mp hx]
  exact .advance he hx (.pure he' hw')

theorem read_negative {value : Decimal} : (negative value).Read fuel := by
  intro room ts w e hd hb he hw hs hf
  obtain ⟨n, hn, rfl⟩ := build_negative.mp hb
  refine (primary_negative he hw).runs fun rest he hw => ?_
  rw [hn]
  exact .pure he hw

theorem read_field {f : Field} : (field f).Read fuel := by
  intro room ts w e hd hb he hw hs hf
  obtain rfl := Option.some.inj hb
  obtain ⟨t, ht, hlead⟩ := primary_word he hw
  refine hlead.runs fun rest he hw => ?_
  unfold named
  rw [if_pos ht]
  refine (Runs.expectSymbol he hw).bind fun rest he hw => ?_
  obtain ⟨name, hname, hword⟩ := Runs.expectWord "a transaction field" he hw
  refine hword.bind fun rest he hw => ?_
  rw [hname, Field.ofName?_name]
  exact .pure he hw

theorem read_datePart {d : DatePart} {argument : Phrase .operand .whole}
    (hargument : argument.Read fuel) : (datePart d argument).Read fuel := by
  intro room ts w e hd hb he hw hs hf
  rw [depth] at hd
  simp only [yield, inParens, List.cons_append, List.append_assoc, List.nil_append] at hw
  simp only [yield, inParens, List.length_cons, List.length_append, List.length_nil] at hf
  obtain ⟨a, ha, hat, rfl⟩ := build_datePart.mp hb
  obtain ⟨room, rfl⟩ := Nat.exists_eq_succ_of_ne_zero (by omega : room ≠ 0)
  obtain ⟨name, hlead⟩ := primary_datePart he hw
  refine hlead.runs fun rest he hw => ?_
  refine (hargument (by omega) ha he hw (Stops.closeParen _ _) (by omega)).bind
    fun rest he hw => ?_
  refine (Runs.expectSymbol he hw).bind fun rest he hw => ?_
  rw [if_neg (by simp [hat])]
  exact .pure he hw

theorem read_pattern {body flags : String} {target : Phrase .operand .whole}
    (htarget : target.Read fuel) : (pattern body flags target).Read fuel := by
  intro room ts w e hd hb he hw hs hf
  rw [depth] at hd
  simp only [yield, List.cons_append] at hw
  simp only [yield, testOf, inParens, List.length_cons, List.length_append, List.length_nil] at hf
  obtain ⟨a, p, ha, hc, hat, rfl⟩ := build_pattern.mp hb
  obtain ⟨room, rfl⟩ := Nat.exists_eq_succ_of_ne_zero (by omega : room ≠ 0)
  obtain ⟨t, hlead⟩ := primary_pattern he hw
  refine hlead.runs fun rest he hw => search_runs he hw (by omega) hc hat fun ts he hw => ?_
  exact htarget (by omega) ha he hw (Stops.closeParen _ _) (by omega)

theorem read_newPattern {body : String} {flags : Option String}
    {target : Phrase .operand .whole} (htarget : target.Read fuel) :
    (newPattern body flags target).Read fuel := by
  intro room ts w e hd hb he hw hs hf
  rw [depth] at hd
  simp only [yield, List.cons_append, List.append_assoc] at hw
  simp only [yield, testOf, inParens, List.length_cons, List.length_append, List.length_nil] at hf
  obtain ⟨a, p, ha, hc, hat, rfl⟩ := build_newPattern.mp hb
  obtain ⟨room, rfl⟩ := Nat.exists_eq_succ_of_ne_zero (by omega : room ≠ 0)
  obtain ⟨t, hlead⟩ := primary_newPattern he hw
  refine hlead.runs fun rest he hw => search_runs he hw (by omega) hc hat fun ts he hw => ?_
  exact htarget (by omega) ha he hw (Stops.closeParen _ _) (by omega)

theorem read (fuel : Nat) {c : Construct} {s : Shape} (p : Phrase c s) : p.Read fuel := by
  induction p with
  | run first more ihf ihm => exact read_run ihf ihm
  | noPart => exact read_noPart
  | part kind next more ihn ihm => exact read_part ihn ihm
  | alone o ih => exact read_alone ih
  | compare op left right ihl ihr => exact read_compare ihl ihr
  | called p calls ihp ihc => exact read_called ihp ihc
  | noCall => exact read_noCall
  | includes needle calls ihn ihc => exact read_includes ihn ihc
  | changeCase upper calls ih => exact read_changeCase ih
  | group inner ih => exact read_group ih
  | text value => exact read_text
  | number value => exact read_number
  | negative value => exact read_negative
  | field f => exact read_field
  | datePart d argument ih => exact read_datePart ih
  | pattern body flags target ih => exact read_pattern ih
  | newPattern body flags target ih => exact read_newPattern ih

end Phrase

end

theorem Runs.expectEnd {ts : List Token} (he : Ended ts) (hw : terminals ts = []) :
    Runs expectEnd ts () [] := by
  obtain ⟨t, rest, rfl⟩ := he.exists_cons
  refine .peek ?_
  rcases he.cases with ⟨hl, -, -⟩ | ⟨x, -, -, hx⟩
  · rw [if_pos hl]
    exact .pure he hw
  · simp [hx] at hw

end LedgerRules.Condition
