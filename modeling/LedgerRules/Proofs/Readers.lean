import LedgerRules.Proofs.Grammar

/-! Rules for readers of tokens. `Gives` says of a reader that may fail what it has taken away when
it succeeds; `Runs` says that it succeeds. Both have one rule for each step that the readers are made
of. -/

namespace LedgerRules.Condition
open Numeric

def Token.terminal? (t : Token) : Option Terminal :=
  match t.lexeme with
  | .text value => some (.text value)
  | .number value => some (.number value)
  | .pattern body flags => some (.pattern body flags)
  | .word => some (.word t.text)
  | .symbol s => some (.symbol s)
  | .finish => none

def terminals (ts : List Token) : List Terminal := ts.filterMap Token.terminal?

inductive Ended : List Token → Prop
  | finish {t : Token} : t.lexeme = .finish → Ended [t]
  | cons {t : Token} {ts : List Token} : t.lexeme ≠ .finish → Ended ts → Ended (t :: ts)

def minusNumbers : List Terminal → List Decimal
  | .symbol .minus :: .number d :: w => d :: minusNumbers w
  | _ :: w => minusNumbers w
  | [] => []

theorem mem_minusNumbers_cons {x : Terminal} {w : List Terminal} {d : Decimal}
    (h : d ∈ minusNumbers w) : d ∈ minusNumbers (x :: w) := by
  unfold minusNumbers
  split
  · rename_i heq
    obtain ⟨-, rfl⟩ := List.cons.inj heq
    rw [minusNumbers] at h
    · exact List.mem_cons_of_mem _ h
    · simp
  · rename_i heq
    obtain ⟨-, rfl⟩ := List.cons.inj heq
    exact h
  · simp_all

theorem mem_minusNumbers_append {v w : List Terminal} {d : Decimal} (h : d ∈ minusNumbers w) :
    d ∈ minusNumbers (v ++ w) := by
  induction v with
  | nil => exact h
  | cons x v ih => exact mem_minusNumbers_cons ih

theorem Token.terminal?_eq_none {t : Token} : t.terminal? = none ↔ t.lexeme = .finish := by
  unfold Token.terminal?
  split <;> simp_all

theorem Token.terminal?_symbol {t : Token} {s : Symbol} :
    t.terminal? = some (.symbol s) ↔ t.lexeme = .symbol s := by
  unfold Token.terminal?
  split <;> simp_all

theorem Token.terminal?_word {t : Token} {name : String} :
    t.terminal? = some (.word name) ↔ t.lexeme = .word ∧ t.text = name := by
  unfold Token.terminal?
  split <;> simp_all

theorem Token.terminal?_text {t : Token} {value : String} :
    t.terminal? = some (.text value) ↔ t.lexeme = .text value := by
  unfold Token.terminal?
  split <;> simp_all

theorem Token.terminal?_number {t : Token} {d : Decimal} :
    t.terminal? = some (.number d) ↔ t.lexeme = .number d := by
  unfold Token.terminal?
  split <;> simp_all

theorem Token.terminal?_pattern {t : Token} {body flags : String} :
    t.terminal? = some (.pattern body flags) ↔ t.lexeme = .pattern body flags := by
  unfold Token.terminal?
  split <;> simp_all

theorem Token.isSymbol_iff {t : Token} {s : Symbol} :
    t.isSymbol s = true ↔ t.lexeme = .symbol s := by
  simp [Token.isSymbol]

theorem terminals_cons {t : Token} {x : Terminal} (h : t.terminal? = some x) (ts : List Token) :
    terminals (t :: ts) = x :: terminals ts := by
  simp [terminals, h]

theorem Ended.exists_cons {ts : List Token} (h : Ended ts) : ∃ t rest, ts = t :: rest := by
  cases h with
  | finish _ => exact ⟨_, _, rfl⟩
  | cons _ _ => exact ⟨_, _, rfl⟩

theorem Ended.tail {t : Token} {ts : List Token} (h : Ended (t :: ts)) (ht : t.lexeme ≠ .finish) :
    Ended ts := by
  cases h with
  | finish h => exact absurd h ht
  | cons _ h => exact h

theorem Ended.cases {t : Token} {ts : List Token} (h : Ended (t :: ts)) :
    (t.lexeme = .finish ∧ ts = [] ∧ terminals (t :: ts) = []) ∨
      ∃ x, t.terminal? = some x ∧ Ended ts ∧ terminals (t :: ts) = x :: terminals ts := by
  cases h with
  | finish h => exact .inl ⟨h, rfl, by simp [terminals, Token.terminal?_eq_none.mpr h]⟩
  | cons ht h =>
    have hx := mt Token.terminal?_eq_none.mp ht
    obtain ⟨x, hx⟩ := Option.ne_none_iff_exists'.mp hx
    exact .inr ⟨x, hx, h, terminals_cons hx ts⟩

theorem Ended.of_terminals {ts : List Token} {x : Terminal} {w : List Terminal} (h : Ended ts)
    (hw : terminals ts = x :: w) :
    ∃ t rest, ts = t :: rest ∧ t.terminal? = some x ∧ Ended rest ∧ terminals rest = w := by
  obtain ⟨t, rest, rfl⟩ := h.exists_cons
  rcases h.cases with ⟨-, -, hn⟩ | ⟨y, hy, hr, hyw⟩
  · rw [hn] at hw
    exact absurd hw (by simp)
  · rw [hyw] at hw
    obtain ⟨rfl, rfl⟩ := List.cons.inj hw
    exact ⟨t, rest, rfl, hy, hr, rfl⟩

theorem Ended.head?_symbol {t : Token} {ts : List Token} (h : Ended (t :: ts)) {s : Symbol} :
    (terminals (t :: ts)).head? = some (.symbol s) ↔ t.lexeme = .symbol s := by
  rcases h.cases with ⟨hf, -, hn⟩ | ⟨x, hx, -, hw⟩
  · simp [hn, hf]
  · rw [hw, List.head?_cons, ← hx, Token.terminal?_symbol]

theorem length_terminals_le (ts : List Token) : (terminals ts).length ≤ ts.length :=
  List.length_filterMap_le _ _

section
variable {σ ε α β : Type} {s : σ}

theorem run_bind_ok {r : StateT σ (Except ε) α} {k : α → StateT σ (Except ε) β} {a : α} {s' : σ}
    (h : r.run s = .ok (a, s')) : (r >>= k).run s = (k a).run s' := by
  rw [StateT.run_bind, h]
  rfl

theorem run_bind_error {r : StateT σ (Except ε) α} {k : α → StateT σ (Except ε) β} {e : ε}
    (h : r.run s = .error e) : (r >>= k).run s = .error e := by
  rw [StateT.run_bind, h]
  rfl

end

section
variable {α β : Type} {ts : List Token}

theorem run_peek (t : Token) : peek.run (t :: ts) = .ok (t, t :: ts) := rfl

theorem run_advance {t : Token} {x : Terminal} (he : Ended (t :: ts))
    (hx : t.terminal? = some x) : advance.run (t :: ts) = .ok ((), ts) := by
  have hf : t.lexeme ≠ .finish := fun h => by simp [Token.terminal?_eq_none.mpr h] at hx
  obtain ⟨u, rest, rfl⟩ := (he.tail hf).exists_cons
  rfl

/-- A reader that succeeds on the tokens has taken away some that, with its result, satisfy `Q`. -/
def Gives (r : Reader α) (ts : List Token) (Q : α → List Terminal → Prop) : Prop :=
  ∀ a rest, r.run ts = .ok (a, rest) →
    Ended rest ∧ ∃ w, terminals ts = w ++ terminals rest ∧ Q a w

theorem Gives.of_error {r : Reader α} {f : Failure} {Q : α → List Terminal → Prop}
    (h : r.run ts = .error f) : Gives r ts Q :=
  fun _ _ hr => nomatch h.symm.trans hr

theorem Gives.mono {r : Reader α} {Q R : α → List Terminal → Prop} (h : Gives r ts Q)
    (hR : ∀ a w, Q a w → R a w) : Gives r ts R := by
  intro a rest hr
  obtain ⟨he, w, hw, hq⟩ := h a rest hr
  exact ⟨he, w, hw, hR _ _ hq⟩

theorem Gives.bind_split {r : Reader α} {k : α → Reader β} {Q : α → List Terminal → Prop}
    {R : β → List Terminal → Prop} (h : Gives r ts Q)
    (hk : ∀ a w rest, Ended rest → terminals ts = w ++ terminals rest → Q a w →
      Gives (k a) rest fun b v => R b (w ++ v)) : Gives (r >>= k) ts R := by
  cases hr : r.run ts with
  | error f => exact .of_error (run_bind_error hr)
  | ok p =>
    obtain ⟨he, w, hw, hq⟩ := h p.1 p.2 hr
    intro b rest hb
    rw [run_bind_ok hr] at hb
    obtain ⟨he', v, hv, hR⟩ := hk p.1 w p.2 he hw hq b rest hb
    exact ⟨he', w ++ v, by rw [hw, hv, List.append_assoc], hR⟩

theorem Gives.bind {r : Reader α} {k : α → Reader β} {Q : α → List Terminal → Prop}
    {R : β → List Terminal → Prop} (h : Gives r ts Q)
    (hk : ∀ a w rest, Ended rest → Q a w → Gives (k a) rest fun b v => R b (w ++ v)) :
    Gives (r >>= k) ts R :=
  h.bind_split fun a w rest he _ hq => hk a w rest he hq

theorem Gives.pure {a : α} {Q : α → List Terminal → Prop} (he : Ended ts) (h : Q a []) :
    Gives (Pure.pure a) ts Q := by
  intro b rest hb
  obtain ⟨rfl, rfl⟩ := Prod.mk.inj (Except.ok.inj hb)
  exact ⟨he, [], rfl, h⟩

theorem Gives.failAt {pos : Nat} {cause : Cause} {Q : α → List Terminal → Prop} :
    Gives (failAt pos cause) ts Q :=
  .of_error rfl

theorem Gives.failAt_bind {pos : Nat} {cause : Cause} {k : α → Reader β}
    {Q : β → List Terminal → Prop} : Gives (Condition.failAt pos cause >>= k) ts Q :=
  .of_error rfl

theorem Gives.blame {t : Token} {x : Except Cause α} {Q : α → List Terminal → Prop}
    (he : Ended ts) (h : ∀ a, x = .ok a → Q a []) : Gives (blame t x) ts Q := by
  cases x with
  | ok a => exact .pure he (h a rfl)
  | error cause => exact .failAt

theorem Gives.compiled [Pattern.Engine] (t : Token) (body flags : String) (he : Ended ts) :
    Gives (compiled t body flags) ts fun pattern w =>
      w = [] ∧ compilePattern body flags = .ok pattern := by
  unfold Condition.compiled
  cases compilePattern body flags with
  | ok pattern => exact .pure he ⟨rfl, rfl⟩
  | error f => exact .of_error rfl

theorem Gives.peek {k : Token → Reader β} {Q : β → List Terminal → Prop} (he : Ended ts)
    (hk : ∀ t rest, ts = t :: rest → Gives (k t) ts Q) : Gives (peek >>= k) ts Q := by
  obtain ⟨t, rest, rfl⟩ := he.exists_cons
  exact hk t rest rfl

theorem Gives.advance {t : Token} {x : Terminal} {k : Unit → Reader β}
    {Q : β → List Terminal → Prop} (he : Ended (t :: ts)) (hx : t.terminal? = some x)
    (hk : Ended ts → Gives (k ()) ts fun b w => Q b (x :: w)) :
    Gives (advance >>= k) (t :: ts) Q := by
  have hf : t.lexeme ≠ .finish := fun h => by simp [Token.terminal?_eq_none.mpr h] at hx
  intro b rest hb
  rw [run_bind_ok (run_advance he hx)] at hb
  obtain ⟨he', v, hv, hR⟩ := hk (he.tail hf) b rest hb
  exact ⟨he', x :: v, by rw [terminals_cons hx, hv]; rfl, hR⟩

theorem Gives.expectSymbol (he : Ended ts) (s : Symbol) :
    Gives (expectSymbol s) ts fun _ w => w = [.symbol s] := by
  refine .peek he fun t rest hts => ?_
  subst hts
  split
  next hs =>
    rw [← bind_pure Condition.advance]
    have hx := Token.terminal?_symbol.mpr (Token.isSymbol_iff.mp hs)
    exact .advance he hx fun he' => .pure he' rfl
  next => exact .failAt

theorem Gives.expectWord (he : Ended ts) (what : String) :
    Gives (expectWord what) ts fun t w => w = [.word t.text] := by
  refine .peek he fun t rest hts => ?_
  subst hts
  split
  next hl => exact .advance he (Token.terminal?_word.mpr ⟨hl, rfl⟩) fun he' => .pure he' rfl
  next => exact .failAt

theorem Gives.expectText (he : Ended ts) (what : String) :
    Gives (expectText what) ts fun p w => w = [.text p.2] := by
  refine .peek he fun t rest hts => ?_
  subst hts
  split
  next value hl =>
    exact .advance he (Token.terminal?_text.mpr hl) fun he' => .pure he' rfl
  next => exact .failAt

end

section
variable {α β : Type} {ts : List Token} {w v : List Terminal}

def Runs (r : Reader α) (ts : List Token) (a : α) (w : List Terminal) : Prop :=
  ∃ rest, r.run ts = .ok (a, rest) ∧ Ended rest ∧ terminals rest = w

theorem Runs.bind {r : Reader α} {k : α → Reader β} {a : α} {b : β} (h : Runs r ts a w)
    (hk : ∀ rest, Ended rest → terminals rest = w → Runs (k a) rest b v) :
    Runs (r >>= k) ts b v := by
  obtain ⟨rest, hr, he, hw⟩ := h
  obtain ⟨rest', hr', h'⟩ := hk rest he hw
  exact ⟨rest', by rw [run_bind_ok hr, hr'], h'⟩

/-- The reader goes on as the other one does, on tokens that stand for `w`. -/
def Leads (r : Reader α) (ts : List Token) (r' : Reader α) (w : List Terminal) : Prop :=
  ∃ rest, r.run ts = r'.run rest ∧ Ended rest ∧ terminals rest = w

theorem Leads.refl {r : Reader α} (he : Ended ts) (hw : terminals ts = w) : Leads r ts r w :=
  ⟨ts, rfl, he, hw⟩

theorem Leads.of_run {r r' r'' : Reader α} {rest : List Token} (hr : r.run ts = r'.run rest)
    (h : Leads r' rest r'' w) : Leads r ts r'' w := by
  obtain ⟨rest', hr', h⟩ := h
  exact ⟨rest', hr.trans hr', h⟩

theorem Leads.trans {r r' r'' : Reader α} (h : Leads r ts r' w)
    (h' : ∀ rest, Ended rest → terminals rest = w → Leads r' rest r'' v) : Leads r ts r'' v := by
  obtain ⟨rest, hr, he, hw⟩ := h
  exact .of_run hr (h' rest he hw)

theorem Leads.runs {r r' : Reader α} {a : α} (h : Leads r ts r' w)
    (h' : ∀ rest, Ended rest → terminals rest = w → Runs r' rest a v) : Runs r ts a v := by
  obtain ⟨rest, hr, he, hw⟩ := h
  obtain ⟨rest', hr', h⟩ := h' rest he hw
  exact ⟨rest', hr.trans hr', h⟩

theorem Runs.leads {r : Reader α} {a : α} (h : Runs r ts a w) (k : α → Reader β) :
    Leads (r >>= k) ts (k a) w := by
  obtain ⟨rest, hr, h⟩ := h
  exact ⟨rest, run_bind_ok hr, h⟩

theorem Leads.peek {t : Token} {k : Token → Reader α} {r : Reader α}
    (h : Leads (k t) (t :: ts) r w) : Leads (peek >>= k) (t :: ts) r w :=
  h

theorem Leads.advance {t : Token} {x : Terminal} {k : Unit → Reader α} {r : Reader α}
    (he : Ended (t :: ts)) (hx : t.terminal? = some x) (h : Leads (k ()) ts r w) :
    Leads (advance >>= k) (t :: ts) r w :=
  .of_run (run_bind_ok (run_advance he hx)) h

theorem Leads.symbol {s : Symbol} {yes : Reader α} {no : Token → Reader α} (he : Ended ts)
    (hw : terminals ts = .symbol s :: w) :
    Leads (Condition.peek >>= fun t =>
      if t.isSymbol s then Condition.advance >>= fun _ => yes else no t) ts yes w := by
  obtain ⟨t, rest, rfl, hx, he', hw'⟩ := he.of_terminals hw
  refine ⟨rest, ?_, he', hw'⟩
  rw [run_bind_ok (run_peek t), if_pos (Token.isSymbol_iff.mpr (Token.terminal?_symbol.mp hx)),
    run_bind_ok (run_advance he hx)]

theorem Leads.other {s : Symbol} {yes r : Reader α} {no : Token → Reader α} (he : Ended ts)
    (hs : (terminals ts).head? ≠ some (.symbol s)) (h : ∀ t, Leads (no t) ts r w) :
    Leads (Condition.peek >>= fun t => if t.isSymbol s then yes else no t) ts r w := by
  obtain ⟨t, rest, rfl⟩ := he.exists_cons
  refine .peek ?_
  rw [if_neg fun ht => hs (he.head?_symbol.mpr (Token.isSymbol_iff.mp ht))]
  exact h t

theorem Runs.pure {a : α} (he : Ended ts) (hw : terminals ts = w) :
    Runs (Pure.pure a) ts a w :=
  ⟨ts, rfl, he, hw⟩

theorem Runs.peek {t : Token} {k : Token → Reader β} {b : β} (h : Runs (k t) (t :: ts) b v) :
    Runs (peek >>= k) (t :: ts) b v :=
  h

theorem Runs.advance {t : Token} {x : Terminal} {k : Unit → Reader β} {b : β}
    (he : Ended (t :: ts)) (hx : t.terminal? = some x) (h : Runs (k ()) ts b v) :
    Runs (advance >>= k) (t :: ts) b v := by
  obtain ⟨rest, hr, h'⟩ := h
  exact ⟨rest, by rw [run_bind_ok (run_advance he hx), hr], h'⟩

theorem Runs.blame {t : Token} {a : α} {x : Except Cause α} (he : Ended ts)
    (hw : terminals ts = w) (h : x = .ok a) : Runs (blame t x) ts a w := by
  subst h
  exact .pure he hw

theorem Runs.compiled [Pattern.Engine] {t : Token} {body flags : String} {pattern : Pattern}
    (he : Ended ts) (hw : terminals ts = w) (h : compilePattern body flags = .ok pattern) :
    Runs (compiled t body flags) ts pattern w := by
  unfold Condition.compiled
  rw [h]
  exact .pure he hw

theorem Runs.expectSymbol {s : Symbol} (he : Ended ts) (hw : terminals ts = .symbol s :: w) :
    Runs (expectSymbol s) ts () w := by
  obtain ⟨t, rest, rfl, hx, he', hw'⟩ := he.of_terminals hw
  refine .peek ?_
  rw [if_pos (Token.isSymbol_iff.mpr (Token.terminal?_symbol.mp hx)), ← bind_pure Condition.advance]
  exact .advance he hx (.pure he' hw')

theorem Runs.expectWord {name : String} (what : String) (he : Ended ts)
    (hw : terminals ts = .word name :: w) :
    ∃ t, t.text = name ∧ Runs (expectWord what) ts t w := by
  obtain ⟨t, rest, rfl, hx, he', hw'⟩ := he.of_terminals hw
  obtain ⟨hl, rfl⟩ := Token.terminal?_word.mp hx
  refine ⟨t, rfl, .peek ?_⟩
  rw [if_pos hl]
  exact .advance he hx (.pure he' hw')

theorem Runs.expectText {value : String} (what : String) (he : Ended ts)
    (hw : terminals ts = .text value :: w) :
    ∃ t, Runs (expectText what) ts (t, value) w := by
  obtain ⟨t, rest, rfl, hx, he', hw'⟩ := he.of_terminals hw
  refine ⟨t, .peek ?_⟩
  rw [Token.terminal?_text.mp hx]
  exact .advance he hx (.pure he' hw')

end

end LedgerRules.Condition
