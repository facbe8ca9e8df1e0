import Mathlib.Data.List.Forall2
import LedgerRules.Proofs.Scanning
import LedgerRules.Proofs.Readers

/-! The same tokens read twice. They may stand at other places the second time, and the readers may
have other numbers of steps to spend: if both suffice, every reader takes away the same tokens with
the same result, or fails for the same reason and blames the same token. There is one rule for each
step that readers are made of and one lemma for each reader; steps run out in the loops only, where
each round takes a token away. -/

namespace LedgerRules.Condition
open Numeric

structure Token.Twins (P : Nat → Nat → Prop) (t u : Token) : Prop where
  content : u.content = t.content
  pos : P t.pos u.pos

theorem Token.Twins.text {P : Nat → Nat → Prop} {t u : Token} (h : t.Twins P u) :
    u.text = t.text :=
  (Prod.mk.inj h.content).2

structure Paired (P : Nat → Nat → Prop) (n : Nat) (ts us : List Token) : Prop where
  ended : Ended ts
  twins : List.Forall₂ (Token.Twins P) ts us
  short : ts.length ≤ n

section
variable {α β γ δ : Type} {P : Nat → Nat → Prop} {m n : Nat} {ts us : List Token}

theorem Paired.mono (h : Paired P m ts us) (hn : m ≤ n) : Paired P n ts us :=
  ⟨h.ended, h.twins, h.short.trans hn⟩

theorem Paired.ne_zero (h : Paired P n ts us) : n ≠ 0 := by
  obtain ⟨t, rest, rfl⟩ := h.ended.exists_cons
  exact (Nat.lt_of_lt_of_le (Nat.zero_lt_succ _) h.short).ne'

theorem Paired.exists_succ (h : Paired P n ts us) (hn : n ≤ m) : ∃ k, m = k + 1 :=
  Nat.exists_eq_add_one.mpr (Nat.lt_of_lt_of_le (Nat.pos_of_ne_zero h.ne_zero) hn)

theorem Paired.cases (h : Paired P n ts us) : ∃ lexeme text pos pos' ts' us', P pos pos' ∧
    ts = ⟨lexeme, text, pos⟩ :: ts' ∧ us = ⟨lexeme, text, pos'⟩ :: us' := by
  obtain ⟨t, ts', rfl⟩ := h.ended.exists_cons
  obtain ⟨u, us', htwins, -, rfl⟩ := List.forall₂_cons_left_iff.mp h.twins
  obtain ⟨lexeme, text, pos'⟩ := u
  obtain ⟨hcontent, hplace⟩ := htwins
  obtain ⟨hlexeme, htext⟩ := Prod.mk.inj hcontent
  obtain rfl : lexeme = t.lexeme := hlexeme
  obtain rfl : text = t.text := htext
  exact ⟨t.lexeme, t.text, t.pos, pos', ts', us', hplace, rfl, rfl⟩

theorem Paired.tail {t u : Token} (h : Paired P n (t :: ts) (u :: us)) (ht : t.lexeme ≠ .finish) :
    ∃ m < n, Paired P m ts us := by
  have hlength : ts.length + 1 ≤ n := h.short
  exact ⟨ts.length, hlength, h.ended.tail ht, (List.forall₂_cons.mp h.twins).2, le_rfl⟩

/-- Two readings end alike: with related results and the same tokens left, or with one cause of a
fault at twin places, or with one breakdown. -/
inductive EndAlike (P : Nat → Nat → Prop) (n : Nat) (R : α → β → Prop) :
    Except Failure (α × List Token) → Except Failure (β × List Token) → Prop
  | ok {a : α} {b : β} {ts us : List Token} :
      R a b → Paired P n ts us → EndAlike P n R (.ok (a, ts)) (.ok (b, us))
  | fault (cause : Cause) {pos pos' : Nat} : P pos pos' → EndAlike P n R
      (.error (.fault ⟨cause, some pos⟩)) (.error (.fault ⟨cause, some pos'⟩))
  | breakdown (b : Breakdown) : EndAlike P n R (.error (.breakdown b)) (.error (.breakdown b))

theorem EndAlike.mono {R : α → β → Prop} {x : Except Failure (α × List Token)}
    {y : Except Failure (β × List Token)} (h : EndAlike P m R x y) (hn : m ≤ n) :
    EndAlike P n R x y := by
  cases h with
  | ok hab hp => exact .ok hab (hp.mono hn)
  | fault cause hpos => exact .fault cause hpos
  | breakdown b => exact .breakdown b

def Together (P : Nat → Nat → Prop) (n : Nat) (R : α → β → Prop) (r : Reader α) (r' : Reader β)
    (ts us : List Token) : Prop := EndAlike P n R (r.run ts) (r'.run us)

variable {R : α → β → Prop} {S : γ → δ → Prop} {r : Reader α} {r' : Reader β}

theorem Together.mono (h : Together P m R r r' ts us) (hn : m ≤ n) : Together P n R r r' ts us :=
  EndAlike.mono h hn

theorem Together.pure {a : α} {b : β} (hp : Paired P n ts us) (h : R a b) :
    Together P n R (Pure.pure a) (Pure.pure b) ts us :=
  .ok h hp

theorem Together.failAt (cause : Cause) {pos pos' : Nat} (h : P pos pos') :
    Together P n R (Condition.failAt pos cause) (Condition.failAt pos' cause) ts us :=
  .fault cause h

theorem Together.failAt_bind (cause : Cause) {pos pos' : Nat} (h : P pos pos') (k : α → Reader γ)
    (k' : β → Reader δ) : Together P n S (Condition.failAt pos cause >>= k)
      (Condition.failAt pos' cause >>= k') ts us :=
  .fault cause h

theorem Together.breakdown (b : Breakdown) :
    Together P n R (throw (.breakdown b)) (throw (.breakdown b)) ts us :=
  EndAlike.breakdown b

theorem Together.bind {k : α → Reader γ} {k' : β → Reader δ} (h : Together P n R r r' ts us)
    (hk : ∀ a b ts us, R a b → Paired P n ts us → Together P n S (k a) (k' b) ts us) :
    Together P n S (r >>= k) (r' >>= k') ts us := by
  unfold Together at h
  cases hr : r.run ts with
  | ok p =>
    cases hr' : r'.run us with
    | ok q =>
      rw [hr, hr'] at h
      unfold Together
      rw [run_bind_ok hr, run_bind_ok hr']
      cases h with
      | ok hab hp => exact hk _ _ _ _ hab hp
    | error f =>
      rw [hr, hr'] at h
      cases h
  | error f =>
    cases hr' : r'.run us with
    | ok q =>
      rw [hr, hr'] at h
      cases h
    | error f' =>
      rw [hr, hr'] at h
      unfold Together
      rw [run_bind_error hr, run_bind_error hr']
      cases h with
      | fault cause hpos => exact .fault cause hpos
      | breakdown b => exact .breakdown b

theorem Together.bind_eq {r r' : Reader α} {k : α → Reader γ} {k' : α → Reader δ}
    (h : Together P n Eq r r' ts us)
    (hk : ∀ a ts us, Paired P n ts us → Together P n S (k a) (k' a) ts us) :
    Together P n S (r >>= k) (r' >>= k') ts us := by
  refine h.bind fun a b ts us hab hp => ?_
  subst hab
  exact hk a ts us hp

theorem Together.ite {c : Prop} [Decidable c] {s : Reader α} {s' : Reader β}
    (h : c → Together P n R r r' ts us) (h' : ¬c → Together P n R s s' ts us) :
    Together P n R (if c then r else s) (if c then r' else s') ts us := by
  split
  next hc => exact h hc
  next hc => exact h' hc

theorem Together.peek {k : Token → Reader γ} {k' : Token → Reader δ} (hp : Paired P n ts us)
    (hk : ∀ lexeme text pos pos' ts us, P pos pos' →
      Paired P n (⟨lexeme, text, pos⟩ :: ts) (⟨lexeme, text, pos'⟩ :: us) →
      Together P n S (k ⟨lexeme, text, pos⟩) (k' ⟨lexeme, text, pos'⟩)
        (⟨lexeme, text, pos⟩ :: ts) (⟨lexeme, text, pos'⟩ :: us)) :
    Together P n S (Condition.peek >>= k) (Condition.peek >>= k') ts us := by
  obtain ⟨lexeme, text, pos, pos', ts', us', hpos, rfl, rfl⟩ := hp.cases
  exact hk lexeme text pos pos' ts' us' hpos hp

theorem Together.advance {k : Unit → Reader γ} {k' : Unit → Reader δ} {t u : Token}
    (hp : Paired P n (t :: ts) (u :: us)) (ht : t.lexeme ≠ .finish)
    (hk : ∀ m < n, Paired P m ts us → Together P m S (k ()) (k' ()) ts us) :
    Together P n S (Condition.advance >>= k) (Condition.advance >>= k') (t :: ts) (u :: us) := by
  obtain ⟨m, hm, hrest⟩ := hp.tail ht
  have hadvanced : Condition.advance.run (t :: ts) = .ok ((), ts) ∧
      Condition.advance.run (u :: us) = .ok ((), us) := by
    obtain ⟨_, _, _, _, _, _, -, rfl, rfl⟩ := hrest.cases
    exact ⟨rfl, rfl⟩
  unfold Together
  rw [run_bind_ok hadvanced.1, run_bind_ok hadvanced.2]
  exact (hk m hm hrest).mono hm.le

theorem Together.advance_symbol {k : Unit → Reader γ} {k' : Unit → Reader δ} {s : Symbol}
    {lexeme : Lexeme} {text : String} {pos pos' : Nat}
    (hp : Paired P n (⟨lexeme, text, pos⟩ :: ts) (⟨lexeme, text, pos'⟩ :: us))
    (hs : Token.isSymbol ⟨lexeme, text, pos⟩ s = true)
    (hk : ∀ m < n, Paired P m ts us → Together P m S (k ()) (k' ()) ts us) :
    Together P n S (Condition.advance >>= k) (Condition.advance >>= k')
      (⟨lexeme, text, pos⟩ :: ts) (⟨lexeme, text, pos'⟩ :: us) := by
  have hlexeme : lexeme = .symbol s := Token.isSymbol_iff.mp hs
  exact .advance hp (by simp [hlexeme]) hk

theorem Together.blame (x : Except Cause α) {t u : Token} (h : P t.pos u.pos)
    (hp : Paired P n ts us) :
    Together P n Eq (Condition.blame t x) (Condition.blame u x) ts us := by
  cases x with
  | ok a => exact .pure hp rfl
  | error cause => exact .failAt cause h

theorem Together.compiled [Pattern.Engine] (body flags : String) {t u : Token}
    (h : P t.pos u.pos) (hp : Paired P n ts us) :
    Together P n Eq (Condition.compiled t body flags) (Condition.compiled u body flags) ts us := by
  unfold Condition.compiled
  cases compilePattern body flags with
  | ok p => exact .pure hp rfl
  | error f =>
    cases f with
    | cause c => exact .fault c h
    | exhausted => exact .breakdown .stackExhausted

theorem Together.expectSymbol (s : Symbol) (hp : Paired P n ts us) :
    Together P n Eq (expectSymbol s) (expectSymbol s) ts us := by
  refine .peek hp fun lexeme text pos pos' ts us hpos hp => ?_
  refine .ite (fun hs => ?_) fun _ => .failAt _ hpos
  rw [← bind_pure Condition.advance]
  exact .advance_symbol hp hs fun m _ hp => .pure hp rfl

theorem Together.expectWord (what : String) (hp : Paired P n ts us) :
    Together P n (Token.Twins P) (expectWord what) (expectWord what) ts us := by
  refine .peek hp fun lexeme text pos pos' ts us hpos hp => ?_
  refine .ite (fun hword => ?_) fun _ => .failAt _ hpos
  obtain rfl : lexeme = .word := hword
  exact .advance hp nofun fun m _ hp => .pure hp ⟨rfl, hpos⟩

theorem Together.expectText (what : String) (hp : Paired P n ts us) :
    Together P n (fun p q => Token.Twins P p.1 q.1 ∧ q.2 = p.2) (expectText what)
      (expectText what) ts us := by
  refine .peek hp fun lexeme text pos pos' ts us hpos hp => ?_
  cases lexeme with
  | text value => exact .advance hp nofun fun m _ hp => .pure hp ⟨⟨rfl, hpos⟩, rfl⟩
  | _ => exact .failAt _ hpos

end

structure Level.Together (P : Nat → Nat → Prop) (n : Nat) (l l' : Level) : Prop where
  condition {m : Nat} {ts us : List Token} : m ≤ n → Paired P m ts us →
    Condition.Together P m Eq l.condition l'.condition ts us
  operand {m : Nat} {ts us : List Token} : m ≤ n → Paired P m ts us →
    Condition.Together P m Eq l.operand l'.operand ts us

structure Beside (P : Nat → Nat → Prop) (n fuel fuel' : Nat) (inner inner' : Option Level) :
    Prop where
  left : n ≤ fuel
  right : n ≤ fuel'
  inner : Option.Rel (Level.Together P n) inner inner'

section
variable {P : Nat → Nat → Prop} {m n fuel fuel' : Nat} {inner inner' : Option Level}
  {ts us : List Token}

theorem Level.Together.mono {l l' : Level} (h : Level.Together P n l l') (hm : m ≤ n) :
    Level.Together P m l l' :=
  ⟨fun hk hp => h.condition (hk.trans hm) hp, fun hk hp => h.operand (hk.trans hm) hp⟩

theorem Beside.mono (hb : Beside P n fuel fuel' inner inner') (hm : m ≤ n) :
    Beside P m fuel fuel' inner inner' := by
  refine ⟨hm.trans hb.left, hm.trans hb.right, ?_⟩
  cases hb.inner with
  | some h => exact .some (h.mono hm)
  | none => exact .none

theorem Beside.enter (hb : Beside P n fuel fuel' inner inner') {t u : Token} (h : P t.pos u.pos)
    {α : Type} {k k' : Level → Reader α}
    (hk : ∀ l l', Level.Together P n l l' → Together P n Eq (k l) (k' l') ts us) :
    Together P n Eq (enter inner t >>= k) (enter inner' u >>= k') ts us := by
  cases hb.inner with
  | some hl => exact hk _ _ hl
  | none => exact .failAt_bind _ h _ _

theorem Level.Together.argumentsFrom {l l' : Level} (hl : Level.Together P n l l') {k k' : Nat}
    (hk : n ≤ k) (hk' : n ≤ k') (before : List Expr) (hp : Paired P n ts us) :
    Condition.Together P n Eq (argumentsFrom l k before) (argumentsFrom l' k' before) ts us := by
  induction k generalizing n k' before ts us with
  | zero => exact absurd (Nat.le_zero.mp hk) hp.ne_zero
  | succ k ih =>
    obtain ⟨k', rfl⟩ := hp.exists_succ hk'
    refine (hl.operand le_rfl hp).bind_eq fun e ts us hp => ?_
    refine .peek hp fun lexeme text pos pos' ts us hpos hp => .ite (fun hcomma => ?_) fun _ => ?_
    · refine .advance_symbol hp hcomma fun m hm hp => ?_
      exact ih (hl.mono hm.le) (by omega) (by omega) (e :: before) hp
    · exact (Condition.Together.expectSymbol .closeParen hp).bind_eq fun _ ts us hp => .pure hp rfl

theorem Beside.arguments (hb : Beside P n fuel fuel' inner inner') (hp : Paired P n ts us) :
    Together P n Eq (arguments fuel inner) (arguments fuel' inner') ts us := by
  refine .peek hp fun lexeme text pos pos' ts us hpos hp => .ite (fun hclose => ?_) fun _ => ?_
  · exact .advance_symbol hp hclose fun m _ hp => .pure hp rfl
  · exact hb.enter hpos fun l l' hl => hl.argumentsFrom hb.left hb.right [] hp

theorem Together.checkArguments {t u : Token} (h : Token.Twins P t u) (args : List Expr)
    (types : List ValueType) (hp : Paired P n ts us) :
    Together P n Eq (checkArguments t args types) (checkArguments u args types) ts us := by
  unfold Condition.checkArguments
  rw [h.text]
  refine .ite (fun _ => .failAt_bind _ h.pos _ _) fun _ => ?_
  cases (args.zip types).find? fun p => p.1.type ≠ p.2 with
  | none => exact .pure hp rfl
  | some p => exact .failAt _ h.pos

theorem Beside.method (hb : Beside P n fuel fuel' inner inner') (target : Expr) {t u : Token}
    (h : Token.Twins P t u) (hp : Paired P n ts us) :
    Together P n Eq (method fuel inner target t) (method fuel' inner' target u) ts us := by
  unfold Condition.method
  rw [h.text]
  refine (Together.expectSymbol .openParen hp).bind_eq fun _ ts us hp => ?_
  refine (hb.arguments hp).bind_eq fun args ts us hp => ?_
  have hcheck (types : List ValueType) (e : Expr) :
      Together P n Eq (Condition.checkArguments t args types >>= fun _ => pure e)
        (Condition.checkArguments u args types >>= fun _ => pure e) ts us :=
    (Together.checkArguments h args types hp).bind_eq fun _ ts us hp => .pure hp rfl
  exact .ite (fun _ => .failAt _ h.pos) fun _ => .ite (fun _ => hcheck _ _) fun _ =>
    .ite (fun _ => hcheck _ _) fun _ => .ite (fun _ => hcheck _ _) fun _ => .failAt _ h.pos

theorem Beside.patternTest (hb : Beside P n fuel fuel' inner inner') (pattern : Pattern)
    (hp : Paired P n ts us) :
    Together P n Eq (patternTest fuel inner pattern) (patternTest fuel' inner' pattern) ts us := by
  refine (Together.expectSymbol .dot hp).bind_eq fun _ ts us hp => ?_
  refine (Together.expectWord "'test'" hp).bind fun t u ts us h hp => ?_
  rw [h.text]
  refine .ite (fun _ => .failAt_bind _ h.pos _ _) fun _ => ?_
  refine (Together.expectSymbol .openParen hp).bind_eq fun _ ts us hp => ?_
  refine (hb.arguments hp).bind_eq fun args ts us hp => ?_
  exact (Together.checkArguments h args [.text] hp).bind_eq fun _ ts us hp => .pure hp rfl

theorem Beside.newPattern [Pattern.Engine] (hb : Beside P n fuel fuel' inner inner')
    (hp : Paired P n ts us) :
    Together P n Eq (newPattern fuel inner) (newPattern fuel' inner') ts us := by
  refine (Together.expectWord "'RegExp'" hp).bind fun t u ts us h hp => ?_
  rw [h.text]
  refine .ite (fun _ => .failAt_bind _ h.pos _ _) fun _ => ?_
  refine (Together.expectSymbol .openParen hp).bind_eq fun _ ts us hp => ?_
  refine (Together.expectText "a pattern string" hp).bind fun p q ts us hbody hp => ?_
  obtain ⟨t, body⟩ := p
  obtain ⟨u, body'⟩ := q
  obtain ⟨hplace, rfl⟩ := hbody
  have hrest (flags : String) {m : Nat} {ts us : List Token} (hm : m ≤ n)
      (hp : Paired P m ts us) : Together P m Eq
      (do
        expectSymbol .closeParen
        Condition.patternTest fuel inner (← compiled t body' flags))
      (do
        expectSymbol .closeParen
        Condition.patternTest fuel' inner' (← compiled u body' flags))
      ts us := by
    refine (Together.expectSymbol .closeParen hp).bind_eq fun _ ts us hp => ?_
    refine (Together.compiled _ _ hplace.pos hp).bind_eq fun pattern ts us hp => ?_
    exact (hb.mono hm).patternTest pattern hp
  refine .peek hp fun lexeme text pos pos' ts us hpos hp => ?_
  refine .ite (fun hcomma => ?_) fun _ => hrest "" le_rfl hp
  refine .advance_symbol hp hcomma fun m hm hp => ?_
  refine (Together.expectText "a flags string" hp).bind fun p q ts us hflags hp => ?_
  obtain ⟨_, flags⟩ := p
  obtain ⟨_, flags'⟩ := q
  obtain ⟨-, rfl⟩ := hflags
  exact hrest flags' hm.le hp

theorem Together.fieldAccess (hp : Paired P n ts us) :
    Together P n Eq fieldAccess fieldAccess ts us := by
  refine (Together.expectSymbol .dot hp).bind_eq fun _ ts us hp => ?_
  refine (Together.expectWord "a transaction field" hp).bind fun t u ts us h hp => ?_
  rw [h.text]
  cases Field.ofName? t.text with
  | some f => exact .pure hp rfl
  | none => exact .failAt _ h.pos

theorem Beside.dateCall (hb : Beside P n fuel fuel' inner inner') (part : DatePart) {t u : Token}
    (h : P t.pos u.pos) (hp : Paired P n ts us) :
    Together P n Eq (dateCall inner part t) (dateCall inner' part u) ts us := by
  refine (Together.expectSymbol .openParen hp).bind_eq fun _ ts us hp => ?_
  refine hb.enter h fun l l' hl => ?_
  refine (hl.operand le_rfl hp).bind_eq fun e ts us hp => ?_
  refine (Together.expectSymbol .closeParen hp).bind_eq fun _ ts us hp => ?_
  exact .ite (fun _ => .failAt _ h) fun _ => .pure hp rfl

theorem Beside.named [Pattern.Engine] (hb : Beside P n fuel fuel' inner inner') {t u : Token}
    (h : Token.Twins P t u) (hp : Paired P n ts us) :
    Together P n Eq (named fuel inner t) (named fuel' inner' u) ts us := by
  unfold Condition.named
  rw [h.text]
  refine .ite (fun _ => Together.fieldAccess hp) fun _ => ?_
  refine .ite (fun _ => hb.newPattern hp) fun _ => ?_
  cases DatePart.ofName? t.text with
  | some part => exact hb.dateCall part h.pos hp
  | none =>
    refine .peek hp fun _ _ _ _ ts us _ hp => ?_
    exact .ite (fun _ => .failAt _ h.pos) fun _ => .failAt _ h.pos

theorem Together.negativeNumber (hp : Paired P n ts us) :
    Together P n Eq negativeNumber negativeNumber ts us := by
  refine .peek hp fun lexeme text pos pos' ts us hpos hp => ?_
  cases lexeme with
  | number value =>
    refine .advance hp nofun fun m _ hp => ?_
    cases value.negated? with
    | some d => exact .pure hp rfl
    | none => exact .breakdown _
  | _ => exact .failAt _ hpos

theorem Beside.primary [Pattern.Engine] (hb : Beside P n fuel fuel' inner inner')
    (hp : Paired P n ts us) :
    Together P n Eq (primary fuel inner) (primary fuel' inner') ts us := by
  refine .peek hp fun lexeme text pos pos' ts us hpos hp => ?_
  cases lexeme with
  | text value => exact .advance hp nofun fun m _ hp => .pure hp rfl
  | number value => exact .advance hp nofun fun m _ hp => .pure hp rfl
  | pattern body flags =>
    refine .advance hp nofun fun m hm hp => ?_
    refine (Together.compiled _ _ hpos hp).bind_eq fun pattern ts us hp => ?_
    exact (hb.mono hm.le).patternTest pattern hp
  | word => exact .advance hp nofun fun m hm hp => (hb.mono hm.le).named ⟨rfl, hpos⟩ hp
  | symbol s =>
    cases s with
    | openParen =>
      refine hb.enter hpos fun l l' hl => ?_
      refine .advance hp nofun fun m hm hp => ?_
      refine (hl.condition hm.le hp).bind_eq fun e ts us hp => ?_
      exact (Together.expectSymbol .closeParen hp).bind_eq fun _ ts us hp => .pure hp rfl
    | minus => exact .advance hp nofun fun m _ hp => Together.negativeNumber hp
    | _ => exact .failAt _ hpos
  | finish => exact .failAt _ hpos

theorem Beside.methodsFrom (hb : Beside P n fuel fuel' inner inner') {k k' : Nat} (hk : n ≤ k)
    (hk' : n ≤ k') (e : Expr) (hp : Paired P n ts us) :
    Together P n Eq (methodsFrom fuel inner k e) (methodsFrom fuel' inner' k' e) ts us := by
  induction k generalizing n k' e ts us with
  | zero => exact absurd (Nat.le_zero.mp hk) hp.ne_zero
  | succ k ih =>
    obtain ⟨k', rfl⟩ := hp.exists_succ hk'
    refine .peek hp fun lexeme text pos pos' ts us hpos hp => ?_
    refine .ite (fun hdot => ?_) fun _ => .pure hp rfl
    refine .advance_symbol hp hdot fun m hm hp => ?_
    have hb' := hb.mono hm.le
    refine (Together.expectWord "a method name" hp).bind fun t u ts us h hp => ?_
    refine (hb'.method e h hp).bind_eq fun e ts us hp => ?_
    -- A round takes at least the point, so the fuel that is left is still enough on both sides.
    exact ih hb' (by omega) (by omega) e hp

section
variable [Pattern.Engine]

theorem Beside.operand_of_primary (hb : Beside P n fuel fuel' inner inner')
    (h : Together P n Eq (Condition.primary fuel inner) (Condition.primary fuel' inner') ts us) :
    Together P n Eq (operand fuel inner) (operand fuel' inner') ts us :=
  h.bind_eq fun e _ _ hp => hb.methodsFrom hb.left hb.right e hp

theorem Beside.operand (hb : Beside P n fuel fuel' inner inner') (hp : Paired P n ts us) :
    Together P n Eq (operand fuel inner) (operand fuel' inner') ts us :=
  hb.operand_of_primary (hb.primary hp)

theorem Beside.comparison_of_operand (hb : Beside P n fuel fuel' inner inner')
    (h : Together P n Eq (Condition.operand fuel inner) (Condition.operand fuel' inner') ts us) :
    Together P n Eq (comparison fuel inner) (comparison fuel' inner') ts us := by
  refine h.bind_eq fun left ts us hp => ?_
  refine .peek hp fun lexeme text pos pos' ts us hpos hp => ?_
  cases lexeme with
  | symbol s =>
    cases s with
    | compare op =>
      refine .advance hp nofun fun m hm hp => ?_
      refine ((hb.mono hm.le).operand hp).bind_eq fun right ts us hp => ?_
      exact Together.blame _ hpos hp
    | _ => exact .pure hp rfl
  | _ => exact .pure hp rfl

theorem Beside.comparison (hb : Beside P n fuel fuel' inner inner') (hp : Paired P n ts us) :
    Together P n Eq (comparison fuel inner) (comparison fuel' inner') ts us :=
  hb.comparison_of_operand (hb.operand hp)

end

theorem Together.joinsFrom (kind : Join) {part part' : Reader Expr}
    (hpart : ∀ {m ts us}, m ≤ n → Paired P m ts us → Together P m Eq part part' ts us) {k k' : Nat}
    (hk : n ≤ k) (hk' : n ≤ k') (left : Expr) (hp : Paired P n ts us) :
    Together P n Eq (joinsFrom kind part k left) (joinsFrom kind part' k' left) ts us := by
  induction k generalizing n k' left ts us with
  | zero => exact absurd (Nat.le_zero.mp hk) hp.ne_zero
  | succ k ih =>
    obtain ⟨k', rfl⟩ := hp.exists_succ hk'
    refine .peek hp fun lexeme text pos pos' ts us hpos hp => ?_
    refine .ite (fun hjoin => ?_) fun _ => .pure hp rfl
    refine .advance_symbol hp hjoin fun m hm hp => ?_
    refine (hpart hm.le hp).bind_eq fun e ts us hp => ?_
    exact ih (fun hm' hp => hpart (hm'.trans hm.le) hp) (by omega) (by omega) _ hp

section
variable [Pattern.Engine]

theorem Beside.conjunction_of_comparison (hb : Beside P n fuel fuel' inner inner')
    (h : Together P n Eq (Condition.comparison fuel inner) (Condition.comparison fuel' inner')
      ts us) : Together P n Eq (conjunction fuel inner) (conjunction fuel' inner') ts us :=
  h.bind_eq fun e _ _ hp =>
    Together.joinsFrom .all (fun hm hp => (hb.mono hm).comparison hp) hb.left hb.right e hp

theorem Beside.conjunction (hb : Beside P n fuel fuel' inner inner') (hp : Paired P n ts us) :
    Together P n Eq (conjunction fuel inner) (conjunction fuel' inner') ts us :=
  hb.conjunction_of_comparison (hb.comparison hp)

theorem Beside.disjunction_of_conjunction (hb : Beside P n fuel fuel' inner inner')
    (h : Together P n Eq (Condition.conjunction fuel inner) (Condition.conjunction fuel' inner')
      ts us) : Together P n Eq (disjunction fuel inner) (disjunction fuel' inner') ts us :=
  h.bind_eq fun e _ _ hp =>
    Together.joinsFrom .any (fun hm hp => (hb.mono hm).conjunction hp) hb.left hb.right e hp

theorem Beside.disjunction (hb : Beside P n fuel fuel' inner inner') (hp : Paired P n ts us) :
    Together P n Eq (disjunction fuel inner) (disjunction fuel' inner') ts us :=
  hb.disjunction_of_conjunction (hb.conjunction hp)

theorem beside_level (P : Nat → Nat → Prop) (h : n ≤ fuel) (h' : n ≤ fuel') (room : Nat) :
    Beside P n fuel fuel' (level fuel room) (level fuel' room) := by
  induction room with
  | zero => exact ⟨h, h', .none⟩
  | succ room ih =>
    refine ⟨h, h', .some ⟨fun hm hp => ?_, fun hm hp => ?_⟩⟩
    · exact (ih.mono hm).disjunction hp
    · exact (ih.mono hm).operand hp

end

theorem Together.expectEnd (hp : Paired P n ts us) :
    Together P n Eq expectEnd expectEnd ts us := by
  refine .peek hp fun lexeme text pos pos' ts us hpos hp => ?_
  exact .ite (fun _ => .pure hp rfl) fun _ => .failAt _ hpos

theorem wholeCondition_of_primary [Pattern.Engine] {t u : Token} (h : n ≤ fuel) (h' : n ≤ fuel')
    (ht : t.lexeme ≠ .finish) (hu : u.lexeme ≠ .finish)
    (hprimary : Together P n Eq (primary fuel (level fuel maxNesting))
      (primary fuel' (level fuel' maxNesting)) (t :: ts) (u :: us)) :
    Together P n Eq (wholeCondition fuel) (wholeCondition fuel') (t :: ts) (u :: us) := by
  have hb := beside_level P h h' maxNesting
  unfold Together wholeCondition
  rw [run_bind_ok (run_peek t), run_bind_ok (run_peek u), if_neg ht, if_neg hu]
  refine Together.bind_eq (hb.disjunction_of_conjunction (hb.conjunction_of_comparison
    (hb.comparison_of_operand (hb.operand_of_primary hprimary)))) fun e ts us hp => ?_
  exact (Together.expectEnd hp).bind_eq fun _ ts us hp => .pure hp rfl

theorem wholeCondition_together [Pattern.Engine] (h : n ≤ fuel) (h' : n ≤ fuel')
    (hp : Paired P n ts us) :
    Together P n Eq (wholeCondition fuel) (wholeCondition fuel') ts us := by
  obtain ⟨lexeme, text, pos, pos', ts', us', hpos, rfl, rfl⟩ := hp.cases
  by_cases hf : lexeme = .finish
  · subst hf
    exact .fault .emptyCondition hpos
  · exact wholeCondition_of_primary h h' hf hf ((beside_level P h h' maxNesting).primary hp)

end

end LedgerRules.Condition
