import LedgerRules.Condition.Parser

/-! The grammar of conditions. A phrase is a derivation in it: its yield is the sequence of
terminals that it derives, its depth the most brackets that are open at once. It builds an
expression if its parts have the types, and its patterns the flags, that the language asks for.
Parts of a run and calls on an operand follow each other; what is built of them leans to the
left. -/

namespace LedgerRules.Condition
open Numeric

inductive Terminal
  | text (value : String)
  | number (value : Decimal)
  | pattern (body flags : String)
  | word (name : String)
  | symbol (s : Symbol)
deriving DecidableEq

inductive Construct
  | run (kind : Join)
  | comparison
  | operand
  | primary

def Construct.part : Join → Construct
  | .any => run .all
  | .all => comparison

def Construct.piece : Construct → Construct
  | run kind => part kind
  | comparison => operand
  | operand => primary
  | primary => primary

inductive Shape
  | whole
  | more

inductive Phrase : Construct → Shape → Type
  | run {kind : Join} (first : Phrase (Construct.part kind) .whole)
      (more : Phrase (.run kind) .more) : Phrase (.run kind) .whole
  | noPart {kind : Join} : Phrase (.run kind) .more
  | part (kind : Join) (next : Phrase (Construct.part kind) .whole)
      (more : Phrase (.run kind) .more) : Phrase (.run kind) .more
  | alone (o : Phrase .operand .whole) : Phrase .comparison .whole
  | compare (op : CompareOp) (left right : Phrase .operand .whole) : Phrase .comparison .whole
  | called (p : Phrase .primary .whole) (calls : Phrase .operand .more) : Phrase .operand .whole
  | noCall : Phrase .operand .more
  | includes (needle : Phrase .operand .whole) (calls : Phrase .operand .more) :
      Phrase .operand .more
  | changeCase (upper : Bool) (calls : Phrase .operand .more) : Phrase .operand .more
  | group (inner : Phrase (.run .any) .whole) : Phrase .primary .whole
  | text (value : String) : Phrase .primary .whole
  | number (value : Decimal) : Phrase .primary .whole
  | negative (value : Decimal) : Phrase .primary .whole
  | field (f : Field) : Phrase .primary .whole
  | datePart (d : DatePart) (argument : Phrase .operand .whole) : Phrase .primary .whole
  | pattern (body flags : String) (target : Phrase .operand .whole) : Phrase .primary .whole
  | newPattern (body : String) (flags : Option String) (target : Phrase .operand .whole) :
      Phrase .primary .whole

namespace Phrase

def inParens (w : List Terminal) : List Terminal :=
  .symbol .openParen :: w ++ [.symbol .closeParen]

def testOf (w : List Terminal) : List Terminal := .symbol .dot :: .word "test" :: inParens w

def flagsYield : Option String → List Terminal
  | none => []
  | some flags => [.symbol .comma, .text flags]

def caseWord (upper : Bool) : String := if upper then "toUpperCase" else "toLowerCase"

def yield {c : Construct} {s : Shape} : Phrase c s → List Terminal
  | run first more => first.yield ++ more.yield
  | noPart => []
  | part kind next more => .symbol (.join kind) :: (next.yield ++ more.yield)
  | alone o => o.yield
  | compare op left right => left.yield ++ .symbol (.compare op) :: right.yield
  | called p calls => p.yield ++ calls.yield
  | noCall => []
  | includes needle calls =>
    .symbol .dot :: .word "includes" :: (inParens needle.yield ++ calls.yield)
  | changeCase upper calls =>
    .symbol .dot :: .word (caseWord upper) :: (inParens [] ++ calls.yield)
  | group inner => inParens inner.yield
  | text value => [.text value]
  | number value => [.number value]
  | negative value => [.symbol .minus, .number value]
  | field f => [.word "transaction", .symbol .dot, .word f.name]
  | datePart d argument => .word d.name :: inParens argument.yield
  | pattern body flags target => .pattern body flags :: testOf target.yield
  | newPattern body flags target =>
    .word "new" :: .word "RegExp" :: (inParens (.text body :: flagsYield flags)
      ++ testOf target.yield)

def depth {c : Construct} {s : Shape} : Phrase c s → Nat
  | run first more => max first.depth more.depth
  | noPart => 0
  | part _ next more => max next.depth more.depth
  | alone o => o.depth
  | compare _ left right => max left.depth right.depth
  | called p calls => max p.depth calls.depth
  | noCall => 0
  | includes needle calls => max (needle.depth + 1) calls.depth
  | changeCase _ calls => calls.depth
  | group inner => inner.depth + 1
  | text _ => 0
  | number _ => 0
  | negative _ => 0
  | field _ => 0
  | datePart _ argument => argument.depth + 1
  | pattern _ _ target => target.depth + 1
  | newPattern _ _ target => target.depth + 1

end Phrase

/-- A whole phrase builds an expression, a following one goes on from what stands before it. -/
def Shape.Meaning : Shape → Type
  | whole => Option Expr
  | more => Expr → Option Expr

namespace Phrase

def testExpr [Pattern.Engine] (body flags : String) (target : Expr) : Option Expr :=
  if target.type = .text then
    (compilePattern body flags).toOption.map fun p => .search p target
  else none

/-- The expression of a phrase, where `negate` says what a number after a minus sign means. -/
def build [Pattern.Engine] (negate : Decimal → Option Decimal) {c : Construct} {s : Shape} :
    Phrase c s → s.Meaning
  | run first more => (first.build negate).bind fun e => more.build negate e
  | noPart => fun left => some left
  | part kind next more => fun left =>
    (next.build negate).bind fun e => more.build negate (.join kind left e)
  | alone o => o.build negate
  | compare op left right =>
    (left.build negate).bind fun l => (right.build negate).bind fun r =>
      if op.isOrdering = true → l.type = .number ∧ r.type = .number then some (.compare op l r)
      else none
  | called p calls => (p.build negate).bind fun e => calls.build negate e
  | noCall => fun target => some target
  | includes needle calls => fun target =>
    (needle.build negate).bind fun n =>
      if target.type = .text ∧ n.type = .text then calls.build negate (.includes target n) else none
  | changeCase upper calls => fun target =>
    if target.type = .text then calls.build negate (.changeCase upper target) else none
  | group inner => inner.build negate
  | text value => some (.text value)
  | number value => some (.number value)
  | negative value => (negate value).map .number
  | field f => some (.field f)
  | datePart d argument =>
    (argument.build negate).bind fun e => if e.type = .date then some (.datePart d e) else none
  | pattern body flags target =>
    (target.build negate).bind fun e => testExpr body flags e
  | newPattern body flags target =>
    (target.build negate).bind fun e => testExpr body (flags.getD "") e

end Phrase

-- Every later module reads these equations, so they are made here.
attribute [local simp] Phrase.yield Phrase.depth Phrase.build

namespace Phrase
variable [Pattern.Engine] {negate : Decimal → Option Decimal} {e left : Expr}

theorem testExpr_eq_some {body flags : String} {target : Expr} :
    testExpr body flags target = some e ↔
      ∃ pattern, compilePattern body flags = .ok pattern ∧ target.type = .text ∧
        .search pattern target = e := by
  unfold testExpr
  cases compilePattern body flags <;> simp [Except.toOption]

theorem build_run {kind : Join} {first : Phrase (Construct.part kind) .whole}
    {more : Phrase (.run kind) .more} :
    (run first more).build negate = some e ↔
      ∃ e₁, first.build negate = some e₁ ∧ more.build negate e₁ = some e :=
  Option.bind_eq_some_iff

theorem build_part {kind : Join} {next : Phrase (Construct.part kind) .whole}
    {more : Phrase (.run kind) .more} :
    (part kind next more).build negate left = some e ↔
      ∃ e₁, next.build negate = some e₁ ∧ more.build negate (.join kind left e₁) = some e :=
  Option.bind_eq_some_iff

theorem build_compare {op : CompareOp} {l r : Phrase .operand .whole} :
    (compare op l r).build negate = some e ↔
      ∃ e₁ e₂, l.build negate = some e₁ ∧ r.build negate = some e₂ ∧
        (op.isOrdering = true → e₁.type = .number ∧ e₂.type = .number) ∧
        .compare op e₁ e₂ = e := by
  constructor
  · intro h
    obtain ⟨e₁, h₁, h⟩ := Option.bind_eq_some_iff.mp h
    obtain ⟨e₂, h₂, h⟩ := Option.bind_eq_some_iff.mp h
    obtain ⟨htypes, he⟩ := Option.ite_none_right_eq_some.mp h
    exact ⟨e₁, e₂, h₁, h₂, htypes, Option.some.inj he⟩
  · rintro ⟨e₁, e₂, h₁, h₂, htypes, rfl⟩
    exact Option.bind_eq_some_iff.mpr
      ⟨e₁, h₁, Option.bind_eq_some_iff.mpr ⟨e₂, h₂, if_pos htypes⟩⟩

theorem build_called {p : Phrase .primary .whole} {calls : Phrase .operand .more} :
    (called p calls).build negate = some e ↔
      ∃ e₁, p.build negate = some e₁ ∧ calls.build negate e₁ = some e :=
  Option.bind_eq_some_iff

theorem build_includes {needle : Phrase .operand .whole} {calls : Phrase .operand .more} :
    (includes needle calls).build negate left = some e ↔
      ∃ n, needle.build negate = some n ∧ (left.type = .text ∧ n.type = .text) ∧
        calls.build negate (.includes left n) = some e :=
  Option.bind_eq_some_iff.trans
    (exists_congr fun _ => and_congr_right fun _ => Option.ite_none_right_eq_some)

theorem build_changeCase {upper : Bool} {calls : Phrase .operand .more} :
    (changeCase upper calls).build negate left = some e ↔
      left.type = .text ∧ calls.build negate (.changeCase upper left) = some e :=
  Option.ite_none_right_eq_some

theorem build_negative {value : Decimal} :
    (negative value).build negate = some e ↔ ∃ n, negate value = some n ∧ .number n = e :=
  Option.map_eq_some_iff

theorem build_datePart {d : DatePart} {argument : Phrase .operand .whole} :
    (datePart d argument).build negate = some e ↔
      ∃ a, argument.build negate = some a ∧ a.type = .date ∧ .datePart d a = e := by
  refine Option.bind_eq_some_iff.trans (exists_congr fun _ => and_congr_right fun _ => ?_)
  rw [Option.ite_none_right_eq_some, Option.some.injEq]

theorem build_pattern {body flags : String} {target : Phrase .operand .whole} :
    (pattern body flags target).build negate = some e ↔
      ∃ a p, target.build negate = some a ∧ compilePattern body flags = .ok p ∧ a.type = .text ∧
        .search p a = e := by
  refine Option.bind_eq_some_iff.trans (exists_congr fun _ => ?_)
  exact (and_congr_right fun _ => testExpr_eq_some).trans exists_and_left.symm

theorem build_newPattern {body : String} {flags : Option String}
    {target : Phrase .operand .whole} :
    (newPattern body flags target).build negate = some e ↔
      ∃ a p, target.build negate = some a ∧ compilePattern body (flags.getD "") = .ok p ∧
        a.type = .text ∧ .search p a = e := by
  show (pattern body (flags.getD "") target).build negate = some e ↔ _
  exact build_pattern

end Phrase

def Construct.goesOn : Construct → Symbol → Bool
  | primary, _ => false
  | operand, s => s = .dot
  | comparison, .compare _ => true
  | comparison, s => s = .dot
  | run _, .compare _ => true
  | run .all, s => s = .dot || s = .join .all
  | run .any, s => s = .dot || s = .join .all || s = .join .any

def Stops (c : Construct) (rest : List Terminal) : Prop :=
  ∀ s, rest.head? = some (.symbol s) → c.goesOn s = false

theorem Stops.nil (c : Construct) : Stops c [] := by simp [Stops]

theorem Stops.closeParen (c : Construct) (rest : List Terminal) :
    Stops c (.symbol .closeParen :: rest) := by
  rintro s hs
  obtain rfl : Symbol.closeParen = s := by simpa using hs
  cases c with
  | run kind => cases kind <;> rfl
  | _ => rfl

theorem Stops.part {kind : Join} {rest : List Terminal} (h : Stops (.run kind) rest) :
    Stops (Construct.part kind) rest := by
  intro s hs
  have hg := h s hs
  cases kind <;> cases s <;> simp_all [Construct.part, Construct.goesOn]

theorem Stops.operand {rest : List Terminal} (h : Stops .comparison rest) :
    Stops .operand rest := by
  intro s hs
  have hg := h s hs
  cases s <;> simp_all [Construct.goesOn]

theorem Stops.join (kind : Join) (rest : List Terminal) :
    Stops (Construct.part kind) (.symbol (.join kind) :: rest) := by
  intro s hs
  obtain rfl : Symbol.join kind = s := by simpa using hs
  cases kind <;> rfl

theorem Stops.more {kind : Join} (m : Phrase (.run kind) .more) {rest : List Terminal}
    (h : Stops (Construct.part kind) rest) : Stops (Construct.part kind) (m.yield ++ rest) := by
  cases m with
  | noPart => exact h
  | part _ next more => exact .join kind _

theorem Stops.compare (op : CompareOp) (rest : List Terminal) :
    Stops .operand (.symbol (.compare op) :: rest) := by
  intro s hs
  obtain rfl : Symbol.compare op = s := by simpa using hs
  rfl

theorem Stops.not_join (kind : Join) (rest : List Terminal) :
    ¬Stops (.run kind) (.symbol (.join kind) :: rest) := by
  intro h
  have hg := h (.join kind) rfl
  cases kind <;> cases hg

theorem Stops.not_compare (op : CompareOp) (rest : List Terminal) :
    ¬Stops .comparison (.symbol (.compare op) :: rest) :=
  fun h => nomatch h (.compare op) rfl

theorem Stops.not_dot (rest : List Terminal) : ¬Stops .operand (.symbol .dot :: rest) :=
  fun h => nomatch h .dot rfl

theorem DatePart.name_ne (d : DatePart) : d.name ≠ "transaction" ∧ d.name ≠ "new" := by
  cases d <;> decide

theorem DatePart.name_of_ofName? {name : String} {d : DatePart}
    (h : DatePart.ofName? name = some d) : d.name = name := by
  simpa using List.find?_some h

theorem Field.name_of_ofName? {name : String} {f : Field} (h : Field.ofName? name = some f) :
    f.name = name := by
  simpa using List.find?_some h

theorem DatePart.name_inj {d e : DatePart} (h : d.name = e.name) : d = e := by
  have := congrArg DatePart.ofName? h
  simpa [DatePart.ofName?_name] using this

theorem Field.name_inj {f g : Field} (h : f.name = g.name) : f = g := by
  have := congrArg Field.ofName? h
  simpa [Field.ofName?_name] using this

theorem caseWord_ne (upper : Bool) : Phrase.caseWord upper ≠ "includes" := by
  cases upper <;> decide

theorem caseWord_inj {upper upper' : Bool} (h : Phrase.caseWord upper = Phrase.caseWord upper') :
    upper = upper' := by
  revert h
  cases upper <;> cases upper' <;> decide

theorem flagsYield_append {f f' : Option String} {w w' : List Terminal}
    (h : Phrase.flagsYield f ++ .symbol .closeParen :: w =
      Phrase.flagsYield f' ++ .symbol .closeParen :: w') : f = f' ∧ w = w' := by
  cases f <;> cases f' <;> simp_all [Phrase.flagsYield]

namespace Phrase

/-- What the phrase derives, in front of something that cannot belong to it, shows which phrase it
is. Where two phrases begin alike, what stands behind the shorter one is something that it could go
on with. -/
def Told {c : Construct} {s : Shape} (p : Phrase c s) : Prop :=
  ∀ (q : Phrase c s) {r r' : List Terminal}, p.yield ++ r = q.yield ++ r' → Stops c r →
    Stops c r' → p = q ∧ r = r'

section
variable {c : Construct} {p q : Phrase c .whole} {r r' : List Terminal}

theorem Told.inParens (hp : p.Told)
    (h : Phrase.inParens p.yield ++ r = Phrase.inParens q.yield ++ r') : p = q ∧ r = r' := by
  simp only [Phrase.inParens, List.cons_append, List.append_assoc, List.nil_append,
    List.cons.injEq, true_and] at h
  obtain ⟨hpq, ht⟩ := hp q h (Stops.closeParen _ _) (Stops.closeParen _ _)
  exact ⟨hpq, (List.cons.inj ht).2⟩

theorem Told.testOf (hp : p.Told)
    (h : Phrase.testOf p.yield ++ r = Phrase.testOf q.yield ++ r') : p = q ∧ r = r' := by
  simp only [Phrase.testOf, List.cons_append, List.cons.injEq, true_and] at h
  exact hp.inParens h

end

theorem Told.run {kind : Join} {first : Phrase (Construct.part kind) .whole}
    {more : Phrase (.run kind) .more} (hf : first.Told) (hm : more.Told) :
    (Phrase.run first more).Told := by
  intro q r r' h hr hr'
  cases q with
  | run first' more' =>
    simp only [yield, List.append_assoc] at h
    obtain ⟨rfl, ht⟩ := hf first' h (hr.part.more more) (hr'.part.more more')
    obtain ⟨rfl, rfl⟩ := hm more' ht hr hr'
    exact ⟨rfl, rfl⟩

theorem told_noPart (kind : Join) : (noPart : Phrase (.run kind) .more).Told := by
  intro q r r' h hr hr'
  cases q with
  | noPart => exact ⟨rfl, h⟩
  | part _ next' more' =>
    obtain rfl : r = _ := h
    exact absurd hr (Stops.not_join kind _)

theorem Told.part {kind : Join} {next : Phrase (Construct.part kind) .whole}
    {more : Phrase (.run kind) .more} (hn : next.Told) (hm : more.Told) :
    (Phrase.part kind next more).Told := by
  intro q r r' h hr hr'
  cases q with
  | noPart =>
    obtain rfl : _ = r' := h
    exact absurd hr' (Stops.not_join kind _)
  | part _ next' more' =>
    simp only [yield, List.cons_append, List.append_assoc, List.cons.injEq, true_and] at h
    obtain ⟨rfl, ht⟩ := hn next' h (hr.part.more more) (hr'.part.more more')
    obtain ⟨rfl, rfl⟩ := hm more' ht hr hr'
    exact ⟨rfl, rfl⟩

theorem Told.alone {o : Phrase .operand .whole} (ho : o.Told) : (Phrase.alone o).Told := by
  intro q r r' h hr hr'
  cases q with
  | alone o' =>
    obtain ⟨rfl, rfl⟩ := ho o' h hr.operand hr'.operand
    exact ⟨rfl, rfl⟩
  | compare op left right =>
    simp only [yield, List.append_assoc, List.cons_append] at h
    obtain ⟨-, rfl⟩ := ho left h hr.operand (Stops.compare op _)
    exact absurd hr (Stops.not_compare op _)

theorem Told.compare {op : CompareOp} {left right : Phrase .operand .whole} (hl : left.Told)
    (hright : right.Told) : (Phrase.compare op left right).Told := by
  intro q r r' h hr hr'
  cases q with
  | alone o =>
    simp only [yield, List.append_assoc, List.cons_append] at h
    obtain ⟨-, rfl⟩ := hl o h (Stops.compare op _) hr'.operand
    exact absurd hr' (Stops.not_compare op _)
  | compare op' left' right' =>
    simp only [yield, List.append_assoc, List.cons_append] at h
    obtain ⟨rfl, ht⟩ := hl left' h (Stops.compare op _) (Stops.compare op' _)
    simp only [List.cons.injEq, Terminal.symbol.injEq, Symbol.compare.injEq] at ht
    obtain ⟨rfl, ht'⟩ := ht
    obtain ⟨rfl, rfl⟩ := hright right' ht' hr.operand hr'.operand
    exact ⟨rfl, rfl⟩

theorem Told.called {p : Phrase .primary .whole} {calls : Phrase .operand .more} (hp : p.Told)
    (hc : calls.Told) : (Phrase.called p calls).Told := by
  intro q r r' h hr hr'
  cases q with
  | called p' calls' =>
    simp only [yield, List.append_assoc] at h
    obtain ⟨rfl, ht⟩ := hp p' h (fun _ _ => rfl) (fun _ _ => rfl)
    obtain ⟨rfl, rfl⟩ := hc calls' ht hr hr'
    exact ⟨rfl, rfl⟩

theorem told_noCall : noCall.Told := by
  intro q r r' h hr hr'
  cases q with
  | noCall => exact ⟨rfl, h⟩
  | includes | changeCase =>
    obtain rfl : r = _ := h
    exact absurd hr (Stops.not_dot _)

theorem Told.includes {needle : Phrase .operand .whole} {calls : Phrase .operand .more}
    (hn : needle.Told) (hc : calls.Told) : (Phrase.includes needle calls).Told := by
  intro q r r' h hr hr'
  cases q with
  | noCall =>
    obtain rfl : _ = r' := h
    exact absurd hr' (Stops.not_dot _)
  | includes needle' calls' =>
    simp only [yield, List.cons_append, List.append_assoc, List.cons.injEq, true_and] at h
    obtain ⟨rfl, ht⟩ := hn.inParens h
    obtain ⟨rfl, rfl⟩ := hc calls' ht hr hr'
    exact ⟨rfl, rfl⟩
  | changeCase upper calls' =>
    simp only [yield, List.cons_append, List.cons.injEq, Terminal.word.injEq, true_and] at h
    exact absurd h.1.symm (caseWord_ne upper)

theorem Told.changeCase {upper : Bool} {calls : Phrase .operand .more} (hc : calls.Told) :
    (Phrase.changeCase upper calls).Told := by
  intro q r r' h hr hr'
  cases q with
  | noCall =>
    obtain rfl : _ = r' := h
    exact absurd hr' (Stops.not_dot _)
  | includes needle calls' =>
    simp only [yield, List.cons_append, List.cons.injEq, Terminal.word.injEq, true_and] at h
    exact absurd h.1 (caseWord_ne upper)
  | changeCase upper' calls' =>
    simp only [yield, Phrase.inParens, List.cons_append, List.nil_append, List.cons.injEq,
      Terminal.word.injEq, true_and] at h
    obtain rfl := caseWord_inj h.1
    obtain ⟨rfl, rfl⟩ := hc calls' h.2 hr hr'
    exact ⟨rfl, rfl⟩

theorem Told.group {inner : Phrase (.run .any) .whole} (hi : inner.Told) :
    (Phrase.group inner).Told := by
  intro q r r' h hr hr'
  cases q with
  | group inner' =>
    obtain ⟨rfl, rfl⟩ := hi.inParens h
    exact ⟨rfl, rfl⟩
  | _ => simp [yield, Phrase.inParens] at h

theorem Told.datePart {d : DatePart} {argument : Phrase .operand .whole} (ha : argument.Told) :
    (Phrase.datePart d argument).Told := by
  intro q r r' h hr hr'
  cases q with
  | datePart d' argument' =>
    simp only [yield, List.cons_append, List.cons.injEq, Terminal.word.injEq] at h
    obtain rfl := DatePart.name_inj h.1
    obtain ⟨rfl, rfl⟩ := ha.inParens h.2
    exact ⟨rfl, rfl⟩
  | field f => simp [yield, (DatePart.name_ne d).1] at h
  | newPattern => simp [yield, (DatePart.name_ne d).2] at h
  | _ => simp [yield, Phrase.inParens] at h

theorem Told.pattern {body flags : String} {target : Phrase .operand .whole} (ht : target.Told) :
    (Phrase.pattern body flags target).Told := by
  intro q r r' h hr hr'
  cases q with
  | pattern body' flags' target' =>
    simp only [yield, List.cons_append, List.cons.injEq, Terminal.pattern.injEq] at h
    obtain ⟨⟨rfl, rfl⟩, h⟩ := h
    obtain ⟨rfl, rfl⟩ := ht.testOf h
    exact ⟨rfl, rfl⟩
  | _ => simp [yield, Phrase.inParens] at h

theorem Told.newPattern {body : String} {flags : Option String}
    {target : Phrase .operand .whole} (ht : target.Told) :
    (Phrase.newPattern body flags target).Told := by
  intro q r r' h hr hr'
  cases q with
  | newPattern body' flags' target' =>
    simp only [yield, Phrase.inParens, List.cons_append, List.append_assoc, List.nil_append,
      List.cons.injEq, Terminal.text.injEq, true_and] at h
    obtain ⟨rfl, hf⟩ := h
    obtain ⟨rfl, h⟩ := flagsYield_append hf
    obtain ⟨rfl, rfl⟩ := ht.testOf h
    exact ⟨rfl, rfl⟩
  | datePart d => simp [yield, (DatePart.name_ne d).2.symm] at h
  | _ => simp [yield, Phrase.inParens] at h

theorem told_field (f : Field) : (field f).Told := by
  intro q r r' h hr hr'
  cases q with
  | field g =>
    simp only [yield, List.cons_append, List.nil_append, List.cons.injEq, Terminal.word.injEq,
      true_and] at h
    obtain rfl := Field.name_inj h.1
    exact ⟨rfl, h.2⟩
  | datePart d => simp [yield, (DatePart.name_ne d).1.symm] at h
  | _ => simp [yield, Phrase.inParens] at h

theorem told {c : Construct} {s : Shape} (p : Phrase c s) : p.Told := by
  induction p with
  | run _ _ ihf ihm => exact ihf.run ihm
  | @noPart kind => exact told_noPart kind
  | part _ _ _ ihn ihm => exact ihn.part ihm
  | alone _ ih => exact ih.alone
  | compare _ _ _ ihl ihr => exact ihl.compare ihr
  | called _ _ ihp ihc => exact ihp.called ihc
  | noCall => exact told_noCall
  | includes _ _ ihn ihc => exact ihn.includes ihc
  | changeCase _ _ ih => exact ih.changeCase
  | group _ ih => exact ih.group
  | datePart _ _ ih => exact ih.datePart
  | pattern _ _ _ ih => exact ih.pattern
  | newPattern _ _ _ ih => exact ih.newPattern
  | field f => exact told_field f
  | text | number | negative =>
    intro q r r' h _ _
    cases q <;> simp_all [yield, Phrase.inParens]

theorem eq_of_yield {c : Construct} {s : Shape} {p q : Phrase c s} (h : p.yield = q.yield) :
    p = q :=
  (p.told q (congrArg (· ++ []) h) (Stops.nil c) (Stops.nil c)).1

end Phrase

end LedgerRules.Condition
