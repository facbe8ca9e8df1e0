import LedgerRules.Proofs.AlikeExpressions
import LedgerRules.Proofs.BuiltTrees
import LedgerRules.Proofs.Spelling

/-! Conditions put together as text. From texts that derive as operands come the texts of
comparisons, calls and searches, and from the texts of conditions the text that joins them, each
with the expression that its phrase builds. -/

namespace LedgerRules.Condition
open Numeric

def inBrackets (cs : List Char) : List Char := '(' :: (cs ++ [')'])

def spacedText (s : Symbol) : List Char := ' ' :: s.text.toList ++ [' ']

def laterText (kind : Join) (parts : List (List Char)) : List Char :=
  parts.flatMap fun part => spacedText (.join kind) ++ inBrackets part

def joinedText (kind : Join) : List (List Char) → List Char
  | [] => []
  | part :: rest => inBrackets part ++ laterText kind rest

theorem spells_of_terminals {cs rest : List Char} {w : List Terminal}
    (h : (tokens cs).map terminals = .ok w) (hs : Separates rest) : Spells cs w rest := by
  cases ht : tokens cs with
  | error f => simp [ht, Except.map] at h
  | ok ts =>
    rw [ht] at h
    obtain rfl := Except.ok.inj h
    exact spells_of_tokens ht hs

theorem separates_closeParen (rest : List Char) : Separates (')' :: rest) :=
  .cons rest (by decide) (by decide)

theorem separates_openParen (rest : List Char) : Separates ('(' :: rest) :=
  .cons rest (by decide) (by decide)

theorem spells_space (rest : List Char) : Spells [' '] [] rest :=
  .blanks (List.forall_mem_singleton.mpr Text.isBlank_space) rest

def Symbol.standsBetween : Symbol → Bool
  | compare _ => true
  | join _ => true
  | _ => false

theorem spells_spaced {s : Symbol} (h : s.standsBetween = true) (rest : List Char) :
    Spells (spacedText s) [.symbol s] rest := by
  have hread : (tokens (' ' :: s.text.toList)).map terminals = .ok [.symbol s] := by
    cases s with
    | compare op => cases op <;> decide +kernel
    | join kind => cases kind <;> decide +kernel
    | _ => simp [Symbol.standsBetween] at h
  exact (spells_of_terminals hread (.blank rest rfl)).append (spells_space rest)

theorem spells_inBrackets {cs rest : List Char} {w : List Terminal}
    (h : Spells cs w (')' :: rest)) : Spells (inBrackets cs) (Phrase.inParens w) rest := by
  have hclosed : Spells (cs ++ [')']) (w ++ [.symbol .closeParen]) rest :=
    h.append (spells_plain (s := .closeParen) rfl rest)
  exact (spells_plain (s := .openParen) rfl (cs ++ [')'] ++ rest)).append hclosed

section
variable [Pattern.Engine]

def Writes (c : Construct) (cs rest : List Char) (e : Expr) : Prop :=
  ∃ p : Phrase c .whole, Spells cs p.yield rest ∧ p.build Decimal.negated? = some e

section
variable {cs ds rest : List Char} {e e' : Expr}

theorem Writes.primary (h : Writes .primary cs rest e) : Writes .operand cs rest e := by
  obtain ⟨p, hp, hb⟩ := h
  refine ⟨.called p .noCall, ?_, Phrase.build_called.mpr ⟨e, hb, rfl⟩⟩
  simpa [Phrase.yield] using hp

theorem Writes.text (s : String) (rest : List Char) :
    Writes .operand (quoted s) rest (.text s) :=
  .primary ⟨.text s, spells_quoted s rest, rfl⟩

theorem Writes.number {n : Bool} {c : Nat} {e : Int} (h : (Decimal.finite n c e).Moderate)
    (hr : Separates rest) : ∃ d, (Decimal.finite n c e).Same d ∧
      Writes .operand (Decimal.signText n ++ Binary64.positionalText c e) rest (.number d) := by
  obtain ⟨c', e', hspells, hvalue⟩ := spells_plainNumber c e hr
  cases n with
  | false =>
    refine ⟨.finite false c' e', ⟨_, ⟨_, _, _, rfl, rfl⟩, ⟨_, _, _, rfl, ?_⟩⟩, ?_⟩
    · exact hvalue
    · exact .primary ⟨.number (.finite false c' e'), hspells, rfl⟩
  | true =>
    have hm : (Decimal.finite false c' e').Moderate := h.of_magnitude hvalue
    obtain ⟨d, hd, hsame⟩ := hm.negated
    have hbuild : (Phrase.negative (.finite false c' e')).build Decimal.negated? =
        some (.number d) := by
      rw [Phrase.build, hd]
      rfl
    refine ⟨d, ⟨_, ⟨_, _, _, rfl, rfl⟩, hvalue ▸ hsame⟩, .primary ⟨_, ?_, hbuild⟩⟩
    exact (spells_plain (s := .minus) rfl _).append hspells

theorem Writes.operand {s : String} (h : parseOperand s = .ok e) (hr : Separates rest) :
    Writes .operand s.toList rest e := by
  obtain ⟨ts, ht, p, hp, -, hb⟩ := built_of_parseOperand h
  exact ⟨p, hp ▸ spells_of_trim ht hr, hb⟩

theorem Writes.compare {op : CompareOp}
    (hl : Writes .operand cs (spacedText (.compare op) ++ ds ++ rest) e)
    (hr : Writes .operand ds rest e')
    (ht : op.isOrdering = true → e.type = .number ∧ e'.type = .number) :
    Writes .comparison (cs ++ (spacedText (.compare op) ++ ds)) rest (.compare op e e') := by
  obtain ⟨p, hp, hpb⟩ := hl
  obtain ⟨q, hq, hqb⟩ := hr
  refine ⟨.compare op p q, hp.append ((spells_spaced rfl _).append hq), ?_⟩
  simp only [Phrase.build, hpb, hqb, Option.bind_some]
  exact if_pos ht

end

end

namespace Phrase

def thenCall : Phrase .operand .more → Phrase .operand .more → Phrase .operand .more
  | .noCall, last => last
  | .includes needle calls, last => .includes needle (calls.thenCall last)
  | .changeCase upper calls, last => .changeCase upper (calls.thenCall last)

theorem yield_thenCall (calls last : Phrase .operand .more) :
    (calls.thenCall last).yield = calls.yield ++ last.yield := by
  fun_induction thenCall calls last with
  | case1 last => rfl
  | case2 needle calls last ih => simp [yield, ih]
  | case3 upper calls last ih => simp [yield, ih]

theorem build_thenCall [Pattern.Engine] (negate : Decimal → Option Decimal)
    (calls last : Phrase .operand .more) (e : Expr) : (calls.thenCall last).build negate e =
      (calls.build negate e).bind (last.build negate) := by
  fun_induction thenCall calls last generalizing e with
  | case1 last => rfl
  | case2 needle calls last ih =>
    simp only [build]
    cases needle.build negate with
    | none => rfl
    | some n =>
      rw [Option.bind_some, Option.bind_some]
      split
      · exact ih _
      · rfl
  | case3 upper calls last ih =>
    simp only [build]
    split
    · exact ih _
    · rfl

end Phrase

section
variable [Pattern.Engine]

section
variable {cs ds rest : List Char} {e target : Expr}

theorem Writes.thenCall (last : Phrase .operand .more)
    (h : Writes .operand cs (ds ++ rest) target) (hs : Spells ds last.yield rest)
    (hb : last.build Decimal.negated? target = some e) : Writes .operand (cs ++ ds) rest e := by
  obtain ⟨o, ho, hob⟩ := h
  cases o with
  | called p calls =>
    refine ⟨.called p (calls.thenCall last), ?_, ?_⟩
    · have hyield : (Phrase.called p (calls.thenCall last)).yield =
          (Phrase.called p calls).yield ++ last.yield := by
        simp [Phrase.yield, Phrase.yield_thenCall]
      rw [hyield]
      exact ho.append hs
    · obtain ⟨first, hp, hcalls⟩ := Phrase.build_called.mp hob
      have hall : (calls.thenCall last).build Decimal.negated? first = some e := by
        rw [Phrase.build_thenCall, hcalls]
        exact hb
      exact Phrase.build_called.mpr ⟨first, hp, hall⟩

theorem Writes.includes {needle : String}
    (h : Writes .operand cs (".includes".toList ++ inBrackets (quoted needle) ++ rest) target)
    (ht : target.type = .text) :
    Writes .operand (cs ++ (".includes".toList ++ inBrackets (quoted needle))) rest
      (.includes target (.text needle)) := by
  have hname : Spells ".includes".toList [.symbol .dot, .word "includes"]
      (inBrackets (quoted needle) ++ rest) :=
    spells_of_terminals (by decide +kernel) (separates_openParen _)
  have hcall := hname.append (spells_inBrackets (spells_quoted needle (')' :: rest)))
  refine h.thenCall (.includes (.called (.text needle) .noCall) .noCall) ?_ ?_
  · simpa [Phrase.yield] using hcall
  · exact if_pos ⟨ht, rfl⟩

theorem Writes.search {body flags : String} {pattern : Pattern}
    (h : Writes .operand cs (')' :: rest) target) (ht : target.type = .text)
    (hp : compilePattern body flags = .ok pattern) :
    Writes .operand ("new RegExp".toList ++
      (inBrackets (quoted body ++ (", ".toList ++ quoted flags)) ++
        (".test".toList ++ inBrackets cs))) rest (.search pattern target) := by
  obtain ⟨p, hspells, hbuild⟩ := h
  have hnew : Spells "new RegExp".toList [.word "new", .word "RegExp"]
      (inBrackets (quoted body ++ (", ".toList ++ quoted flags)) ++
        (".test".toList ++ inBrackets cs) ++ rest) :=
    spells_of_terminals (by decide +kernel) (separates_openParen _)
  have hcomma := (spells_plain (s := .comma) rfl _).append
    (spells_space (quoted flags ++ ')' :: (".test".toList ++ inBrackets cs ++ rest)))
  have htest : Spells ".test".toList [.symbol .dot, .word "test"] (inBrackets cs ++ rest) :=
    spells_of_terminals (by decide +kernel) (separates_openParen _)
  have harguments := (spells_quoted body _).append (hcomma.append (spells_quoted flags _))
  have hall := hnew.append ((spells_inBrackets harguments).append
    (htest.append (spells_inBrackets hspells)))
  refine .primary ⟨.newPattern body (some flags) p, ?_, ?_⟩
  · simpa [Phrase.yield, Phrase.testOf, Phrase.flagsYield] using hall
  · exact Phrase.build_newPattern.mpr ⟨target, pattern, hbuild, hp, ht, rfl⟩

theorem Writes.alone (h : Writes .operand cs rest e) : Writes .comparison cs rest e := by
  obtain ⟨o, ho, hb⟩ := h
  exact ⟨.alone o, ho, hb⟩

theorem Writes.run (kind : Join) (h : Writes (Construct.part kind) cs rest e) :
    Writes (.run kind) cs rest e := by
  obtain ⟨p, hp, hb⟩ := h
  refine ⟨.run p .noPart, ?_, Phrase.build_run.mpr ⟨e, hb, rfl⟩⟩
  simpa [Phrase.yield] using hp

theorem Writes.part (kind : Join) (h : Writes .comparison cs rest e) :
    Writes (Construct.part kind) cs rest e := by
  cases kind with
  | all => exact h
  | any => exact h.run .all

theorem Writes.inBrackets (h : Writes (.run .any) cs (')' :: rest) e) :
    Writes .comparison (inBrackets cs) rest e := by
  obtain ⟨p, hp, hb⟩ := h
  have hgroup : Writes .primary (Condition.inBrackets cs) rest e :=
    ⟨.group p, spells_inBrackets hp, hb⟩
  exact hgroup.primary.alone

end

def Renders (cs : List Char) (e : Expr) : Prop :=
  ∀ rest, Separates rest → ∃ e', Writes (.run .any) cs rest e' ∧ e.Alike e'

theorem Renders.inBrackets {cs : List Char} {e : Expr} (h : Renders cs e) (kind : Join)
    (rest : List Char) :
    ∃ e', Writes (Construct.part kind) (inBrackets cs) rest e' ∧ e.Alike e' := by
  obtain ⟨e', hw, ha⟩ := h (')' :: rest) (separates_closeParen rest)
  exact ⟨e', hw.inBrackets.part kind, ha⟩

theorem renders_parts (kind : Join) {texts : List (List Char)} {parts : List Expr}
    (h : List.Forall₂ Renders texts parts) {left left' : Expr} (hl : left.Alike left')
    (rest : List Char) :
    ∃ (m : Phrase (.run kind) .more) (e : Expr),
      Spells (laterText kind texts) m.yield rest ∧
      m.build Decimal.negated? left' = some e ∧ (Tree.joinParts kind left parts).Alike e := by
  induction h generalizing left left' with
  | nil => exact ⟨.noPart, left', .nil rest, rfl, hl⟩
  | @cons text part texts parts hpart _ ih =>
    obtain ⟨e', ⟨p, hp, hpb⟩, ha⟩ := hpart.inBrackets kind (laterText kind texts ++ rest)
    obtain ⟨m, e, hm, hmb, hall⟩ := ih (.join kind hl ha)
    refine ⟨.part kind p m, e, ?_, ?_, hall⟩
    · have hfirst := (spells_spaced (s := .join kind) rfl _).append hp
      rw [laterText, List.flatMap_cons]
      exact hfirst.append hm
    · exact Phrase.build_part.mpr ⟨e', hpb, hmb⟩

theorem renders_joined (kind : Join) {text : List Char} {texts : List (List Char)} {first : Expr}
    {parts : List Expr} (hf : Renders text first) (h : List.Forall₂ Renders texts parts) :
    Renders (joinedText kind (text :: texts)) (Tree.joinParts kind first parts) := by
  intro rest _
  obtain ⟨e', ⟨p, hp, hpb⟩, ha⟩ := hf.inBrackets kind (laterText kind texts ++ rest)
  obtain ⟨m, e, hm, hmb, hall⟩ := renders_parts kind h ha rest
  have hrun : Writes (.run kind) (joinedText kind (text :: texts)) rest e :=
    ⟨.run p m, hp.append hm, Phrase.build_run.mpr ⟨e', hpb, hmb⟩⟩
  refine ⟨e, ?_, hall⟩
  cases kind with
  | all => exact hrun.run .any
  | any => exact hrun

theorem compile_eq_ok_iff {source : String} {p : Predicate} :
    compile source = .ok p ↔
      ∃ e, parseCondition source = .ok e ∧ ⟨Text.trimmed source, e⟩ = p := by
  unfold compile
  cases parseCondition source <;> simp

theorem Spells.compile {cs : List Char} {q : Phrase (.run .any) .whole}
    (h : Spells cs q.yield []) :
    ∃ ts, Condition.tokens cs = .ok ts ∧ q.yield = terminals ts ∧
      ∀ p, Condition.compile (String.ofList cs) = .ok p ↔
        ∃ e, q.build Decimal.negated? = some e ∧ q.depth ≤ maxNesting ∧
          p = ⟨Text.trimmed (String.ofList cs), e⟩ := by
  obtain ⟨ts, ht, hw⟩ := h.tokens
  have ht' : Condition.tokens (String.ofList cs).toList = .ok ts := by rw [String.toList_ofList, ht]
  refine ⟨ts, ht, hw.symm, fun p => ?_⟩
  rw [compile_eq_ok_iff]
  constructor
  · rintro ⟨e, he, rfl⟩
    obtain ⟨q', hq', hd, hb⟩ := (parseCondition_eq_ok_iff ht').mp he
    obtain rfl : q' = q := Phrase.eq_of_yield (hq'.trans hw)
    exact ⟨e, hb, hd, rfl⟩
  · rintro ⟨e, hb, hd, rfl⟩
    exact ⟨e, (parseCondition_eq_ok_iff ht').mpr ⟨q, hw.symm, hd, hb⟩, rfl⟩

theorem Writes.compile {cs : List Char} {e : Expr} (h : Writes (.run .any) cs [] e) :
    ∃ ts, ∃ q : Phrase (.run .any) .whole, tokens cs = .ok ts ∧ q.yield = terminals ts ∧
      ∀ p, Condition.compile (String.ofList cs) = .ok p ↔
        q.depth ≤ maxNesting ∧ p = ⟨Text.trimmed (String.ofList cs), e⟩ := by
  obtain ⟨q, hq, hb⟩ := h
  obtain ⟨ts, ht, hw, hcompile⟩ := hq.compile
  refine ⟨ts, q, ht, hw, fun p => ?_⟩
  rw [hcompile]
  constructor
  · rintro ⟨e', he', hd, rfl⟩
    obtain rfl : e = e' := Option.some.inj (hb.symm.trans he')
    exact ⟨hd, rfl⟩
  · rintro ⟨hd, rfl⟩
    exact ⟨e, hb, hd, rfl⟩

end

end LedgerRules.Condition
