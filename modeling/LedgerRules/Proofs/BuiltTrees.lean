import LedgerRules.Proofs.Breakdowns

/-! What compiles, and to what: a text has tokens that a phrase derives and builds, and a tree
stands in a relation to its expression, which leaves out the indices that only faults show. -/

namespace LedgerRules
open Numeric

theorem bind_eq_ok {ε α β : Type} {x : Except ε α} {f : α → Except ε β} {b : β} :
    x >>= f = .ok b ↔ ∃ a, x = .ok a ∧ f a = .ok b := by
  cases x <;> simp [bind, Except.bind]

theorem mapError_eq_ok {ε ε' α : Type} {f : ε → ε'} {x : Except ε α} {a : α} :
    x.mapError f = .ok a ↔ x = .ok a := by
  cases x <;> simp [Except.mapError]

section
variable [Pattern.Engine]

namespace Condition

theorem built_of_parseWith {c : Construct} {reader : Nat → Reader Expr} {source : String} {e : Expr}
    (hg : ∀ ts, Ended ts → Gives (reader ts.length) ts fun e w =>
      Built c maxNesting e w ∧ w = terminals ts)
    (h : parseWith reader source = .ok e) :
    ∃ ts, tokens (Text.trim source.toList) = .ok ts ∧ Built c maxNesting e (terminals ts) := by
  have hread : (tokens (Text.trim source.toList) >>= fun ts =>
      (reader ts.length).run ts >>= fun p => pure p.1) = .ok e := mapError_eq_ok.mp h
  obtain ⟨ts, ht, h⟩ := bind_eq_ok.mp hread
  obtain ⟨p, hr, h⟩ := bind_eq_ok.mp h
  obtain rfl := Except.ok.inj h
  obtain ⟨-, w, -, hbuilt, rfl⟩ := hg ts (ended_of_tokens ht) p.1 p.2 hr
  exact ⟨ts, ht, hbuilt⟩

theorem built_of_parseCondition {source : String} {e : Expr} (h : parseCondition source = .ok e) :
    ∃ ts, tokens (Text.trim source.toList) = .ok ts ∧
      Built (.run .any) maxNesting e (terminals ts) :=
  built_of_parseWith (fun ts he => wholeCondition_gives ts.length he) h

theorem built_of_parseOperand {source : String} {e : Expr} (h : parseOperand source = .ok e) :
    ∃ ts, tokens (Text.trim source.toList) = .ok ts ∧ Built .operand maxNesting e (terminals ts) :=
  built_of_parseWith (fun ts he => wholeOperand_gives ts.length he) h

theorem compile_of_yield {source : String} {p : Phrase (.run .any) .whole}
    {e : Expr} (hp : (tokens source.toList).map terminals = .ok p.yield)
    (hd : p.depth ≤ maxNesting) (hb : p.build Decimal.negated? = some e) :
    compile source = .ok ⟨Text.trimmed source, e⟩ := by
  cases h : tokens source.toList with
  | error f =>
    rw [h] at hp
    cases hp
  | ok ts =>
    rw [h] at hp
    have hparse := (parseCondition_eq_ok_iff h).mpr ⟨p, (Except.ok.inj hp).symm, hd, hb⟩
    rw [compile, hparse]

end Condition

end

namespace Tree

inductive LiteralOf : Value → Expr → Prop
  | text (s : String) : LiteralOf (.text s) (.text s)
  | number {v : Value} {d : Decimal} : v.number? = some d → LiteralOf v (.number d)

def textMember (ms : Members) (name : String) : Option String := (ms.get? name).bind textOf?

inductive Node [Pattern.Engine] (below : Value → Expr → Prop) : Value → Expr → Prop
  | compare {ms : Members} {operator s : String} {op : CompareOp} {v : Value}
      {target value : Expr} :
      textMember ms "operator" = some operator → joinKind? operator = none →
      comparison? operator = some op →
      textMember ms "field" = some s → Condition.parseOperand s = .ok target →
      ms.get? "value" = some v → LiteralOf v value →
      (op.isOrdering = true → target.type = .number ∧ value.type = .number) →
      Node below (.map ms) (.compare op target value)
  | contains {ms : Members} {s needle : String} {target : Expr} :
      textMember ms "operator" = some "contains" →
      textMember ms "field" = some s → Condition.parseOperand s = .ok target →
      textMember ms "value" = some needle → target.type = .text →
      Node below (.map ms) (.includes target (.text needle))
  | matches {ms : Members} {s body flags : String} {target : Expr} {pattern : Pattern} :
      textMember ms "operator" = some "matches" →
      textMember ms "field" = some s → Condition.parseOperand s = .ok target →
      textMember ms "value" = some body → target.type = .text →
      textOf? ((ms.get? "flags").getD (.text "i")) = some flags →
      Condition.compilePattern body flags = .ok pattern →
      Node below (.map ms) (.search pattern target)
  | join {ms : Members} {operator : String} {kind : Join} {first : Value} {rest : List Value}
      {e : Expr} {parts : List Expr} :
      textMember ms "operator" = some operator → joinKind? operator = some kind →
      ms.get? "conditions" = some (.list (first :: rest)) →
      below first e → List.Forall₂ below rest parts →
      Node below (.map ms) (joinParts kind e parts)

/-- A tree of at most `room` levels denotes an expression. -/
def Denotes [Pattern.Engine] : (room : Nat) → Value → Expr → Prop
  | 0 => fun _ _ => False
  | room + 1 => Node (Denotes room)

theorem textOf?_eq_some {v : Value} {s : String} (h : textOf? v = some s) : v = .text s := by
  cases v with
  | text s' =>
    obtain rfl := Option.some.inj h
    rfl
  | _ => simp [textOf?] at h

theorem itemsOf?_eq_some {v : Value} {vs : List Value} (h : itemsOf? v = some vs) :
    v = .list vs := by
  cases v with
  | list vs' =>
    obtain rfl := Option.some.inj h
    rfl
  | _ => simp [itemsOf?] at h

theorem literal_eq_ok {indices : List Nat} {v : Value} {e : Expr}
    (h : literal indices v = .ok e) : LiteralOf v e := by
  cases v with
  | text s =>
    obtain rfl := Except.ok.inj h
    exact .text s
  | _ =>
    rw [literal_eq] at h
    dsimp only [textOf?] at h
    split at h
    next d hd =>
      obtain rfl := Except.ok.inj h
      exact .number hd
    next => simp [fail] at h

theorem LiteralOf.text_inv {v : Value} {s : String} (h : LiteralOf v (.text s)) : v = .text s := by
  cases h
  rfl

theorem fieldOperand_eq_ok [Pattern.Engine] {indices : List Nat} {ms : Members} {e : Expr}
    (h : fieldOperand indices ms = .ok e) :
    ∃ s, textMember ms "field" = some s ∧ Condition.parseOperand s = .ok e := by
  rw [fieldOperand_eq] at h
  split at h
  next s hs =>
    split at h
    · simp [fail] at h
    · split at h
      next e' he =>
        obtain rfl := Except.ok.inj h
        exact ⟨s, hs, he⟩
      next => simp [fail] at h
      next => simp at h
  next => simp [fail] at h

theorem searchNode_eq_ok [Pattern.Engine] {indices : List Nat} {ms : Members} {target e : Expr}
    {body : String} (h : searchNode indices ms target body = .ok e) :
    ∃ flags pattern, textOf? ((ms.get? "flags").getD (.text "i")) = some flags ∧
      Condition.compilePattern body flags = .ok pattern ∧ e = .search pattern target := by
  rw [searchNode_eq] at h
  split at h
  next flags hflags =>
    split at h
    next pattern hp => exact ⟨flags, pattern, hflags, hp, (Except.ok.inj h).symm⟩
    next => simp at h
  next => simp [fail] at h

theorem mem_value_of_literal {ms : Members} {value : Expr}
    (h : LiteralOf ((ms.get? "value").getD .null) value) :
    ∃ v, ms.get? "value" = some v ∧ LiteralOf v value := by
  cases hv : ms.get? "value" with
  | none =>
    rw [hv] at h
    cases h with
    | number hd => simp [Value.number?] at hd
  | some v => exact ⟨v, rfl, by simpa [hv] using h⟩

theorem leaf_denotes [Pattern.Engine] {below : Value → Expr → Prop} {indices : List Nat}
    {ms : Members} {operator : String} {e : Expr} (ho : textMember ms "operator" = some operator)
    (hj : joinKind? operator = none)
    (h : leaf indices ms operator = .ok e) : Node below (.map ms) e := by
  unfold leaf at h
  obtain ⟨target, htarget, h⟩ := bind_eq_ok.mp h
  obtain ⟨value, hvalue, h⟩ := bind_eq_ok.mp h
  obtain ⟨s, hs, hparse⟩ := fieldOperand_eq_ok htarget
  obtain ⟨v, hv, hlit⟩ := mem_value_of_literal (literal_eq_ok hvalue)
  split at h
  next op hop =>
    split at h
    next e' hc =>
      obtain rfl := Except.ok.inj h
      obtain ⟨htypes, rfl⟩ := Condition.makeComparison_eq_ok.mp hc
      exact .compare ho hj hop hs hparse hv hlit htypes
    next => simp [fail] at h
  next hop =>
    split at h
    next hname =>
      split at h
      next body htype =>
        obtain rfl := hlit.text_inv
        have hbody : textMember ms "value" = some body := by simp [textMember, hv, textOf?]
        split at h
        next hcontains =>
          obtain rfl := Except.ok.inj h
          exact .contains (hcontains ▸ ho) hs hparse hbody htype
        next hcontains =>
          have hmatches : operator = "matches" := by simpa [hcontains] using hname
          obtain ⟨flags, pattern, hflags, hp, rfl⟩ := searchNode_eq_ok h
          exact .matches (hmatches ▸ ho) hs hparse hbody htype hflags hp
      next => simp [fail] at h
    next => simp [fail] at h

theorem forall₂_of_mapM {ε β : Type} {f : Value × Nat → Except ε β} {R : Value → β → Prop}
    (hf : ∀ v n b, f (v, n) = .ok b → R v b) {vs : List Value} {n : Nat} {bs : List β}
    (h : (vs.zipIdx n).mapM f = .ok bs) : List.Forall₂ R vs bs := by
  induction vs generalizing n bs with
  | nil =>
    obtain rfl := Except.ok.inj h
    exact .nil
  | cons v vs ih =>
    rw [List.zipIdx_cons, List.mapM_cons] at h
    obtain ⟨b, hb, h⟩ := bind_eq_ok.mp h
    obtain ⟨bs', hbs, h⟩ := bind_eq_ok.mp h
    obtain rfl := Except.ok.inj h
    exact .cons (hf v n b hb) (ih hbs)

theorem build_denotes [Pattern.Engine] {room : Nat} {indices : List Nat} {v : Value} {e : Expr}
    (h : build room indices v = .ok e) : Denotes room v e := by
  induction room generalizing indices v e with
  | zero => simp [build, fail] at h
  | succ room ih =>
    by_cases hv : ∃ ms : Members, v = .map ms
    · obtain ⟨ms, rfl⟩ := hv
      rw [build_map] at h
      split at h
      next => simp [fail] at h
      next operator ho =>
        split at h
        next hj => exact leaf_denotes ho hj h
        next kind hj =>
          split at h
          next first rest hc =>
            obtain ⟨w, hw, hitems⟩ := Option.bind_eq_some_iff.mp hc
            obtain rfl := itemsOf?_eq_some hitems
            obtain ⟨e, he, h⟩ := bind_eq_ok.mp h
            obtain ⟨parts, hparts, h⟩ := bind_eq_ok.mp h
            obtain rfl := Except.ok.inj h
            exact .join ho hj hw (ih he) (forall₂_of_mapM (fun v n b hb => ih hb) hparts)
          next => simp [fail] at h
    · rw [build_notMap fun ms hm => hv ⟨ms, hm⟩] at h
      simp [fail] at h

theorem compile_denotes [Pattern.Engine] {tree : Value} {p : Predicate} (h : compile tree = .ok p) :
    Denotes (Condition.maxNesting + 1) tree p.root := by
  unfold compile at h
  split at h
  next => simp at h
  next source hk =>
    cases hb : build (Condition.maxNesting + 1) [] tree with
    | error f => simp [hb, Except.map] at h
    | ok e =>
      rw [hb] at h
      obtain rfl := Except.ok.inj h
      exact build_denotes hb

inductive Compares (d : Decimal) : Value → Prop
  | leaf {ms : Members} {operator : String} {v : Value} :
      textMember ms "operator" = some operator → joinKind? operator = none →
      ms.get? "value" = some v → v.number? = some d → Compares d (.map ms)
  | part {ms : Members} {operator : String} {kind : Join} {vs : List Value} {v : Value} :
      textMember ms "operator" = some operator → joinKind? operator = some kind →
      ms.get? "conditions" = some (.list vs) → v ∈ vs → Compares d v → Compares d (.map ms)

end Tree

end LedgerRules
