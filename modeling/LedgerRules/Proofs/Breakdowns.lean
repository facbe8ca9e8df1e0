import LedgerRules.Proofs.ConditionGrammar
import LedgerRules.Proofs.TreeKeys

/-! When compiling a condition breaks down instead of faulting. A text breaks down at a character
that looks like a digit and is none, or at a minus sign before a number too large to be negated. A
tree breaks down at an integer too long for a key, at the text of a field, or at a pattern that
exhausts the stack. -/

namespace LedgerRules

theorem exists_cons_split {α : Type} {x : α} {xs : List α} {P : List α → α → Prop} :
    (∃ before y later, x :: xs = before ++ y :: later ∧ P before y) ↔
      P [] x ∨ ∃ before y later, xs = before ++ y :: later ∧ P (x :: before) y := by
  constructor
  · rintro ⟨before, y, later, hsplit, h⟩
    cases before with
    | nil =>
      obtain ⟨rfl, -⟩ := List.cons.inj hsplit
      exact .inl h
    | cons z before =>
      obtain ⟨rfl, htail⟩ := List.cons.inj hsplit
      exact .inr ⟨before, y, later, htail, h⟩
  · rintro (h | ⟨before, y, later, rfl, h⟩)
    · exact ⟨[], x, xs, rfl, h⟩
    · exact ⟨x :: before, y, later, rfl, h⟩

namespace Condition

/-- Reading the text does not come to its end, and not to a fault either. That a pattern exhausts the
stack is a fault of the text. -/
def BreaksDown [Pattern.Engine] (c : Construct) (source : String) : Breakdown → Prop
  | .strayDigit => MeetsStrayDigit (Text.trim source.toList)
  | .numberOverflow =>
    ∃ ts, tokens (Text.trim source.toList) = .ok ts ∧
      Breaks .numberOverflow maxNesting c (terminals ts)
  | .longInteger => False
  | .stackExhausted => False

theorem wholeOperand_gives [Pattern.Engine] {ts : List Token} (fuel : Nat) (he : Ended ts) :
    Gives (wholeOperand fuel) ts fun e w => Built .operand maxNesting e w ∧ w = terminals ts := by
  refine (operand_gives (level_sound fuel maxNesting) he).bind_split ?_
  intro e w rest he hw hb
  refine (expectEnd_gives he).bind ?_
  rintro _ v rest' he' ⟨rfl, hend⟩
  refine .pure he' ?_
  rw [hw, hend, List.append_nil, List.append_nil]
  exact ⟨hb, rfl⟩

theorem parseWith_eq_error_iff {reader : Nat → Reader Expr} {source : String} {f : Failure} :
    parseWith reader source = .error f ↔ ∃ g : Failure, f = g.caught ∧
      (tokens (Text.trim source.toList) = .error g ∨
        ∃ ts, tokens (Text.trim source.toList) = .ok ts ∧
          (reader ts.length).run ts = .error g) := by
  cases ht : tokens (Text.trim source.toList) with
  | error g =>
    have hp : parseWith reader source = .error g.caught := by
      unfold parseWith
      rw [ht]
      rfl
    simp [hp, eq_comm]
  | ok ts =>
    cases hr : (reader ts.length).run ts with
    | ok p => simp [parseWith_eq_ok ht hr, hr]
    | error g => simp [parseWith_eq_error ht hr, hr, eq_comm]

theorem Failure.caught_eq_breakdown {f : Failure} {b : Breakdown} :
    f.caught = .breakdown b ↔ f = .breakdown b ∧ b ≠ .stackExhausted := by
  cases f with
  | fault f => simp [caught]
  | breakdown b' =>
    cases b' <;> simp +contextual [caught, eq_comm]

variable {reader : Nat → Reader Expr} {c : Construct}

section
variable [Pattern.Engine]

theorem parseWith_breakdown_iff
    (hr : ∀ ts b, Ended ts → ((reader ts.length).run ts = .error (.breakdown b) ↔
      Breaks b maxNesting c (terminals ts))) {source : String} {b : Breakdown} :
    parseWith reader source = .error (.breakdown b) ↔ BreaksDown c source b := by
  have htokens : parseWith reader source = .error (.breakdown b) ↔ b ≠ .stackExhausted ∧
      (tokens (Text.trim source.toList) = .error (.breakdown b) ∨
        ∃ ts, tokens (Text.trim source.toList) = .ok ts ∧
          Breaks b maxNesting c (terminals ts)) := by
    rw [parseWith_eq_error_iff]
    constructor
    · rintro ⟨g, hg, h⟩
      obtain ⟨rfl, hb⟩ := Failure.caught_eq_breakdown.mp hg.symm
      exact ⟨hb, h.imp_right fun ⟨ts, ht, hrun⟩ => ⟨ts, ht, (hr ts b (ended_of_tokens ht)).mp hrun⟩⟩
    · rintro ⟨hb, h⟩
      exact ⟨.breakdown b, (Failure.caught_eq_breakdown.mpr ⟨rfl, hb⟩).symm, h.imp_right
        fun ⟨ts, ht, hrun⟩ => ⟨ts, ht, (hr ts b (ended_of_tokens ht)).mpr hrun⟩⟩
  rw [htokens, tokens_breakdown_iff]
  cases b with
  | strayDigit =>
    refine ⟨?_, fun h => ⟨nofun, .inl ⟨rfl, h⟩⟩⟩
    rintro ⟨-, ⟨-, h⟩ | ⟨ts, -, h⟩⟩
    · exact h
    · rcases h.kinds with h | h <;> cases h
  | numberOverflow =>
    refine ⟨?_, fun h => ⟨nofun, .inr h⟩⟩
    rintro ⟨-, ⟨h, -⟩ | h⟩
    · cases h
    · exact h
  | longInteger =>
    refine ⟨?_, False.elim⟩
    rintro ⟨-, ⟨h, -⟩ | ⟨ts, -, h⟩⟩
    · cases h
    · rcases h.kinds with h | h <;> cases h
  | stackExhausted => exact ⟨fun h => h.1 rfl, False.elim⟩

theorem parseCondition_breakdown_iff {source : String} {b : Breakdown} :
    parseCondition source = .error (.breakdown b) ↔ BreaksDown (.run .any) source b :=
  parseWith_breakdown_iff fun _ _ he => wholeCondition_breakdown_iff he

theorem parseOperand_breakdown_iff {source : String} {b : Breakdown} :
    parseOperand source = .error (.breakdown b) ↔ BreaksDown .operand source b :=
  parseWith_breakdown_iff fun _ _ he => wholeOperand_breakdown_iff he

theorem compile_breakdown_iff {source : String} {b : Breakdown} :
    compile source = .error (.breakdown b) ↔ BreaksDown (.run .any) source b := by
  rw [← parseCondition_breakdown_iff, compile]
  cases parseCondition source with
  | ok e => simp
  | error f => cases f <;> simp [CompileFailure.ofCondition]

end

end Condition

namespace Tree

section
variable [Pattern.Engine]

def Exhausts (indices : List Nat) (ms : Members) : Prop :=
  ∃ target body flags, fieldOperand indices ms = .ok target ∧ target.type = .text ∧
    textOf? ((ms.get? "value").getD .null) = some body ∧
    textOf? ((ms.get? "flags").getD (.text "i")) = some flags ∧
    Condition.compilePattern body flags = .error .exhausted

/-- Building a node breaks down at the first field that does, or at a pattern, with all conditions
before it built. -/
inductive BreaksDown (b : Condition.Breakdown) :
    (room : Nat) → (indices : List Nat) → Value → Prop
  | field {room : Nat} {indices : List Nat} {ms : Members} {operator s : String} :
      (ms.get? "operator").bind textOf? = some operator → joinKind? operator = none →
      (ms.get? "field").bind textOf? = some s → (Text.trim s.toList).isEmpty = false →
      Condition.BreaksDown .operand s b → BreaksDown b (room + 1) indices (.map ms)
  | search {room : Nat} {indices : List Nat} {ms : Members} :
      (ms.get? "operator").bind textOf? = some "matches" → Exhausts indices ms →
      b = .stackExhausted → BreaksDown b (room + 1) indices (.map ms)
  | part {room : Nat} {indices : List Nat} {ms : Members} {operator : String} {kind : Join}
      {before later : List Value} {v : Value} :
      (ms.get? "operator").bind textOf? = some operator → joinKind? operator = some kind →
      (ms.get? "conditions").bind itemsOf? = some (before ++ v :: later) →
      (∀ q ∈ before.zipIdx, ∃ e, build room (indices ++ [q.2]) q.1 = .ok e) →
      BreaksDown b room (indices ++ [before.length]) v → BreaksDown b (room + 1) indices (.map ms)

theorem fieldOperand_breakdown_iff {indices : List Nat} {ms : Members} {b : Condition.Breakdown} :
    fieldOperand indices ms = .error (.breakdown b) ↔
      ∃ s, (ms.get? "field").bind textOf? = some s ∧ (Text.trim s.toList).isEmpty = false ∧
        Condition.BreaksDown .operand s b := by
  rw [fieldOperand_eq]
  cases (ms.get? "field").bind textOf? with
  | none => simp [fail]
  | some s =>
    dsimp only
    simp only [← Condition.parseOperand_breakdown_iff, Option.some.injEq, exists_eq_left']
    cases Text.trim s.toList with
    | nil => simp [fail]
    | cons c cs =>
      cases Condition.parseOperand s with
      | ok e => simp
      | error f => cases f <;> simp [fail]

end

theorem searchNode_breakdown_iff [Pattern.Engine] {indices : List Nat} {ms : Members}
    {target : Expr} {body : String} {b : Condition.Breakdown} :
    searchNode indices ms target body = .error (.breakdown b) ↔ b = .stackExhausted ∧
      ∃ flags, textOf? ((ms.get? "flags").getD (.text "i")) = some flags ∧
        Condition.compilePattern body flags = .error .exhausted := by
  rw [searchNode_eq]
  cases textOf? ((ms.get? "flags").getD (.text "i")) with
  | none => simp [fail]
  | some flags =>
    cases hp : Condition.compilePattern body flags with
    | ok p => simp [hp]
    | error f =>
      cases f <;>
        simp [hp, Condition.PatternFailure.failure, CompileFailure.ofCondition, eq_comm]

theorem leaf_breakdown_iff [Pattern.Engine] {indices : List Nat} {ms : Members}
    {operator : String} {b : Condition.Breakdown} :
    leaf indices ms operator = .error (.breakdown b) ↔
      fieldOperand indices ms = .error (.breakdown b) ∨
        operator = "matches" ∧ Exhausts indices ms ∧ b = .stackExhausted := by
  unfold leaf Exhausts
  cases hfield : fieldOperand indices ms with
  | error f =>
    show Except.error f = _ ↔ _
    simp
  | ok target =>
    -- Only the search of a text for a text is left to a pattern; all other nodes are built or fault.
    simp only [bind, Except.bind, literal_eq]
    cases hvalue : textOf? ((ms.get? "value").getD .null) with
    | none =>
      cases ((ms.get? "value").getD .null).number? with
      | none => simp [fail]
      | some d =>
        dsimp only
        repeat' split
        all_goals simp_all [fail, pure, Except.pure]
    | some body =>
      by_cases hop : operator = "matches"
      · subst hop
        by_cases htype : target.type = .text
        · simp [comparison?, htype, searchNode_breakdown_iff, and_comm]
        · simp [comparison?, htype, fail]
      · simp only [hop, decide_false, Bool.or_false, reduceCtorEq, false_and, or_self, iff_false]
        repeat' split
        all_goals simp_all [fail, pure, Except.pure]

theorem mapM_zipIdx_eq_error_iff {ε β : Type} {f : Value × Nat → Except ε β} {vs : List Value}
    {n : Nat} {e : ε} :
    (vs.zipIdx n).mapM f = .error e ↔
      ∃ before v later, vs = before ++ v :: later ∧
        (∀ q ∈ before.zipIdx n, ∃ a, f q = .ok a) ∧ f (v, n + before.length) = .error e := by
  induction vs generalizing n with
  | nil => simp [pure, Except.pure]
  | cons v vs ih =>
    rw [List.zipIdx_cons, List.mapM_cons, exists_cons_split]
    cases hf : f (v, n) with
    | error e' =>
      show Except.error e' = _ ↔ _
      simp [List.zipIdx_cons, hf]
    | ok a =>
      have htail : (do
          let r ← (Except.ok a : Except ε β)
          let rs ← (vs.zipIdx (n + 1)).mapM f
          return r :: rs) = .error e ↔ (vs.zipIdx (n + 1)).mapM f = .error e := by
        cases (vs.zipIdx (n + 1)).mapM f <;> simp [bind, Except.bind, pure, Except.pure]
      rw [htail, ih]
      simp [List.zipIdx_cons, hf, Nat.add_comm, Nat.add_left_comm]

section
variable [Pattern.Engine]

theorem build_leaf {room : Nat} {indices : List Nat} {ms : Members} {operator : String}
    (ho : (ms.get? "operator").bind textOf? = some operator) (hk : joinKind? operator = none) :
    build (room + 1) indices (.map ms) = leaf indices ms operator := by
  rw [build_map, ho]
  dsimp only
  rw [hk]

theorem build_join_error_iff {room : Nat} {indices : List Nat} {ms : Members} {operator : String}
    {kind : Join} {vs : List Value} {f : CompileFailure}
    (ho : (ms.get? "operator").bind textOf? = some operator) (hk : joinKind? operator = some kind)
    (hc : (ms.get? "conditions").bind itemsOf? = some vs) (hvs : vs ≠ []) :
    build (room + 1) indices (.map ms) = .error f ↔
      vs.zipIdx.mapM (fun p => build room (indices ++ [p.2]) p.1) = .error f := by
  obtain ⟨first, rest, rfl⟩ := List.exists_cons_of_ne_nil hvs
  rw [build_map, ho]
  dsimp only
  rw [hk]
  dsimp only
  rw [hc, List.zipIdx_cons, List.mapM_cons, List.zipIdx_succ, List.mapM_map]
  dsimp only
  cases build room (indices ++ [0]) first with
  | error f' =>
    show Except.error f' = _ ↔ Except.error f' = _
    rw [Except.error.injEq, Except.error.injEq]
  | ok e =>
    show _ ↔ (do
      let parts ← rest.zipIdx.mapM fun p : Value × Nat => build room (indices ++ [p.2 + 1]) p.1
      return e :: parts) = .error f
    simp only [bind, Except.bind]
    cases rest.zipIdx.mapM fun p => build room (indices ++ [p.2 + 1]) p.1 <;>
      simp [pure, Except.pure]

theorem build_breakdown_iff {b : Condition.Breakdown} {room : Nat} {indices : List Nat}
    {v : Value} : build room indices v = .error (.breakdown b) ↔ BreaksDown b room indices v := by
  induction room generalizing indices v with
  | zero => exact ⟨fun h => by simp [build, fail] at h, nofun⟩
  | succ room ih =>
    constructor
    · intro h
      by_cases hv : ∃ ms : Members, v = .map ms
      · obtain ⟨ms, rfl⟩ := hv
        cases ho : (ms.get? "operator").bind textOf? with
        | none => simp [build_map, ho, fail] at h
        | some operator =>
          cases hk : joinKind? operator with
          | none =>
            rw [build_leaf ho hk, leaf_breakdown_iff, fieldOperand_breakdown_iff] at h
            rcases h with ⟨s, hs, hne, hb⟩ | ⟨rfl, hexhausts, hb⟩
            · exact .field ho hk hs hne hb
            · exact .search ho hexhausts hb
          | some kind =>
            rcases hc : (ms.get? "conditions").bind itemsOf? with _ | vs
            · simp [build_map, ho, hk, hc, fail] at h
            · have hvs : vs ≠ [] := by
                rintro rfl
                simp [build_map, ho, hk, hc, fail] at h
              rw [build_join_error_iff ho hk hc hvs, mapM_zipIdx_eq_error_iff] at h
              obtain ⟨before, w, later, rfl, hall, hw⟩ := h
              rw [Nat.zero_add] at hw
              exact .part ho hk hc hall (ih.mp hw)
      · rw [build_notMap fun ms hm => hv ⟨ms, hm⟩] at h
        simp [fail] at h
    · intro h
      cases h with
      | field ho hk hs hne hb =>
        rw [build_leaf ho hk, leaf_breakdown_iff, fieldOperand_breakdown_iff]
        exact .inl ⟨_, hs, hne, hb⟩
      | search ho hexhausts hb =>
        rw [build_leaf ho (by decide), leaf_breakdown_iff]
        exact .inr ⟨rfl, hexhausts, hb⟩
      | part ho hk hc hall hw =>
        rw [build_join_error_iff ho hk hc (by simp), mapM_zipIdx_eq_error_iff]
        exact ⟨_, _, _, rfl, hall, by rw [Nat.zero_add]; exact ih.mpr hw⟩

end

theorem key_eq_error {t : Value} {b : Condition.Breakdown} :
    key t = .error b ↔ b = .longInteger ∧ hasLongInteger t = true := by
  unfold key
  cases hasLongInteger t <;> simp [eq_comm]

theorem compile_breakdown_iff [Pattern.Engine] {t : Value} {k : String} (h : key t = .ok k)
    {b : Condition.Breakdown} :
    compile t = .error (.breakdown b) ↔
      BreaksDown b (Condition.maxNesting + 1) [] t := by
  rw [← build_breakdown_iff, compile, h]
  cases build (Condition.maxNesting + 1) [] t <;> simp [Except.map]

end Tree

end LedgerRules
