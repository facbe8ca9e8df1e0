import LedgerRules.Proofs.FieldsRead
import LedgerRules.Proofs.FirstMatch

/-! What a rule answers by its own condition, and what that depends on: the definition of the rule
but not its id, and of the subject the fields that the condition reads. -/

namespace LedgerRules

namespace Rule
variable {r : Rule} {clock : Clock} {s : Subject}

section
variable [Pattern.Engine]

theorem decide_iff (r : Rule) {p : Predicate} :
    (r.decide clock s p).1 = true ↔ p.holds clock s.fields = .ok true := by
  unfold Rule.decide
  split
  next b hb => simp [hb]
  next cause hf => simp [hf]
  next fault _ hf => simp [hf]

theorem answer_unusable (h : r.compiled = .ok none) (clock : Clock) (s : Subject) :
    r.answer clock s = .ok false := by
  rw [answer, h]
  split <;> rfl

theorem answer_usable {p : Predicate} (hr : r.definition.isEmpty = false)
    (h : r.compiled = .ok (some p)) (clock : Clock) (s : Subject) :
    r.answer clock s = .ok (r.decide clock s p).1 := by
  rw [answer, hr, h]
  rfl

theorem evaluate_empty (r : Rule) (clock : Clock) (s : Subject) :
    (r.evaluate clock s .empty).answer = r.answer clock s := by
  -- The only tree that a rule looks up is its own.
  let own (t : Value) : Prop := ∃ members, r.definition = .tree members ∧ t = .map members
  have hagree : Cache.KeysAgree own := by
    intro a b ⟨ms, ha, hms⟩ ⟨ns, hb, hns⟩ _ p hp
    obtain rfl := RuleBody.tree.inj (ha.symm.trans hb)
    rwa [hns, ← hms]
  exact (Cache.sound_empty own).evaluate hagree (fun members hd => ⟨members, hd, rfl⟩) clock s

theorem answer_eq_true_iff :
    (r.answer clock s).toOption = some true ↔
      r.definition.isEmpty = false ∧
        ∃ p, r.compiled = .ok (some p) ∧ p.holds clock s.fields = .ok true := by
  unfold answer
  cases hd : r.definition.isEmpty with
  | true => simp [Except.toOption]
  | false =>
    cases hc : r.compiled with
    | error b => simp [Except.toOption]
    | ok found =>
      cases found with
      | none => simp [Except.toOption]
      | some p => simp [Except.toOption, r.decide_iff]

end

def anonymous (r : Rule) : Rule := { r with id := "" }

theorem anonymous_ofMembers (fresh : String) (members : Members) :
    (ofMembers fresh members).toOption.map anonymous =
      (ofMembers "" members).toOption.map anonymous := by
  unfold ofMembers Record.member
  dsimp only
  cases Members.get? (deriveCategory members) "id" with
  | some v => rfl
  | none =>
    dsimp only
    cases readDefinition (deriveCategory members) <;>
      cases readCategory (deriveCategory members) <;> rfl

theorem anonymous_resolve (fresh : String) (input : RuleInput) :
    (input.resolve fresh).1.map anonymous = (input.resolve "").1.map anonymous := by
  cases input with
  | absent => rfl
  | rule r => rfl
  | record v =>
    have hv : (validate fresh v).toOption.map anonymous =
        (validate "" v).toOption.map anonymous := by
      cases v with
      | map members => exact anonymous_ofMembers fresh members
      | _ => rfl
    unfold RuleInput.resolve
    cases h : validate fresh v <;> cases h' : validate "" v <;> simp_all [Except.toOption]

def usable? (r : Rule) : Option (RuleBody × String) :=
  r.targetCategory.toOption.map (r.definition, ·)

theorem usable?_anonymous (r : Rule) : r.anonymous.usable? = r.usable? := rfl

end Rule

section
variable [Pattern.Engine]

namespace RuleBody

def holdsOn (s : Subject) (d : RuleBody) : Bool :=
  ((⟨"", d, none⟩ : Rule).answer Clock.unlimited s).toOption = some true

def fieldsRead (d : RuleBody) : List Field :=
  match (⟨"", d, none⟩ : Rule).compiled with
  | .ok (some p) => p.root.fieldsRead
  | _ => []

theorem holdsOn_iff {s : Subject} {d : RuleBody} :
    d.holdsOn s = true ↔
      d.isEmpty = false ∧ ∃ p, (⟨"", d, none⟩ : Rule).compiled = .ok (some p) ∧
        p.holds Clock.unlimited s.fields = .ok true := by
  unfold holdsOn
  rw [decide_eq_true_iff, Rule.answer_eq_true_iff]

theorem holdsOn_congr {d : RuleBody} {s s' : Subject}
    (h : ∀ f ∈ d.fieldsRead, s.fields f = s'.fields f) : d.holdsOn s = d.holdsOn s' := by
  rw [Bool.eq_iff_iff, holdsOn_iff, holdsOn_iff]
  refine and_congr_right fun _ => exists_congr fun p => and_congr_right fun hp => ?_
  rw [Predicate.holds_congr fun f hf => h f ?_]
  rw [fieldsRead, hp]
  exact hf

end RuleBody

theorem Rule.answer_iff_holdsOn {r : Rule} {s : Subject} :
    (r.answer Clock.unlimited s).toOption = some true ↔ r.definition.holdsOn s = true := by
  rw [Rule.answer_eq_true_iff, RuleBody.holdsOn_iff]
  exact Iff.rfl

end

namespace Reapply

def usable (rules : List RuleInput) : List (RuleBody × String) :=
  rules.filterMap fun input => (input.resolve "").1.bind Rule.usable?

def firstCategory [Pattern.Engine] (rules : List RuleInput) (s : Subject) : Option String :=
  (usable rules).findSome? fun q => if q.1.holdsOn s then some q.2 else none

theorem prepare_usable (ids : Nat → String) (rules : List RuleInput) :
    (prepare ids rules).rules.map (fun q => (q.1.definition, q.2)) = usable rules := by
  induction rules generalizing ids with
  | nil => rfl
  | cons input rest ih =>
    have hanonymous := Rule.anonymous_resolve (ids 0) input
    have husable : (input.resolve (ids 0)).1.bind Rule.usable? =
        (input.resolve "").1.bind Rule.usable? := by
      have hmap := congrArg (Option.bind · Rule.usable?) hanonymous
      simpa [Option.bind_map, Function.comp_def, Rule.usable?_anonymous] using hmap
    rw [usable, List.filterMap_cons, ← husable, prepare]
    cases hr : input.resolve (ids 0) with
    | mk found reports =>
      cases found with
      | none => exact ih _
      | some r =>
        dsimp only
        cases hc : r.targetCategory with
        | error reason => simpa [Rule.usable?, hc, Except.toOption, usable] using ih _
        | ok category => simpa [Rule.usable?, hc, Except.toOption, usable] using ih _

theorem firstAnswer_eq [Pattern.Engine] (ids : Nat → String) (rules : List RuleInput)
    (s : Subject) :
    firstAnswer Clock.unlimited (prepare ids rules).rules s = firstCategory rules s := by
  rw [firstCategory, ← prepare_usable ids rules, List.findSome?_map, firstAnswer]
  simp only [Rule.answer_iff_holdsOn, Function.comp_def]

theorem firstCategory_congr [Pattern.Engine] {rules : List RuleInput} {s s' : Subject}
    (h : ∀ q ∈ usable rules, ∀ f ∈ q.1.fieldsRead, s.fields f = s'.fields f) :
    firstCategory rules s = firstCategory rules s' := by
  unfold firstCategory
  rw [← List.head?_filterMap, ← List.head?_filterMap]
  refine congrArg List.head? (List.filterMap_congr fun q hq => ?_)
  rw [RuleBody.holdsOn_congr (h q hq)]

end Reapply

end LedgerRules
