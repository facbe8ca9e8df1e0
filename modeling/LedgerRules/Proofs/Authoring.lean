import LedgerRules.Pattern.Builtin
import LedgerRules.Proofs.BuiltTrees
import LedgerRules.Proofs.RuleAnswers

/-! What is told of a rule while it is written, against what the rule does when it is evaluated. Of
a text both tell the same. The category of a tree is looked at only while it is written, so a tree
without one is refused there and still matches. -/

namespace LedgerRules

def givenCategory (c : Option String) : Value := (c.map Value.text).getD .null

def authored (d : RuleBody) (c : Option String) : Members :=
  [("rule_definition", d.toValue), ("new_category", givenCategory c)]

/-- Nothing is given beside the definition but blanks. -/
def noCategory (c : Option String) : Bool := (Text.trim (c.getD "").toList).isEmpty

theorem ofMembers_authored (fresh : String) (d : RuleBody) (c : Option String) :
    ∃ r, Rule.ofMembers fresh (authored d c) = .ok r ∧ r.definition = d ∧
      ∀ members, d = .tree members → r.newCategory = c := by
  cases d with
  | tree members =>
    refine ⟨⟨fresh, .tree members, c⟩, ?_, rfl, fun _ _ => rfl⟩
    cases c <;> rfl
  | text s =>
    cases c with
    | some g => exact ⟨⟨fresh, .text s, some g⟩, rfl, rfl, nofun⟩
    | none =>
      cases hs : Definition.split s with
      | error reason =>
        refine ⟨⟨fresh, .text s, none⟩, ?_, rfl, nofun⟩
        simp [Rule.ofMembers, authored, givenCategory, RuleBody.toValue, Rule.deriveCategory,
          Rule.isGiven, Rule.either, Rule.readDefinition, Rule.readCategory, Record.member,
          Members.get?, List.lookup_cons, Value.isNull, hs]
      | ok parts =>
        refine ⟨⟨fresh, .text s, some parts.2⟩, ?_, rfl, nofun⟩
        simp [Rule.ofMembers, authored, givenCategory, RuleBody.toValue, Rule.deriveCategory,
          Rule.isGiven, Rule.either, Rule.readDefinition, Rule.readCategory, Record.member,
          Members.get?, Members.set, List.lookup_cons, Value.isNull, hs]

theorem targetCategory_tree {r : Rule} {members : Members} (hd : r.definition = .tree members) :
    r.targetCategory =
      if noCategory r.newCategory then .error .noTreeCategory
      else .ok (Text.trimmed (r.newCategory.getD "")) := by
  rw [Rule.targetCategory, hd]
  rfl

namespace Check

section
variable [Pattern.Engine]

def onEmpty (d : RuleBody) (c : Option String) : Except CheckFailure String :=
  (Check.definition d.toValue (givenCategory c) .empty).category

theorem onEmpty_text (s : String) (c : Option String) :
    onEmpty (.text s) c =
      match Definition.split s with
      | .error reason => .error (.malformed reason)
      | .ok (condition, category) =>
        match Condition.compile condition with
        | .error failure => .error (.compile failure)
        | .ok _ => .ok category := by
  show (Check.text s .empty).category = _
  unfold Check.text
  cases Definition.split s with
  | error reason => rfl
  | ok parts =>
    have hfound := (Cache.sound_empty fun _ => False).getText_found parts.1
    dsimp only
    rw [← hfound]
    cases (Cache.empty.getText parts.1).found <;> rfl

theorem onEmpty_tree (members : Members) (c : Option String) :
    onEmpty (.tree members) c =
      match Tree.compile (.map members) with
      | .error failure => .error (.compile failure)
      | .ok _ =>
        if noCategory c then .error (.malformed .noTreeCategory)
        else .ok (Text.trimmed (c.getD "")) := by
  show (Check.tree members (givenCategory c) .empty).category = _
  have hagree : Cache.KeysAgree (· = Value.map members) := by
    intro a b ha hb _ p hp
    rwa [hb, ← ha]
  have hfound := (Cache.sound_empty (· = Value.map members)).getTree_found hagree rfl
  obtain ⟨r, hr, hd, hc⟩ := ofMembers_authored "" (.tree members) c
  have hrule : Rule.ofMembers ""
      [("rule_definition", .map members), ("new_category", givenCategory c)] = .ok r := hr
  unfold Check.tree
  dsimp only
  rw [← hfound]
  cases (Cache.empty.getTree (.map members)).found with
  | error failure => rfl
  | ok e =>
    dsimp only [Except.map]
    rw [hrule]
    dsimp only
    rw [targetCategory_tree hd, hc members rfl]
    split <;> rfl

end

end Check

inductive CheckFailure.Refusal : CheckFailure → Prop
  | malformed (reason : Malformed) : Refusal (.malformed reason)
  | compile (e : CompileError) : Refusal (.compile (.error e))

/-- On empty caches the check of a definition and a category agrees with their rule: what it refuses
never matches, and with the category that it tells the rule matches where its condition holds. -/
structure Agrees [Pattern.Engine] (r : Rule) (d : RuleBody) (c : Option String) : Prop where
  refused : ∀ failure, Check.onEmpty d c = .error failure → failure.Refusal →
    ∀ clock s, (r.evaluate clock s .empty).answer = .ok false
  accepted : ∀ g, Check.onEmpty d c = .ok g → r.targetCategory = .ok g ∧
    ∃ p, r.compiled = .ok (some p) ∧ ∀ s, ∃ b,
      (r.evaluate Clock.unlimited s .empty).answer = .ok b ∧
        (b = true ↔ p.holds Clock.unlimited s.fields = .ok true)

variable {r : Rule} {d : RuleBody} {c : Option String}

theorem agrees_of_refused [Pattern.Engine] {failure : CheckFailure}
    (h : Check.onEmpty d c = .error failure) (hr : failure.Refusal → r.compiled = .ok none) :
    Agrees r d c := by
  constructor
  · intro failure' hf hrefusal clock s
    obtain rfl := Except.error.inj (h.symm.trans hf)
    rw [Rule.evaluate_empty, Rule.answer_unusable (hr hrefusal)]
  · intro g hg
    simp [h] at hg

theorem agrees_of_accepted [Pattern.Engine] {g : String} {p : Predicate}
    (h : Check.onEmpty d c = .ok g) (hg : r.targetCategory = .ok g)
    (hr : r.definition.isEmpty = false) (hp : r.compiled = .ok (some p)) : Agrees r d c := by
  constructor
  · intro failure hf
    simp [h] at hf
  · intro g' hg'
    obtain rfl := Except.ok.inj (h.symm.trans hg')
    refine ⟨hg, p, hp, fun s => ⟨(r.decide Clock.unlimited s p).1, ?_, r.decide_iff⟩⟩
    rw [Rule.evaluate_empty, Rule.answer_usable hr hp]

theorem compiled_of_refusal [Pattern.Engine] {f : CompileFailure}
    (hp : r.compiled = Rule.ofCompile (.error f)) (h : (CheckFailure.compile f).Refusal) :
    r.compiled = .ok none := by
  cases h with
  | compile e => exact hp

theorem isEmpty_of_compile [Pattern.Engine] {members : Members} {p : Predicate}
    (h : Tree.compile (.map members) = .ok p) : (RuleBody.tree members).isEmpty = false := by
  cases members with
  | nil =>
    have hroot := Tree.compile_denotes h
    generalize p.root = e at hroot
    cases hroot <;> contradiction
  | cons => rfl

theorem agrees_text [Pattern.Engine] {s : String} (hd : r.definition = .text s)
    (c : Option String) :
    Agrees r (.text s) c := by
  have hcheck := Check.onEmpty_text s c
  cases hs : Definition.split s with
  | error reason =>
    rw [hs] at hcheck
    exact agrees_of_refused hcheck fun _ => by simp [Rule.compiled, hd, hs]
  | ok parts =>
    have hcompiled : r.compiled = Rule.ofCompile (Condition.compile parts.1) := by
      simp [Rule.compiled, hd, hs]
    rw [hs] at hcheck
    dsimp only at hcheck
    cases hp : Condition.compile parts.1 with
    | error f =>
      rw [hp] at hcheck hcompiled
      exact agrees_of_refused hcheck (compiled_of_refusal hcompiled)
    | ok p =>
      rw [hp] at hcheck hcompiled
      refine agrees_of_accepted hcheck ?_ (hd ▸ Rule.split_isEmpty hs) hcompiled
      rw [Rule.targetCategory_text hd, hs]
      rfl

theorem agrees_tree_iff [Pattern.Engine] {members : Members} (hd : r.definition = .tree members)
    (hc : r.newCategory = c) :
    Agrees r (.tree members) c ↔
      (noCategory c = true → ∀ p, Tree.compile (.map members) = .ok p →
        ∀ clock (s : Subject), p.holds clock s.fields ≠ .ok true) := by
  have hcompiled : r.compiled = Rule.ofCompile (Tree.compile (.map members)) := by
    rw [Rule.compiled, hd]
  have hcheck := Check.onEmpty_tree members c
  have htarget := targetCategory_tree hd
  rw [hc] at htarget
  cases hp : Tree.compile (.map members) with
  | error f =>
    rw [hp] at hcheck hcompiled
    refine iff_of_true ?_ (by simp)
    exact agrees_of_refused hcheck (compiled_of_refusal hcompiled)
  | ok p =>
    have hempty : r.definition.isEmpty = false := hd ▸ isEmpty_of_compile hp
    rw [hp] at hcheck hcompiled
    dsimp only at hcheck
    by_cases hblank : noCategory c = true
    · rw [if_pos hblank] at hcheck
      have hanswer (clock : Clock) (s : Subject) :
          (r.evaluate clock s .empty).answer = .ok false ↔ p.holds clock s.fields ≠ .ok true := by
        rw [Rule.evaluate_empty, Rule.answer_usable hempty hcompiled, ne_eq, ← r.decide_iff]
        simp
      constructor
      · intro h _ p' hp' clock s
        obtain rfl := Except.ok.inj hp'
        exact (hanswer clock s).mp (h.refused _ hcheck (.malformed _) clock s)
      · intro h
        constructor
        · intro _ _ _ clock s
          exact (hanswer clock s).mpr (h hblank p rfl clock s)
        · intro g hg
          simp [hcheck] at hg
    · rw [if_neg hblank] at hcheck htarget
      refine iff_of_true ?_ fun h => absurd h hblank
      exact agrees_of_accepted hcheck htarget hempty hcompiled

/-- Whatever is written makes a rule, and the check agrees with it unless it is a tree without a
category that compiles and holds on some subject. -/
theorem check_agrees_iff [Pattern.Engine] (fresh : String) (d : RuleBody) (c : Option String) :
    ∃ r, Rule.ofMembers fresh (authored d c) = .ok r ∧
      (Agrees r d c ↔
        ∀ members p, d = .tree members → noCategory c = true → Tree.compile (.map members) = .ok p →
          ∀ clock (s : Subject), p.holds clock s.fields ≠ .ok true) := by
  obtain ⟨r, hr, hd, hc⟩ := ofMembers_authored fresh d c
  refine ⟨r, hr, ?_⟩
  cases d with
  | text s => exact iff_of_true (agrees_text hd c) nofun
  | tree members =>
    rw [agrees_tree_iff hd (hc members rfl)]
    constructor
    · intro h members' p hm hblank hp
      obtain rfl := RuleBody.tree.inj hm
      exact h hblank p hp
    · exact fun h hblank p hp => h members p rfl hblank hp

open scoped Pattern.Builtin in
/-- A tree without a category is refused as malformed, and its rule matches. -/
theorem uncategorized_tree_matches :
    let tree : Members :=
      [("operator", .text "==="), ("field", .text "transaction.merchant"), ("value", .text "Shop")]
    let shop : Subject := .record (.map [("merchant", .text "Shop")])
    Check.onEmpty (.tree tree) none = .error (.malformed .noTreeCategory) ∧
      ∃ r, Rule.ofMembers "r1" (authored (.tree tree) none) = .ok r ∧
        (r.evaluate Clock.unlimited shop .empty).answer = .ok true := by
  intro tree shop
  have hkey : ∃ k, Tree.key (.map tree) = .ok k := ⟨_, rfl⟩
  obtain ⟨k, hk⟩ := hkey
  have hbuild : Tree.build (Condition.maxNesting + 1) [] (.map tree) =
      .ok (.compare .same (.field .merchant) (.text "Shop")) := by decide +kernel
  have hcompile : Tree.compile (.map tree) =
      .ok ⟨k, .compare .same (.field .merchant) (.text "Shop")⟩ := by
    rw [Tree.compile, hk, hbuild]
    rfl
  refine ⟨by rw [Check.onEmpty_tree, hcompile]; rfl, ⟨"r1", .tree tree, none⟩, rfl, ?_⟩
  have hcompiled : (⟨"r1", .tree tree, none⟩ : Rule).compiled =
      .ok (some ⟨k, .compare .same (.field .merchant) (.text "Shop")⟩) := by
    rw [Rule.compiled]
    dsimp only
    rw [hcompile]
    rfl
  rw [Rule.evaluate_empty, Rule.answer_usable rfl hcompiled]
  rfl

end LedgerRules
