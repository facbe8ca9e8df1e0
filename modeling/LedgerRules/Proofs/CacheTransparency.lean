import LedgerRules.Pattern.Builtin
import LedgerRules.Proofs.CacheContents
import LedgerRules.Proofs.TreeKeys

/-! A cache changes no answer, after whatever it was used for, exactly when trees that share a key
compile alike. Trees of plain values do; a tree with a decimal number can share its key with one
that has a text in its place. -/

namespace LedgerRules.Cache
variable {T : Value → Prop} {c : Cache}

inductive Use
  | text (condition : String)
  | tree (t : Value)
  | evaluate (input : RuleInput) (fresh : String) (clock : Clock) (s : Subject)
  | check (definition newCategory : Value)
  | clear

section
variable [Pattern.Engine]

def Use.apply (c : Cache) : Use → Cache
  | text condition => (c.getText condition).cache
  | tree t => (c.getTree t).cache
  | evaluate input fresh clock s => (input.evaluate fresh clock s c).cache
  | check definition newCategory => (Check.definition definition newCategory c).cache
  | clear => c.clear

def after (uses : List Use) : Cache := uses.foldl Use.apply empty

def InputOver (T : Value → Prop) (input : RuleInput) (fresh : String) : Prop :=
  ∀ r, (input.resolve fresh).1 = some r → RuleOver T r

/-- All trees that a use looks up are out of `T`. -/
def Use.Over (T : Value → Prop) : Use → Prop
  | text _ => True
  | tree t => T t
  | evaluate input fresh _ _ => InputOver T input fresh
  | check definition _ => ∀ members, definition = .map members → T definition
  | clear => True

theorem Sound.input_cache (hc : Sound T c) {input : RuleInput} {fresh : String}
    (hi : InputOver T input fresh) (clock : Clock) (s : Subject) :
    Sound T (input.evaluate fresh clock s c).cache := by
  unfold RuleInput.evaluate
  split
  · exact hc
  next r reports hr => exact hc.evaluate_cache (hi r (by rw [hr])) clock s

theorem Sound.check_cache (hc : Sound T c) {d : Value} (newCategory : Value)
    (hd : ∀ members, d = .map members → T d) :
    Sound T (Check.definition d newCategory c).cache := by
  unfold Check.definition
  split
  next s =>
    unfold Check.text
    split
    · exact hc
    next condition category _ => exact hc.getText condition
  next members =>
    unfold Check.tree
    dsimp only
    split <;> exact hc.getTree (hd members rfl)
  · exact hc

theorem Sound.apply (hc : Sound T c) {u : Use} (hu : u.Over T) : Sound T (u.apply c) := by
  cases u with
  | text condition => exact hc.getText condition
  | tree t => exact hc.getTree hu
  | evaluate input fresh clock s => exact hc.input_cache hu clock s
  | check d newCategory => exact hc.check_cache newCategory hu
  | clear => exact sound_clear T c

theorem Sound.foldl (hc : Sound T c) {uses : List Use} (hu : ∀ u ∈ uses, u.Over T) :
    Sound T (uses.foldl Use.apply c) := by
  induction uses generalizing c with
  | nil => exact hc
  | cons u uses ih =>
    rw [List.forall_mem_cons] at hu
    exact ih (hc.apply hu.1) hu.2

theorem sound_after {uses : List Use} (hu : ∀ u ∈ uses, u.Over T) : Sound T (after uses) :=
  (sound_empty T).foldl hu

/-- No use of a cache changes what a later lookup or rule comes to, if all trees are out of `T`. -/
structure Transparent (T : Value → Prop) : Prop where
  text : ∀ uses : List Use, (∀ u ∈ uses, u.Over T) → ∀ condition,
    ((after uses).getText condition).found.map CacheEntry.predicate = Condition.compile condition
  tree : ∀ uses : List Use, (∀ u ∈ uses, u.Over T) → ∀ t, T t →
    ((after uses).getTree t).found.map CacheEntry.predicate = Tree.compile t
  evaluate : ∀ uses : List Use, (∀ u ∈ uses, u.Over T) → ∀ input fresh, InputOver T input fresh →
    ∀ clock s, (input.evaluate fresh clock s (after uses)).answer =
      (input.evaluate fresh clock s empty).answer

theorem transparent_of_keysAgree (hT : KeysAgree T) : Transparent T where
  text uses hu condition := (sound_after hu).getText_found condition
  tree uses hu t ht := (sound_after hu).getTree_found hT ht
  evaluate uses hu input fresh hi clock s := by
    unfold RuleInput.evaluate
    split
    · rfl
    next r reports hr =>
      have hr := hi r (by rw [hr])
      dsimp only
      rw [(sound_after hu).evaluate hT hr, (sound_empty T).evaluate hT hr]

theorem found_after_tree {a b : Value} {p : Predicate} (hp : Tree.compile a = .ok p)
    (hk : Tree.key a = Tree.key b) :
    ((after [.tree a]).getTree b).found.map CacheEntry.predicate = .ok p := by
  cases hka : Tree.key a with
  | error f => simp [Tree.compile, hka] at hp
  | ok k =>
    have hcache : after [.tree a] =
        (empty.getOrCompile ⟨.tree, k⟩ fun _ => Tree.compile a).cache := by
      show (empty.getTree a).cache = _
      rw [getTree, hka]
    have hfind : (after [.tree a]).find? ⟨.tree, k⟩ = some ⟨0, p⟩ := by
      rw [hcache, (getOrCompile_store rfl hp).2, find?_extended, if_pos rfl]
      rfl
    rw [getTree, ← hk, hka]
    dsimp only
    rw [getOrCompile_found, hfind]

theorem keysAgree_of_transparent (h : Transparent T) : KeysAgree T := by
  intro a b ha hb hk p hp
  have hover : ∀ u ∈ [Use.tree a], u.Over T := by
    intro u hu
    rw [List.mem_singleton.mp hu]
    exact ha
  exact (h.tree [.tree a] hover b hb).symm.trans (found_after_tree hp hk)

theorem keysAgree_plain : KeysAgree Value.Plain := by
  intro a b ha hb hk p hp
  cases hka : Tree.key a with
  | error f => simp [Tree.compile, hka] at hp
  | ok k => rw [← Tree.compile_congr ha hb hka (hk.symm.trans hka), hp]

/-- A cache is transparent for a set of trees exactly when trees of the set with one key compile
alike, and it is so for the trees that JSON can write. -/
theorem transparent_iff_keysAgree (T : Value → Prop) :
    (Transparent T ↔ KeysAgree T) ∧ Transparent Value.Plain :=
  ⟨⟨keysAgree_of_transparent, transparent_of_keysAgree⟩,
    transparent_of_keysAgree keysAgree_plain⟩

end

def amountIs (v : Value) : Members :=
  [("operator", .text "==="), ("field", .text "transaction.amount"), ("value", v)]

theorem key_amountIs : Tree.key (.map (amountIs (.text "80"))) =
    Tree.key (.map (amountIs (.decimal (.finite false 80 0)))) := by
  have hdoc : Json.Doc.ofMembers (amountIs (.text "80")) =
      Json.Doc.ofMembers (amountIs (.decimal (.finite false 80 0))) := rfl
  have hcompact : Json.compact (.map (amountIs (.text "80"))) =
      Json.compact (.map (amountIs (.decimal (.finite false 80 0)))) := by
    rw [Json.Doc.compact_inj, Json.Doc.ofValue, Json.Doc.ofValue, hdoc]
  rw [Tree.key, Tree.key, hcompact]
  rfl

theorem compile_amountIs [Pattern.Engine] {v : Value} {k : String} {e : Expr}
    (hk : Tree.key (.map (amountIs v)) = .ok k)
    (he : Tree.build (Condition.maxNesting + 1) [] (.map (amountIs v)) = .ok e) :
    Tree.compile (.map (amountIs v)) = .ok ⟨k, e⟩ := by
  rw [Tree.compile, hk, he]
  rfl

theorem answer_of_tree [Pattern.Engine] {r : Rule} {members : Members} {p : Predicate}
    (clock : Clock) (s : Subject) (hd : r.definition = .tree members) (hm : members.isEmpty = false)
    (h : (c.getTree (.map members)).found.map CacheEntry.predicate = .ok p) :
    (r.evaluate clock s c).answer = .ok (r.decide clock s p).1 := by
  have hfound : (r.predicate c).found = .ok (some p) := by
    rw [Rule.predicate, hd]
    dsimp only
    rw [ofLookup_found, h, Rule.ofCompile]
  rw [Rule.evaluate, hd, RuleBody.isEmpty, hm]
  simp [hfound]

open scoped Pattern.Builtin in
/-- A rule that compares the amount with the number 80 matches, but not once the rule that compares
it with the text was looked up. -/
theorem tree_mistaken :
    let rule : Rule := ⟨"r", .tree (amountIs (.decimal (.finite false 80 0))), some "A"⟩
    let s : Subject := .record (.map [("amount", .decimal (.finite false 80 0))])
    (rule.evaluate Clock.unlimited s empty).answer = .ok true ∧
      (rule.evaluate Clock.unlimited s (after [.tree (.map (amountIs (.text "80")))])).answer =
        .ok false := by
  intro rule s
  obtain ⟨k, hk⟩ : ∃ k, Tree.key (.map (amountIs (.text "80"))) = .ok k := ⟨_, rfl⟩
  have htext : Tree.compile (.map (amountIs (.text "80"))) =
      .ok ⟨k, .compare .same (.field .amount) (.text "80")⟩ :=
    compile_amountIs hk (by decide +kernel)
  have hnumber : Tree.compile (.map (amountIs (.decimal (.finite false 80 0)))) =
      .ok ⟨k, .compare .same (.field .amount) (.number (.finite false 80 0))⟩ :=
    compile_amountIs (key_amountIs ▸ hk) (by decide +kernel)
  have hempty : (empty.getTree (.map (amountIs (.decimal (.finite false 80 0))))).found.map
      CacheEntry.predicate =
        .ok ⟨k, .compare .same (.field .amount) (.number (.finite false 80 0))⟩ := by
    rw [getTree, ← key_amountIs, hk]
    dsimp only
    rw [getOrCompile_found]
    exact hnumber
  constructor
  · rw [answer_of_tree Clock.unlimited s rfl rfl hempty]
    rfl
  · rw [answer_of_tree Clock.unlimited s rfl rfl (found_after_tree htext key_amountIs)]
    rfl

end LedgerRules.Cache
