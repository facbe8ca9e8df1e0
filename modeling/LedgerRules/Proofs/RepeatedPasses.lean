import Mathlib.Logic.Function.Iterate
import LedgerRules.Pattern.Builtin
import LedgerRules.Proofs.RuleAnswers

/-! A pass over transactions that follows another. A pass gives every transaction the category of
the first rule that matches it, once for every place where it stands in the list. A second pass
changes nothing exactly when no transaction would get another category from where the first one left
it; it can do so if a rule reads the category that another one sets. -/

namespace LedgerRules.Reapply
open Cache (Sound KeysAgree RuleOver)

abbrev Heap := Nat → Transaction

namespace Heap

def places (heap : Heap) (refs : List Nat) : List Place :=
  refs.map fun n => ⟨n, .transaction (heap n)⟩

def after (heap : Heap) (set : Assignments) : Heap := fun n =>
  match set.lookup n with
  | some g => { heap n with category := g }
  | none => heap n

theorem now_place (heap : Heap) (set : Assignments) (n : Nat) :
    Place.now set ⟨n, .transaction (heap n)⟩ = .transaction (heap.after set n) := by
  unfold Place.now after
  cases set.lookup n <;> rfl

theorem after_cons (heap : Heap) (set : Assignments) (n : Nat) (g : String) :
    heap.after ((n, g) :: set) =
      Function.update (heap.after set) n { heap.after set n with category := g } := by
  funext m
  by_cases h : m = n
  · subst h
    rw [Function.update_self]
    cases hm : set.lookup m <;> simp [after, hm]
  · rw [Function.update_of_ne h, after, after, List.lookup_cons, beq_eq_false_iff_ne.mpr h]

def sweep (step : Transaction → Transaction) : List Nat → Heap → Heap
  | [], heap => heap
  | n :: rest, heap => sweep step rest (Function.update heap n (step (heap n)))

theorem sweep_apply (step : Transaction → Transaction) (refs : List Nat) (heap : Heap) (n : Nat) :
    heap.sweep step refs n = step^[refs.count n] (heap n) := by
  induction refs generalizing heap with
  | nil => rfl
  | cons m rest ih =>
    rw [sweep, ih]
    by_cases h : n = m
    · subst h
      rw [Function.update_self, List.count_cons_self, Function.iterate_succ_apply]
    · rw [Function.update_of_ne h, List.count_cons_of_ne (Ne.symm h)]

theorem sweep_fixed {step : Transaction → Transaction} {refs : List Nat} {heap : Heap}
    (h : ∀ n ∈ refs, step (heap n) = heap n) : heap.sweep step refs = heap := by
  funext n
  rw [sweep_apply]
  by_cases hn : n ∈ refs
  · exact Function.iterate_fixed (h n hn) _
  · rw [List.count_eq_zero.mpr hn, Function.iterate_zero_apply]

end Heap

/-- The transaction with the category of the first rule that matches it. -/
def advance [Pattern.Engine] (rules : List RuleInput) (t : Transaction) : Transaction :=
  match firstCategory rules (.transaction t) with
  | some g => { t with category := g }
  | none => t

variable {T : Value → Prop} {rules : List RuleInput} {ids : Nat → String} {set : Assignments}
  {c : Cache} {heap : Heap}

/-- All trees among the rules are out of `T`. -/
def TreesOver (T : Value → Prop) (rules : List RuleInput) : Prop :=
  ∀ input ∈ rules, ∀ members, input.body = some (.tree members) → T (.map members)

theorem prepare_over (h : TreesOver T rules) (ids : Nat → String) :
    ∀ q ∈ (prepare ids rules).rules, RuleOver T q.1 := by
  intro q hq members hd
  obtain ⟨-, input, hi, hbody⟩ := mem_prepare hq
  exact h input hi members (hbody.trans (congrArg some hd))

theorem newCategory_transaction (t : Transaction) (g : String) :
    newCategory (.transaction t) (some g) = .ok (if t.category = g then none else some g) := by
  by_cases h : t.category = g <;> simp [newCategory, Subject.category?, Subject.hasCategory, h]

section
variable [Pattern.Engine]

theorem decision_advances (hc : Sound T c) (hT : KeysAgree T) (hr : TreesOver T rules) {n : Nat}
    {category : Option String}
    (h : decision (fun _ => Clock.unlimited) (prepare ids rules).rules set c
      ⟨n, .transaction (heap n)⟩ = .ok category) :
    heap.after (assign set ⟨n, .transaction (heap n)⟩ category) =
        Function.update (heap.after set) n (advance rules (heap.after set n)) ∧
      (category.isSome = false ↔ advance rules (heap.after set n) = heap.after set n) := by
  obtain ⟨target, ht, hg⟩ := decision_eq_ok h
  rw [heap.now_place] at ht hg
  obtain rfl := scan_target hc hT (prepare_over hr ids) ht
  rw [firstAnswer_eq] at hg
  unfold advance
  cases hf : firstCategory rules (.transaction (heap.after set n)) with
  | none =>
    rw [hf] at hg
    obtain rfl := Except.ok.inj hg
    exact ⟨(Function.update_eq_self n _).symm, by simp⟩
  | some g =>
    rw [hf, newCategory_transaction, Except.ok.injEq] at hg
    dsimp only
    by_cases hsame : (heap.after set n).category = g
    · rw [if_pos hsame] at hg
      subst hg
      have hfixed : { heap.after set n with category := g } = heap.after set n := by rw [← hsame]
      rw [hfixed]
      exact ⟨(Function.update_eq_self n _).symm, by simp⟩
    · rw [if_neg hsame] at hg
      subst hg
      refine ⟨heap.after_cons set n g, ?_⟩
      have hmoved : { heap.after set n with category := g } ≠ heap.after set n := by
        intro heq
        exact hsame (congrArg Transaction.category heq).symm
      simp [hmoved]

theorem walk_cache {clock : Clock} {qs : List (Rule × String)} {ps : List Place} (hc : Sound T c)
    (hr : ∀ q ∈ qs, RuleOver T q.1) : Sound T (walk (fun _ _ => clock) qs ps set c).cache := by
  induction ps generalizing set c with
  | nil => exact hc
  | cons p rest ih =>
    have hscan : Sound T (scan (fun _ => clock) (Place.now set p) qs c).cache :=
      scan_cache hc hr (Place.now set p)
    rw [walk]
    dsimp only
    split
    · exact hscan
    · exact ih hscan

/-- A walk is a sweep, and it flags nothing exactly when no transaction moves. -/
structure Swept (rules : List RuleInput) (refs : List Nat) (before after : Heap)
    (flags : List Bool) : Prop where
  heap : after = before.sweep (advance rules) refs
  length : flags.length = refs.length
  idle : (∀ flag ∈ flags, flag = false) ↔ ∀ n ∈ refs, advance rules (before n) = before n

theorem walk_swept (hc : Sound T c) (hT : KeysAgree T) (hr : TreesOver T rules) {refs : List Nat}
    {flags : List Bool}
    (h : (walk (fun _ _ => Clock.unlimited) (prepare ids rules).rules (heap.places refs) set
      c).changed = .ok flags) :
    Swept rules refs (heap.after set)
      (heap.after (walk (fun _ _ => Clock.unlimited) (prepare ids rules).rules (heap.places refs)
        set c).set) flags := by
  induction refs generalizing set c flags with
  | nil =>
    obtain rfl := Except.ok.inj h
    exact ⟨rfl, rfl, by simp⟩
  | cons n rest ih =>
    rw [Heap.places, List.map_cons] at h ⊢
    cases hd : decision (fun _ => Clock.unlimited) (prepare ids rules).rules set c
        ⟨n, .transaction (heap n)⟩ with
    | error f => simp [walk_cons_error (fun _ _ => Clock.unlimited) hd] at h
    | ok category =>
      obtain ⟨hheap, hidle⟩ := decision_advances hc hT hr hd
      obtain ⟨hchanged, hset, -⟩ := walk_cons_ok (fun _ _ => Clock.unlimited) hd
        (Heap.places heap rest)
      rw [← Heap.places] at h ⊢
      rw [hchanged] at h
      obtain ⟨later, hlater, rfl⟩ := map_eq_ok.mp h
      have hrest := ih (scan_cache hc (prepare_over hr ids) _) hlater
      rw [hheap] at hrest
      rw [hset]
      refine ⟨hrest.heap, by simp [hrest.length], ?_⟩
      rw [List.forall_mem_cons, List.forall_mem_cons, hidle, hrest.idle]
      -- Where the first transaction stays as it is, so do all that the others start from.
      refine and_congr_right fun hfixed => ?_
      rw [hfixed, Function.update_eq_self]

end

theorem changedIds_eq_nil {refs : List Nat} {flags : List Bool}
    (h : flags.length = refs.length) :
    changedIds (heap.places refs) flags = .ok [] ↔ ∀ flag ∈ flags, flag = false := by
  induction refs generalizing flags with
  | nil =>
    obtain rfl := List.length_eq_zero_iff.mp h
    simp [Heap.places, changedIds]
  | cons n rest ih =>
    cases flags with
    | nil => simp at h
    | cons flag later =>
      have hlength : later.length = rest.length := Nat.succ.inj h
      rw [Heap.places, List.map_cons, List.forall_mem_cons]
      cases flag with
      | false =>
        rw [changedIds, ← Heap.places, ih hlength]
        simp
      | true =>
        have hnonempty : ∀ x : Except PassFailure (List String),
            x.map ((heap n).id :: ·) ≠ .ok [] := by
          intro x
          cases x <;> simp [Except.map]
        exact iff_of_false (hnonempty _) (by simp)

section
variable [Pattern.Engine]

/-- A pass that ends is a sweep, it names nothing exactly when no transaction moves, and its cache
is as good as the one it began with. -/
theorem reapply_swept (hc : Sound T c) (hT : KeysAgree T) (hr : TreesOver T rules)
    {refs : List Nat} {workers : Int} {changed : List String} :
    let pass := reapply (fun _ _ => Clock.unlimited) ids (heap.places refs) rules workers c
    pass.changedIds = .ok changed →
      heap.after pass.set = heap.sweep (advance rules) refs ∧ Sound T pass.cache ∧
        (changed = [] ↔ ∀ n ∈ refs, advance rules (heap n) = heap n) := by
  intro pass h
  cases hw : (walk (fun _ _ => Clock.unlimited) (prepare ids rules).rules (heap.places refs) []
      c).changed with
  | error failure => simp [pass, reapply, hw, Except.bind] at h
  | ok flags =>
    have hids : changedIds (heap.places refs) flags = .ok changed := by
      simpa [pass, reapply, hw, Except.bind] using h
    have hswept := walk_swept hc hT hr hw
    refine ⟨hswept.heap, walk_cache hc (prepare_over hr ids), ?_⟩
    have hidle : (∀ flag ∈ flags, flag = false) ↔ ∀ n ∈ refs, advance rules (heap n) = heap n :=
      hswept.idle
    have hnil : changedIds (heap.places refs) flags = .ok [] ↔ ∀ flag ∈ flags, flag = false :=
      changedIds_eq_nil hswept.length
    rw [← hidle, ← hnil, hids, Except.ok.injEq]

theorem advance_fields {f : Field} (h : f ≠ .category) (t : Transaction) :
    (Subject.transaction (advance rules t)).fields f = (Subject.transaction t).fields f := by
  unfold advance
  split
  · cases f with
    | category => exact absurd rfl h
    | _ => rfl
  · rfl

theorem advance_advance (h : ∀ q ∈ usable rules, .category ∉ q.1.fieldsRead) (t : Transaction) :
    advance rules (advance rules t) = advance rules t := by
  have hsame : firstCategory rules (.transaction (advance rules t)) =
      firstCategory rules (.transaction t) := by
    refine firstCategory_congr fun q hq f hf => advance_fields ?_ t
    rintro rfl
    exact h q hq hf
  cases ht : firstCategory rules (.transaction t) with
  | none =>
    have hstay : advance rules t = t := by rw [advance, ht]
    rw [hstay, hstay]
  | some g =>
    have hmove : advance rules t = { t with category := g } := by rw [advance, ht]
    rw [ht] at hsame
    rw [advance, hsame, hmove]

/-- After a first pass a transaction has taken a step for every place where it stands. A second pass
over the same transactions with the same rules changes nothing exactly when no transaction would
take another step; rules that do not read the category make sure of that. -/
theorem second_pass_idle_iff {uses : List Cache.Use} {ids' : Nat → String} {refs : List Nat}
    {workers workers' : Int} {changed changed' : List String} (hT : KeysAgree T)
    (hu : ∀ u ∈ uses, u.Over T) (hr : TreesOver T rules) :
    let first := reapply (fun _ _ => Clock.unlimited) ids (heap.places refs) rules workers
      (Cache.after uses)
    let between := heap.after first.set
    let second := reapply (fun _ _ => Clock.unlimited) ids' (between.places refs) rules workers'
      first.cache
    first.changedIds = .ok changed → second.changedIds = .ok changed' →
      (∀ n, between n = (advance rules)^[refs.count n] (heap n)) ∧
      (changed' = [] ∧ between.after second.set = between ↔
        ∀ n ∈ refs, advance rules (between n) = between n) ∧
      ((∀ q ∈ usable rules, .category ∉ q.1.fieldsRead) →
        ∀ n ∈ refs, advance rules (between n) = between n) := by
  intro first between second h h'
  obtain ⟨hfirst, hcache, -⟩ := reapply_swept (Cache.sound_after hu) hT hr h
  obtain ⟨hsecond, -, hidle⟩ := reapply_swept hcache hT hr h'
  have hbetween : ∀ n, between n = (advance rules)^[refs.count n] (heap n) := by
    intro n
    rw [← Heap.sweep_apply, ← hfirst]
  refine ⟨hbetween, ?_, ?_⟩
  · constructor
    · intro hnothing
      exact hidle.mp hnothing.1
    · intro hfixed
      refine ⟨hidle.mpr hfixed, ?_⟩
      exact hsecond.trans (Heap.sweep_fixed hfixed)
  · intro hread n hn
    obtain ⟨k, hk⟩ := Nat.exists_eq_succ_of_ne_zero (List.count_pos_iff.mpr hn).ne'
    rw [hbetween, hk, Function.iterate_succ_apply', advance_advance hread]

end

def shopPurchase : Transaction :=
  { id := "1", merchant := "Shop", amount := .finite false 5 0, date := .midnight .first,
    account := "Cash", category := defaultCategory }

open scoped Pattern.Builtin in
theorem second_pass_idle_iff_shop :
    let rules : List RuleInput := [.rule (Rule.ofText "r" "transaction.merchant === \"Shop\" -> A")]
    let heap : Heap := fun _ => shopPurchase
    let first := reapply (fun _ _ => Clock.unlimited) (fun _ => "") (heap.places [0]) rules 1
      (Cache.after [])
    let between := heap.after first.set
    let second := reapply (fun _ _ => Clock.unlimited) (fun _ => "") (between.places [0]) rules 1
      first.cache
    first.changedIds = .ok ["1"] ∧ (between 0).category = "A" ∧
      second.changedIds = .ok [] ∧ between.after second.set = between := by
  intro rules heap first between second
  have hfirst : first.changedIds = .ok ["1"] := by decide +kernel
  have hsecond : second.changedIds = .ok [] := by decide +kernel
  have hrules : TreesOver (fun _ => False) rules := by
    intro input hi members hbody
    obtain rfl := List.mem_singleton.mp hi
    exact nomatch hbody
  have hagree : KeysAgree fun _ => False := fun _ _ ha => ha.elim
  obtain ⟨-, hidle, hread⟩ := second_pass_idle_iff hagree (by simp) hrules hfirst hsecond
  have hfixed := hread (by decide +kernel)
  exact ⟨hfirst, by decide +kernel, hsecond, (hidle.mpr hfixed).2⟩

open scoped Pattern.Builtin in
/-- A rule that asks for the category that a later one sets finds it in the second pass only. -/
theorem second_pass_moves :
    let rules : List RuleInput :=
      [.rule (Rule.ofText "r1" "transaction.category === \"A\" -> \"B\""),
        .rule (Rule.ofText "r2" "transaction.merchant === \"Shop\" -> \"A\"")]
    let heap : Heap := fun _ => shopPurchase
    let first := reapply (fun _ _ => Clock.unlimited) (fun _ => "") (heap.places [0]) rules 1 .empty
    let between := heap.after first.set
    let second := reapply (fun _ _ => Clock.unlimited) (fun _ => "") (between.places [0]) rules 1
      first.cache
    first.changedIds = .ok ["1"] ∧ (between 0).category = "A" ∧
      second.changedIds = .ok ["1"] ∧ (between.after second.set 0).category = "B" := by
  decide +kernel

end LedgerRules.Reapply
