import Mathlib.Data.List.Forall2
import LedgerRules.Pattern.Builtin
import LedgerRules.Proofs.CacheTransparency
import LedgerRules.Rule.Reapply

/-! What a pass does to each subject. The first rule that matches it decides, by the condition of
the rule compiled on its own and by the subject as it was before the pass; neither the other
subjects nor the cache they share have a part in it. -/

namespace LedgerRules

namespace Subject

theorem hasCategory_iff {g : String} {v : Value} : hasCategory g v = true ↔ v = .text g := by
  cases v <;> simp [hasCategory]

def SameButCategory : Subject → Subject → Prop
  | transaction t, transaction u => u = { t with category := u.category }
  | record (.map a), record (.map b) =>
    ∀ key, key ≠ "category" → Members.get? a key = Members.get? b key
  | _, _ => False

theorem sameButCategory_setCategory {s : Subject} {v : Value} (h : s.category? = some v)
    (g : String) : s.SameButCategory (s.setCategory g) := by
  cases s with
  | transaction t => rfl
  | record r =>
    cases r <;> simp only [category?, reduceCtorEq] at h
    intro key hkey
    rw [Members.get?_set_other _ _ hkey]

theorem sameButCategory_self {s : Subject} {v : Value} (h : s.category? = some v) :
    s.SameButCategory s := by
  cases s with
  | transaction t => rfl
  | record r =>
    cases r <;> simp only [category?, reduceCtorEq] at h
    exact fun _ _ => rfl

theorem category?_setCategory {s : Subject} {v : Value} (h : s.category? = some v) (g : String) :
    (s.setCategory g).category? = some (.text g) := by
  cases s with
  | transaction t => rfl
  | record r =>
    cases r <;> simp only [category?, reduceCtorEq] at h
    simp [setCategory, category?, Members.get?_set_self]

end Subject

def RuleBody.gives [Pattern.Engine] (s : Subject) : RuleBody → Option String
  | .tree _ => none
  | .text definition =>
    match Definition.split definition with
    | .error _ => none
    | .ok (condition, category) =>
      match Condition.compile condition with
      | .error _ => none
      | .ok p =>
        match p.holds Clock.unlimited s.fields with
        | .ok true => some category
        | _ => none

namespace RuleInput

def body (input : RuleInput) : Option RuleBody := (input.resolve "").1.map Rule.definition

/-- A rule that is no tree, be it that it cannot be read. -/
def TextOnly (input : RuleInput) : Prop := ∀ members, input.body ≠ some (.tree members)

def gives [Pattern.Engine] (s : Subject) (input : RuleInput) : Option String :=
  input.body.bind (RuleBody.gives s)

theorem definition_ofMembers (fresh fresh' : String) (members : Members) :
    (Rule.ofMembers fresh members).toOption.map Rule.definition =
      (Rule.ofMembers fresh' members).toOption.map Rule.definition := by
  unfold Rule.ofMembers Record.member
  dsimp only
  cases Members.get? (Rule.deriveCategory members) "id" with
  | some v => rfl
  | none =>
    dsimp only
    cases Rule.readDefinition (Rule.deriveCategory members) <;>
      cases Rule.readCategory (Rule.deriveCategory members) <;> rfl

theorem definition_resolve (fresh : String) (input : RuleInput) :
    (input.resolve fresh).1.map Rule.definition = input.body := by
  cases input with
  | absent => rfl
  | rule r => rfl
  | record v =>
    have hv : (Rule.validate fresh v).toOption.map Rule.definition =
        (Rule.validate "" v).toOption.map Rule.definition := by
      cases v with
      | map members => exact definition_ofMembers fresh "" members
      | _ => rfl
    unfold body resolve
    cases h : Rule.validate fresh v <;> cases h' : Rule.validate "" v <;>
      simp_all [Except.toOption]

end RuleInput

namespace Rule

theorem targetCategory_text {r : Rule} {definition : String}
    (hd : r.definition = .text definition) :
    r.targetCategory = (Definition.split definition).map (·.2) := by
  rw [targetCategory, hd]

theorem gives_of_malformed [Pattern.Engine] {r : Rule} {reason : Malformed}
    (h : r.targetCategory = .error reason) (s : Subject) : r.definition.gives s = none := by
  cases hd : r.definition with
  | tree members => rfl
  | text definition =>
    rw [targetCategory_text hd] at h
    cases hs : Definition.split definition with
    | ok parts => simp [hs, Except.map] at h
    | error e => simp [RuleBody.gives, hs]

theorem split_isEmpty {definition : String} {parts : String × String}
    (h : Definition.split definition = .ok parts) : (RuleBody.text definition).isEmpty = false := by
  by_cases he : definition = ""
  · rw [he] at h
    simp [Definition.split, Definition.pieces_nil] at h
  · simpa [RuleBody.isEmpty] using he

theorem gives_eq [Pattern.Engine] {r : Rule} {definition g : String}
    (hd : r.definition = .text definition) (hg : r.targetCategory = .ok g) (s : Subject) :
    r.definition.gives s =
      if (r.answer Clock.unlimited s).toOption = some true then some g else none := by
  rw [targetCategory_text hd] at hg
  cases hs : Definition.split definition with
  | error e => simp [hs, Except.map] at hg
  | ok parts =>
    obtain ⟨condition, category⟩ := parts
    obtain rfl : category = g := by simpa [hs, Except.map] using hg
    have hcompiled : r.compiled = ofCompile (Condition.compile condition) := by
      rw [compiled, hd]
      simp only [hs]
    rw [answer, hd, split_isEmpty hs, hcompiled]
    cases hc : Condition.compile condition with
    | error f => cases f <;> simp [RuleBody.gives, hs, hc, ofCompile, Except.toOption]
    | ok p =>
      cases hh : p.holds Clock.unlimited s.fields with
      | ok b => cases b <;> simp [RuleBody.gives, hs, hc, hh, ofCompile, decide, Except.toOption]
      | error fault =>
        cases fault <;> simp [RuleBody.gives, hs, hc, hh, ofCompile, decide, Except.toOption]

end Rule

namespace Reapply
open Cache (Sound KeysAgree RuleOver)

def target [Pattern.Engine] (rules : List RuleInput) (s : Subject) : Option String :=
  rules.findSome? (RuleInput.gives s)

theorem mem_prepare {ids : Nat → String} {rules : List RuleInput} {q : Rule × String}
    (h : q ∈ (prepare ids rules).rules) :
    q.1.targetCategory = .ok q.2 ∧ ∃ input ∈ rules, input.body = some q.1.definition := by
  induction rules generalizing ids with
  | nil => simp [prepare] at h
  | cons input rest ih =>
    have hbody := input.definition_resolve (ids 0)
    have hlater : q ∈ (prepare (fun n => ids (n + 1)) rest).rules →
        q.1.targetCategory = .ok q.2 ∧ ∃ i ∈ input :: rest, i.body = some q.1.definition := by
      intro hq
      obtain ⟨hcategory, i, hi, hd⟩ := ih hq
      exact ⟨hcategory, i, List.mem_cons_of_mem _ hi, hd⟩
    rw [prepare] at h
    split at h
    next => exact hlater h
    next r _ hr =>
      rw [hr] at hbody
      split at h
      next category hcategory =>
        rcases List.mem_cons.mp h with rfl | h
        · exact ⟨hcategory, input, List.mem_cons_self, hbody.symm⟩
        · exact hlater h
      next => exact hlater h

theorem findSome?_prepare [Pattern.Engine] (s : Subject) (ids : Nat → String)
    (rules : List RuleInput) :
    (prepare ids rules).rules.findSome? (fun q => q.1.definition.gives s) = target rules s := by
  induction rules generalizing ids with
  | nil => rfl
  | cons input rest ih =>
    have hbody := input.definition_resolve (ids 0)
    rw [target, List.findSome?_cons, RuleInput.gives, ← hbody, prepare]
    split
    next hr =>
      rw [hr]
      exact ih _
    next r _ hr =>
      rw [hr]
      dsimp only [Option.map_some, Option.bind_some]
      split
      next category _ =>
        rw [List.findSome?_cons, ih]
        rfl
      next reason hreason =>
        rw [Rule.gives_of_malformed hreason]
        exact ih _

variable {T : Value → Prop} {clock : Clock} {rules : List (Rule × String)} {c : Cache}

def firstAnswer [Pattern.Engine] (clock : Clock) (rules : List (Rule × String)) (s : Subject) :
    Option String :=
  rules.findSome? fun q => if (q.1.answer clock s).toOption = some true then some q.2 else none

theorem scan_cache [Pattern.Engine] (hc : Sound T c) (hr : ∀ q ∈ rules, RuleOver T q.1)
    (s : Subject) :
    Sound T (scan (fun _ => clock) s rules c).cache := by
  induction rules generalizing c with
  | nil => exact hc
  | cons q rest ih =>
    rw [List.forall_mem_cons] at hr
    have he := hc.evaluate_cache hr.1 clock s
    rw [scan]
    dsimp only
    split
    · exact he
    · exact he
    · exact ih he hr.2

theorem scan_target [Pattern.Engine] (hc : Sound T c) (hT : KeysAgree T)
    (hr : ∀ q ∈ rules, RuleOver T q.1) {s : Subject} {target : Option String}
    (h : (scan (fun _ => clock) s rules c).target = .ok target) :
    target = firstAnswer clock rules s := by
  induction rules generalizing c with
  | nil =>
    rw [scan] at h
    exact (Except.ok.inj h).symm
  | cons q rest ih =>
    rw [List.forall_mem_cons] at hr
    have he := hc.evaluate hT hr.1 clock s
    rw [scan] at h
    dsimp only at h
    rw [firstAnswer, List.findSome?_cons, ← he]
    split at h
    next => simp at h
    next ha =>
      rw [ha]
      exact (Except.ok.inj h).symm
    next ha =>
      rw [ha]
      exact ih (hc.evaluate_cache hr.1 clock s) hr.2 h

variable {ps : List Place} {set : Assignments} {flags : List Bool}

def assign (set : Assignments) (p : Place) : Option String → Assignments
  | some g => (p.number, g) :: set
  | none => set

theorem lookup_assign_self {p : Place} (h : set.lookup p.number = none) (category : Option String) :
    (assign set p category).lookup p.number = category := by
  cases category with
  | none => exact h
  | some g => rw [assign, List.lookup_cons, beq_self_eq_true]

theorem lookup_assign_other {p : Place} {n : Nat} (h : n ≠ p.number) (category : Option String) :
    (assign set p category).lookup n = set.lookup n := by
  cases category with
  | none => rfl
  | some g => rw [assign, List.lookup_cons, beq_eq_false_iff_ne.mpr h]

section
variable [Pattern.Engine]

def decision (clocks : Nat → Clock) (rules : List (Rule × String)) (set : Assignments) (c : Cache)
    (p : Place) : Except PassFailure (Option String) :=
  let s := Place.now set p
  ((scan clocks s rules c).target.mapError PassFailure.breakdown).bind (newCategory s)

theorem walk_cons_error (clocks : Nat → Nat → Clock) {p : Place} {f : PassFailure}
    (h : decision (clocks 0) rules set c p = .error f) (ps : List Place) :
    (walk clocks rules (p :: ps) set c).changed = .error f := by
  unfold decision at h
  rw [walk, h]

theorem walk_cons_ok (clocks : Nat → Nat → Clock) {p : Place} {category : Option String}
    (h : decision (clocks 0) rules set c p = .ok category) (ps : List Place) :
    let rest := walk (fun n => clocks (n + 1)) rules ps (assign set p category)
      (scan (clocks 0) (Place.now set p) rules c).cache
    (walk clocks rules (p :: ps) set c).changed = rest.changed.map (category.isSome :: ·) ∧
      (walk clocks rules (p :: ps) set c).set = rest.set ∧
      (walk clocks rules (p :: ps) set c).cache = rest.cache := by
  unfold decision at h
  rw [walk, h]
  cases category <;> exact ⟨rfl, rfl, rfl⟩

theorem decision_eq_ok {clocks : Nat → Clock} {p : Place} {category : Option String}
    (h : decision clocks rules set c p = .ok category) :
    ∃ target, (scan clocks (Place.now set p) rules c).target = .ok target ∧
      newCategory (Place.now set p) target = .ok category := by
  unfold decision at h
  dsimp only at h
  cases ht : (scan clocks (Place.now set p) rules c).target with
  | error b => simp [ht, Except.mapError, Except.bind] at h
  | ok target =>
    rw [ht] at h
    exact ⟨target, rfl, h⟩

end

theorem map_eq_ok {ε α β : Type} {f : α → β} {x : Except ε α} {b : β} :
    x.map f = .ok b ↔ ∃ a, x = .ok a ∧ f a = b := by
  cases x <;> simp [Except.map]

theorem map_eq_error {ε α β : Type} {f : α → β} {x : Except ε α} {e : ε} :
    x.map f = .error e ↔ x = .error e := by
  cases x <;> simp [Except.map]

/-- Where `D` says what may be decided at a place, this is what a walk comes to. If it ends, it
flags where it set something, what it set at a place was decided there, and nothing was set
elsewhere; else what stopped it was decided at some place. -/
structure Decides (D : Place → Except PassFailure (Option String) → Prop) (ps : List Place)
    (set : Assignments) (w : Walk) : Prop where
  flags : ∀ flags, w.changed = .ok flags → flags = ps.map fun p => (w.set.lookup p.number).isSome
  here : ∀ flags, w.changed = .ok flags → ∀ p ∈ ps, D p (.ok (w.set.lookup p.number))
  elsewhere : ∀ flags, w.changed = .ok flags → ∀ n, n ∉ ps.map Place.number →
    w.set.lookup n = set.lookup n
  stopped : ∀ f, w.changed = .error f → ∃ p ∈ ps, D p (.error f)

theorem Decides.cons {D : Place → Except PassFailure (Option String) → Prop} {p : Place}
    {category : Option String} {w later : Walk}
    (h : Decides D ps (assign set p category) later) (hp : D p (.ok category))
    (hfree : set.lookup p.number = none) (hn : p.number ∉ ps.map Place.number)
    (hchanged : w.changed = later.changed.map (category.isSome :: ·)) (hset : w.set = later.set) :
    Decides D (p :: ps) set w := by
  -- No later place has the number of `p`, so what is set there stays.
  have hself : ∀ flags, later.changed = .ok flags → later.set.lookup p.number = category := by
    intro flags hlater
    rw [h.elsewhere flags hlater p.number hn, lookup_assign_self hfree]
  obtain ⟨changed, set', cache, reports⟩ := w
  dsimp only at hchanged hset
  subst hchanged hset
  refine ⟨?_, ?_, ?_, ?_⟩
  · intro flags hw
    obtain ⟨flags, hlater, rfl⟩ := map_eq_ok.mp hw
    rw [List.map_cons, hself flags hlater, ← h.flags flags hlater]
  · intro flags hw
    obtain ⟨flags, hlater, rfl⟩ := map_eq_ok.mp hw
    rw [List.forall_mem_cons, hself flags hlater]
    exact ⟨hp, h.here flags hlater⟩
  · intro flags hw n hnot
    obtain ⟨flags, hlater, rfl⟩ := map_eq_ok.mp hw
    rw [List.map_cons, List.mem_cons, not_or] at hnot
    rw [h.elsewhere flags hlater n hnot.2, lookup_assign_other hnot.1]
  · intro f hw
    obtain ⟨q, hq, hstopped⟩ := h.stopped f (map_eq_error.mp hw)
    exact ⟨q, List.mem_cons_of_mem p hq, hstopped⟩

section
variable [Pattern.Engine]

/-- Every place is decided as if it were alone: what was set before it was set elsewhere, and the
cache stays fit. -/
theorem walk_decides (Fit : Cache → Prop) {D : Place → Except PassFailure (Option String) → Prop}
    {clocks : Nat → Nat → Clock}
    (hscan : ∀ n c s, Fit c → Fit (scan (clocks n) s rules c).cache)
    (hD : ∀ n c set p, Fit c → set.lookup p.number = none →
      D p (decision (clocks n) rules set c p))
    (hc : Fit c) (hn : (ps.map Place.number).Nodup) (hfree : ∀ p ∈ ps, set.lookup p.number = none) :
    Decides D ps set (walk clocks rules ps set c) := by
  induction ps generalizing clocks set c with
  | nil =>
    refine ⟨?_, by simp, fun _ _ _ _ => rfl, fun f h => nomatch h⟩
    intro flags h
    exact (Except.ok.inj h).symm
  | cons p rest ih =>
    rw [List.map_cons, List.nodup_cons] at hn
    rw [List.forall_mem_cons] at hfree
    have hdecided := hD 0 c set p hc hfree.1
    cases hd : decision (clocks 0) rules set c p with
    | error f =>
      rw [hd] at hdecided
      have hchanged := walk_cons_error clocks hd rest
      refine ⟨by simp [hchanged], by simp [hchanged], by simp [hchanged], ?_⟩
      intro f' h
      obtain rfl := Except.error.inj (hchanged.symm.trans h)
      exact ⟨p, List.mem_cons_self, hdecided⟩
    | ok category =>
      rw [hd] at hdecided
      obtain ⟨hchanged, hset, -⟩ := walk_cons_ok clocks hd rest
      have hrest : ∀ q ∈ rest, (assign set p category).lookup q.number = none := by
        intro q hq
        have hother : q.number ≠ p.number := fun heq => hn.1 (heq ▸ List.mem_map_of_mem hq)
        rw [lookup_assign_other hother, hfree.2 q hq]
      have hlater := ih (fun n => hscan (n + 1)) (fun n => hD (n + 1))
        (hscan 0 c (Place.now set p) hc) hn.2 hrest
      exact hlater.cons hdecided hfree.1 hn.1 hchanged hset

structure Walked (first : Subject → Option String) (ps : List Place) (set after : Assignments)
    (flags : List Bool) : Prop where
  here : ∀ p ∈ ps, newCategory p.subject (first p.subject) = .ok (after.lookup p.number)
  elsewhere : ∀ n, n ∉ ps.map Place.number → after.lookup n = set.lookup n
  flags : flags = ps.map fun p => (after.lookup p.number).isSome

theorem walk_walked (hc : Sound T c) (hT : KeysAgree T) (hr : ∀ q ∈ rules, RuleOver T q.1)
    (hn : (ps.map Place.number).Nodup) (hfree : ∀ p ∈ ps, set.lookup p.number = none)
    (h : (walk (fun _ _ => clock) rules ps set c).changed = .ok flags) :
    Walked (firstAnswer clock rules) ps set (walk (fun _ _ => clock) rules ps set c).set flags := by
  have hfirst : ∀ c set p, Sound T c → set.lookup p.number = none →
      ∀ category, decision (fun _ => clock) rules set c p = .ok category →
        newCategory p.subject (firstAnswer clock rules p.subject) = .ok category := by
    intro c set p hc hfree category hd
    obtain ⟨target, ht, hg⟩ := decision_eq_ok hd
    have hnow : Place.now set p = p.subject := by rw [Place.now, hfree]
    rw [hnow] at ht hg
    rwa [scan_target hc hT hr ht] at hg
  have hdecides := walk_decides (D := fun p decided => ∀ category, decided = .ok category →
    newCategory p.subject (firstAnswer clock rules p.subject) = .ok category) (Sound T)
    (fun _ _ s hc => scan_cache hc hr s) (fun _ => hfirst) hc hn hfree
  exact ⟨fun p hp => hdecides.here flags h p hp _ rfl, hdecides.elsewhere flags h,
    hdecides.flags flags h⟩

def changes (rules : List RuleInput) (s : Subject) : Bool :=
  (target rules s).any fun g => !s.category?.any (Subject.hasCategory g)

end

def Settled (s s' : Subject) : Option String → Prop
  | none => s' = s
  | some g =>
    s'.category? = some (.text g) ∧ s.SameButCategory s' ∧
      (s.category? = some (.text g) → s' = s)

theorem settled_now {p : Place} {first : Option String}
    (h : newCategory p.subject first = .ok (set.lookup p.number)) :
    Settled p.subject (Place.now set p) first ∧
      (set.lookup p.number).isSome =
        first.any fun g => !p.subject.category?.any (Subject.hasCategory g) := by
  unfold Place.now
  cases first with
  | none =>
    rw [← Except.ok.inj h]
    exact ⟨rfl, rfl⟩
  | some g =>
    cases hv : p.subject.category? with
    | none => simp [newCategory, hv] at h
    | some v =>
      simp only [newCategory, hv] at h
      by_cases hg : Subject.hasCategory g v = true
      · rw [if_pos hg] at h
        rw [← Except.ok.inj h]
        rw [Subject.hasCategory_iff] at hg
        refine ⟨⟨hv.trans (congrArg some hg), Subject.sameButCategory_self hv, fun _ => rfl⟩, ?_⟩
        simp [hg, Subject.hasCategory]
      · rw [if_neg hg] at h
        rw [← Except.ok.inj h]
        refine ⟨⟨Subject.category?_setCategory hv g, Subject.sameButCategory_setCategory hv g, ?_⟩,
          ?_⟩
        · intro hsame
          rw [hv, Option.some.injEq, ← Subject.hasCategory_iff] at hsame
          exact absurd hsame hg
        · simp [hg]

theorem changedIds_flags {flag : Place → Bool} {changed : List String}
    (h : changedIds ps (ps.map flag) = .ok changed) :
    changed.map some = (ps.filter flag).map fun p => p.subject.id? := by
  induction ps generalizing changed with
  | nil =>
    obtain rfl := Except.ok.inj h
    rfl
  | cons p rest ih =>
    rw [List.map_cons] at h
    cases hp : flag p with
    | false =>
      rw [hp, changedIds] at h
      rw [List.filter_cons_of_neg (by simp [hp])]
      exact ih h
    | true =>
      rw [hp, changedIds] at h
      rw [List.filter_cons_of_pos hp, List.map_cons]
      cases hid : p.subject.id? with
      | none => simp [hid] at h
      | some id =>
        rw [hid] at h
        obtain ⟨later, hlater, rfl⟩ := map_eq_ok.mp h
        rw [List.map_cons, ih hlater]

theorem firstAnswer_prepare [Pattern.Engine] {ids : Nat → String} {rules : List RuleInput}
    (hr : ∀ input ∈ rules, input.TextOnly) (s : Subject) :
    firstAnswer Clock.unlimited (prepare ids rules).rules s = target rules s := by
  rw [← findSome?_prepare s ids rules, firstAnswer, ← List.head?_filterMap, ← List.head?_filterMap]
  refine congrArg List.head? (List.filterMap_congr fun q hq => ?_)
  obtain ⟨hcategory, input, hi, hbody⟩ := mem_prepare hq
  cases hd : q.1.definition with
  | tree members => exact absurd (hbody.trans (congrArg some hd)) (hr input hi members)
  | text definition => rw [← hd, Rule.gives_eq hd hcategory]

/-- A pass that ends, with rules given as texts and a cache that was used for such only, gives each
subject the category of the first rule that matches it, and names those for which this is another
than they had. -/
theorem reapply_first_match [Pattern.Engine] {uses : List Cache.Use} {rules : List RuleInput}
    {ids : Nat → String} {ps : List Place} {changed : List String}
    (hu : ∀ u ∈ uses, u.Over fun _ => False) (hr : ∀ input ∈ rules, input.TextOnly)
    (hn : (ps.map Place.number).Nodup) :
    let pass := reapply (fun _ _ => Clock.unlimited) ids ps rules 1 (Cache.after uses)
    pass.changedIds = .ok changed →
      List.Forall₂ (fun p s => Settled p.subject s (target rules p.subject)) ps (pass.subjects ps) ∧
        changed.map some = (ps.filter fun p => changes rules p.subject).map fun p =>
          p.subject.id? := by
  intro pass h
  have hover : ∀ q ∈ (prepare ids rules).rules, RuleOver (fun _ => False) q.1 := by
    intro q hq members hd
    obtain ⟨-, input, hi, hbody⟩ := mem_prepare hq
    exact hr input hi members (hbody.trans (congrArg some hd))
  -- No tree was ever looked up, so there are none whose keys could clash.
  have hagree : KeysAgree fun _ => False := fun _ _ ha => ha.elim
  cases hw : (walk (fun _ _ => Clock.unlimited) (prepare ids rules).rules ps []
      (Cache.after uses)).changed with
  | error failure => simp [pass, reapply, hw, Except.bind] at h
  | ok flags =>
    have hids : changedIds ps flags = .ok changed := by
      simpa [pass, reapply, hw, Except.bind] using h
    have hwalked := walk_walked (Cache.sound_after hu) hagree hover hn (fun _ _ => rfl) hw
    have hset : ∀ p ∈ ps, Settled p.subject (Place.now pass.set p) (target rules p.subject) ∧
        (pass.set.lookup p.number).isSome = changes rules p.subject := by
      intro p hp
      have hp := hwalked.here p hp
      rw [firstAnswer_prepare hr] at hp
      exact settled_now hp
    constructor
    · rw [Pass.subjects, List.forall₂_map_right_iff, List.forall₂_same]
      exact fun p hp => (hset p hp).1
    · have hflags : flags = ps.map fun p => changes rules p.subject :=
        hwalked.flags.trans (List.map_congr_left fun p hp => (hset p hp).2)
      rw [hflags] at hids
      exact changedIds_flags hids

open scoped Pattern.Builtin in
theorem reapply_first_match_shop :
    let rules : List RuleInput :=
      [.record (.map [("ruleDefinition", .text "no rule")]),
        .record (.map [("ruleDefinition", .text "transaction.merchant === \"Shop\" -> \"Food\"")])]
    let ps := places
      [.record (.map [("id", .text "1"), ("merchant", .text "Shop")]),
        .record (.map [("id", .text "2"), ("merchant", .text "Bus")])]
    let pass :=
      reapply (fun _ _ => Clock.unlimited) (fun _ => "") ps rules 1 (Cache.after [.text "1"])
    pass.changedIds = .ok ["1"] ∧
      List.Forall₂ (fun p s => Settled p.subject s (target rules p.subject)) ps (pass.subjects ps) ∧
        ["1"].map some = (ps.filter fun p => changes rules p.subject).map fun p =>
          p.subject.id? := by
  intro rules ps pass
  have hend : pass.changedIds = .ok ["1"] := by decide +kernel
  have huses : ∀ u ∈ [Cache.Use.text "1"], u.Over fun _ => False := by
    intro u hu
    rw [List.mem_singleton.mp hu]
    trivial
  have hrules : ∀ input ∈ rules, input.TextOnly := by
    intro input hi members
    have hi : input = rules[0] ∨ input = rules[1] := by simpa [rules] using hi
    rcases hi with rfl | rfl <;> exact fun h => nomatch h
  exact ⟨hend, reapply_first_match huses hrules (by decide) hend⟩

end Reapply

end LedgerRules
