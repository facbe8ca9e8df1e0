import LedgerRules.Pattern.Builtin
import LedgerRules.Proofs.Breakdowns
import LedgerRules.Proofs.FirstMatch

/-! What a broken rule can do. It matches nothing and is passed over, unless its condition is not in
the cache and compiling it breaks down: then there is no answer, and a pass that comes to the rule
ends there. Nothing else ends a pass over transactions. -/

namespace LedgerRules
open Condition (Breakdown)

/-- The condition is not in the cache, where a tree without a key never is, and compiling it breaks
down. -/
def RuleBody.Raises [Pattern.Engine] (c : Cache) (b : Breakdown) : RuleBody → Prop
  | .text definition =>
    ∃ condition category, Definition.split definition = .ok (condition, category) ∧
      c.find? (Cache.textKey condition) = none ∧
      Condition.BreaksDown (.run .any) condition b
  | .tree members =>
    members ≠ [] ∧
      ((b = .longInteger ∧ Tree.hasLongInteger (.map members) = true) ∨
        ∃ k, Tree.key (.map members) = .ok k ∧ c.find? ⟨.tree, k⟩ = none ∧
          Tree.BreaksDown b (Condition.maxNesting + 1) [] (.map members))

namespace Cache
variable {c : Cache}

theorem getOrCompile_eq_error_iff {key : CacheKey} {f : CompileFailure}
    {compile : Unit → Except CompileFailure Predicate} :
    (c.getOrCompile key compile).found = .error f ↔
      c.find? key = none ∧ compile () = .error f := by
  cases hf : c.find? key with
  | some e => simp [getOrCompile_hit hf]
  | none =>
    cases hc : compile () with
    | error f' => simp [getOrCompile_fail hf hc]
    | ok p => simp [(getOrCompile_store hf hc).1]

theorem getText_breakdown_iff [Pattern.Engine] {condition : String} {b : Breakdown} :
    (c.getText condition).found = .error (.breakdown b) ↔
      c.find? (textKey condition) = none ∧
        Condition.BreaksDown (.run .any) condition b := by
  rw [getText, getOrCompile_eq_error_iff, textKey, Condition.compile_trimmed,
    Condition.compile_breakdown_iff]

theorem getTree_breakdown_iff [Pattern.Engine] {t : Value} {b : Breakdown} :
    (c.getTree t).found = .error (.breakdown b) ↔
      (b = .longInteger ∧ Tree.hasLongInteger t = true) ∨
        ∃ k, Tree.key t = .ok k ∧ c.find? ⟨.tree, k⟩ = none ∧
          Tree.BreaksDown b (Condition.maxNesting + 1) [] t := by
  rw [← Tree.key_eq_error, getTree]
  cases hk : Tree.key t with
  | error b' => simp
  | ok k =>
    dsimp only
    rw [getOrCompile_eq_error_iff, Tree.compile_breakdown_iff hk]
    simp

theorem ofLookup_breakdown_iff {rule : String} {l : Lookup} {b : Breakdown} :
    (Rule.Search.ofLookup rule l).found = .error b ↔ l.found = .error (.breakdown b) := by
  unfold Rule.Search.ofLookup
  split <;> simp_all

end Cache

section
variable [Pattern.Engine]

theorem Rule.evaluate_eq_error_iff {r : Rule} (clock : Clock) (s : Subject) {c : Cache}
    {b : Breakdown} : (r.evaluate clock s c).answer = .error b ↔ r.definition.Raises c b := by
  have hfound : (r.evaluate clock s c).answer = .error b ↔
      r.definition.isEmpty = false ∧ (r.predicate c).found = .error b := by
    unfold evaluate
    cases r.definition.isEmpty with
    | true => simp
    | false =>
      simp only [Bool.false_eq_true, if_false]
      split <;> simp_all
  rw [hfound, predicate]
  cases hd : r.definition with
  | tree members =>
    dsimp only
    rw [Cache.ofLookup_breakdown_iff, Cache.getTree_breakdown_iff]
    refine and_congr_left' ?_
    cases members <;> simp [RuleBody.isEmpty]
  | text definition =>
    dsimp only
    cases hs : Definition.split definition with
    | error reason => simp [RuleBody.Raises, hs]
    | ok parts =>
      obtain ⟨condition, category⟩ := parts
      rw [split_isEmpty hs, Cache.ofLookup_breakdown_iff, Cache.getText_breakdown_iff]
      simp [RuleBody.Raises, hs]

theorem RuleInput.evaluate_eq_error_iff {input : RuleInput} {fresh : String} (clock : Clock)
    (s : Subject) {c : Cache} {b : Breakdown} :
    (input.evaluate fresh clock s c).answer = .error b ↔
      ∃ d, input.body = some d ∧ d.Raises c b := by
  rw [← input.definition_resolve fresh, evaluate]
  split
  next hr => simp [hr]
  next r _ hr =>
    rw [hr]
    simp [Rule.evaluate_eq_error_iff]

theorem RuleInput.evaluate_eq_true_iff {input : RuleInput} {fresh : String} {clock : Clock}
    {s : Subject} {c : Cache} :
    (input.evaluate fresh clock s c).answer = .ok true ↔
      ∃ r p, (input.resolve fresh).1 = some r ∧ r.definition.isEmpty = false ∧
        (r.predicate c).found = .ok (some p) ∧ p.holds clock s.fields = .ok true := by
  unfold evaluate
  split
  next hr => simp [hr]
  next r _ hr =>
    simp only [hr, Option.some.injEq, exists_eq_left', exists_and_left]
    unfold Rule.evaluate
    cases r.definition.isEmpty with
    | true => simp
    | false =>
      simp only [Bool.false_eq_true, if_false, true_and]
      cases (r.predicate c).found with
      | error b => simp
      | ok found =>
        cases found with
        | none => simp
        | some p =>
          dsimp only [Rule.decide]
          cases hh : p.holds clock s.fields with
          | ok b => simp [hh]
          | error fault => cases fault <;> simp [hh]

end

namespace Reapply

section
variable [Pattern.Engine]

theorem scan_eq_error_iff {clocks : Nat → Clock} {s : Subject} {rules : List (Rule × String)}
    {c : Cache} {b : Breakdown} :
    (scan clocks s rules c).target = .error b ↔
      ∃ done q later, rules = done ++ q :: later ∧ (scan clocks s done c).target = .ok none ∧
        q.1.definition.Raises (scan clocks s done c).cache b := by
  induction rules generalizing clocks c with
  | nil => simp [scan]
  | cons q rest ih =>
    rw [exists_cons_split, ← Rule.evaluate_eq_error_iff (clocks 0) s]
    cases ha : (q.1.evaluate (clocks 0) s c).answer with
    | error b' => simp [scan, ha]
    | ok matched =>
      cases matched with
      | true => simp [scan, ha]
      | false => simp [scan, ha, ih]

theorem walk_eq_error_iff {clocks : Nat → Nat → Clock} {rules : List (Rule × String)}
    {ps : List Place} {set : Assignments} {c : Cache} {f : PassFailure} :
    (walk clocks rules ps set c).changed = .error f ↔
      ∃ before p later, ps = before ++ p :: later ∧
        (∃ flags, (walk clocks rules before set c).changed = .ok flags) ∧
        decision (clocks before.length) rules (walk clocks rules before set c).set
          (walk clocks rules before set c).cache p = .error f := by
  induction ps generalizing clocks set c with
  | nil => simp [walk]
  | cons p rest ih =>
    rw [exists_cons_split]
    cases hd : decision (clocks 0) rules set c p with
    | error f' =>
      rw [walk_cons_error clocks hd, Except.error.injEq]
      constructor
      · rintro rfl
        exact .inl ⟨⟨[], rfl⟩, hd⟩
      · rintro (⟨-, h⟩ | ⟨before, _, _, -, ⟨flags, hflags⟩, -⟩)
        · exact Except.error.inj (hd.symm.trans h)
        · simp [walk_cons_error clocks hd] at hflags
    | ok category =>
      have hfirst : ¬decision (clocks 0) rules set c p = .error f := by simp [hd]
      rw [(walk_cons_ok clocks hd rest).1, map_eq_error, ih, or_iff_right fun h => hfirst h.2]
      refine exists_congr fun before => exists_congr fun q => exists_congr fun later => ?_
      obtain ⟨hchanged, hset, hcache⟩ := walk_cons_ok clocks hd before
      rw [hchanged, hset, hcache, List.length_cons]
      simp [map_eq_ok]

def transactionPlaces (ts : List (Nat × Transaction)) : List Place :=
  ts.map fun t => ⟨t.1, .transaction t.2⟩

/-- A pass comes to a rule with this definition, with the cache like this: all places before the
current one are decided, and no rule before this one matches there. -/
def Comes (clocks : Nat → Nat → Clock) (ids : Nat → String) (ps : List Place)
    (rules : List RuleInput) (c : Cache) (d : RuleBody) (c' : Cache) : Prop :=
  let usable := (prepare ids rules).rules
  ∃ before p later, ps = before ++ p :: later ∧
    let w := walk clocks usable before [] c
    (∃ flags, w.changed = .ok flags) ∧
      ∃ done q rest, usable = done ++ q :: rest ∧
        let found := scan (clocks before.length) (Place.now w.set p) done w.cache
        found.target = .ok none ∧ q.1.definition = d ∧ found.cache = c'

end

theorem category?_now (set : Assignments) {p : Place} {ts : List (Nat × Transaction)}
    (h : p ∈ transactionPlaces ts) : ∃ v, (Place.now set p).category? = some v := by
  obtain ⟨t, -, rfl⟩ := List.mem_map.mp h
  unfold Place.now
  split <;> exact ⟨_, rfl⟩

theorem decision_eq_error_iff [Pattern.Engine] {clocks : Nat → Clock} {rules : List (Rule × String)}
    {set : Assignments} {c : Cache} {ts : List (Nat × Transaction)} {p : Place} {f : PassFailure}
    (hp : p ∈ transactionPlaces ts) :
    decision clocks rules set c p = .error f ↔
      ∃ b, f = .breakdown b ∧ (scan clocks (Place.now set p) rules c).target = .error b := by
  obtain ⟨v, hv⟩ := category?_now set hp
  unfold decision
  dsimp only
  cases (scan clocks (Place.now set p) rules c).target with
  | error b => simp [Except.mapError, Except.bind, eq_comm]
  | ok target => cases target <;> simp [Except.mapError, Except.bind, newCategory, hv]

theorem changedIds_ok {ps : List Place} (h : ∀ p ∈ ps, ∃ id, p.subject.id? = some id)
    (flags : List Bool) : ∃ changed, changedIds ps flags = .ok changed := by
  induction ps generalizing flags with
  | nil => exact ⟨[], rfl⟩
  | cons p rest ih =>
    rw [List.forall_mem_cons] at h
    obtain ⟨⟨id, hid⟩, hrest⟩ := h
    cases flags with
    | nil => exact ⟨[], rfl⟩
    | cons flag flags =>
      obtain ⟨later, hlater⟩ := ih hrest flags
      cases flag with
      | false => exact ⟨later, by rw [changedIds, hlater]⟩
      | true => exact ⟨id :: later, by rw [changedIds, hid, hlater]; rfl⟩

theorem reapply_eq_error_iff_walk [Pattern.Engine] {clocks : Nat → Nat → Clock} {ids : Nat → String}
    {ts : List (Nat × Transaction)} {rules : List RuleInput} {workers : Int} {c : Cache}
    {f : PassFailure} :
    (reapply clocks ids (transactionPlaces ts) rules workers c).changedIds = .error f ↔
      (walk clocks (prepare ids rules).rules (transactionPlaces ts) [] c).changed = .error f := by
  have hids : ∀ p ∈ transactionPlaces ts, ∃ id, p.subject.id? = some id := by
    intro p hp
    obtain ⟨t, -, rfl⟩ := List.mem_map.mp hp
    exact ⟨_, rfl⟩
  unfold reapply
  dsimp only
  cases (walk clocks (prepare ids rules).rules (transactionPlaces ts) [] c).changed with
  | error f' => simp [Except.bind]
  | ok flags =>
    obtain ⟨changed, hchanged⟩ := changedIds_ok hids flags
    simp [Except.bind, hchanged]

theorem reapply_eq_error_iff [Pattern.Engine] {clocks : Nat → Nat → Clock} {ids : Nat → String}
    {ts : List (Nat × Transaction)} {rules : List RuleInput} {workers : Int} {c : Cache}
    {f : PassFailure} :
    (reapply clocks ids (transactionPlaces ts) rules workers c).changedIds = .error f ↔
      ∃ b d c', f = .breakdown b ∧ Comes clocks ids (transactionPlaces ts) rules c d c' ∧
        d.Raises c' b := by
  have hplace {before later : List Place} {p : Place}
      (hsplit : transactionPlaces ts = before ++ p :: later) : p ∈ transactionPlaces ts := by
    rw [hsplit]
    exact List.mem_append_cons_self
  rw [reapply_eq_error_iff_walk, walk_eq_error_iff]
  constructor
  · rintro ⟨before, p, later, hsplit, hflags, hd⟩
    obtain ⟨b, rfl, hb⟩ := (decision_eq_error_iff (hplace hsplit)).mp hd
    obtain ⟨done, q, rest, hrules, hnone, hraises⟩ := scan_eq_error_iff.mp hb
    exact ⟨b, _, _, rfl, ⟨before, p, later, hsplit, hflags, done, q, rest, hrules, hnone, rfl, rfl⟩,
      hraises⟩
  · rintro ⟨b, d, c', rfl, ⟨before, p, later, hsplit, hflags, done, q, rest, hrules, hnone, rfl,
      rfl⟩, hraises⟩
    refine ⟨before, p, later, hsplit, hflags, ?_⟩
    rw [decision_eq_error_iff (hplace hsplit)]
    exact ⟨b, rfl, scan_eq_error_iff.mpr ⟨done, q, rest, hrules, hnone, hraises⟩⟩

end Reapply

/-- There is no answer exactly where the rule raises, a rule that is broken otherwise matches
nothing, and a pass over transactions has a result unless it comes to a rule that raises. -/
theorem no_answer_iff_raises [Pattern.Engine] (c : Cache) :
    (∀ input fresh clock s b, (RuleInput.evaluate input fresh clock s c).answer = .error b ↔
      ∃ d, input.body = some d ∧ d.Raises c b) ∧
    (∀ input fresh clock s, (RuleInput.evaluate input fresh clock s c).answer = .ok true ↔
      ∃ r p, (input.resolve fresh).1 = some r ∧ r.definition.isEmpty = false ∧
        (r.predicate c).found = .ok (some p) ∧ p.holds clock s.fields = .ok true) ∧
    ∀ clocks ids ts rules workers f,
      (reapply clocks ids (Reapply.transactionPlaces ts) rules workers c).changedIds = .error f ↔
        ∃ b d c', f = .breakdown b ∧
          Reapply.Comes clocks ids (Reapply.transactionPlaces ts) rules c d c' ∧ d.Raises c' b :=
  ⟨fun _ _ clock s _ => RuleInput.evaluate_eq_error_iff clock s,
    fun _ _ _ _ => RuleInput.evaluate_eq_true_iff,
    fun _ _ _ _ _ _ => Reapply.reapply_eq_error_iff⟩

open scoped Pattern.Builtin in
/-- A superscript two looks like a digit and is none. -/
theorem superscript_raises :
    (RuleInput.evaluate (.rule ⟨"r1", .text "² -> \"A\"", none⟩) "" Clock.unlimited
      (.record (.map [("amount", .int 1)])) Cache.empty).answer = .error .strayDigit := by
  decide +kernel

end LedgerRules
