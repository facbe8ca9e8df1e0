import LedgerRules.Pattern.Builtin
import LedgerRules.Rule.Subject

/-! Which fields of a record an expression reads. Nothing else of the record has a part in its
value: records that agree on those fields give it the same value or the same fault, with as many
looks at the clock. Whether the fields are those of a transaction or stand in a map is no matter
either, and setting the category touches no other field. -/

namespace LedgerRules
open Eval

namespace Expr

/-- The fields that stand somewhere in an expression. -/
def fieldsRead : Expr → List Field
  | .text _ => []
  | .number _ => []
  | .field f => [f]
  | .datePart _ argument => argument.fieldsRead
  | .compare _ l r => l.fieldsRead ++ r.fieldsRead
  | .join _ l r => l.fieldsRead ++ r.fieldsRead
  | .includes target needle => target.fieldsRead ++ needle.fieldsRead
  | .changeCase _ target => target.fieldsRead
  | .search _ target => target.fieldsRead

theorem evalWithin_congr [Pattern.Engine] {clock : Clock} {record record' : FieldValues} {e : Expr}
    (h : ∀ f ∈ e.fieldsRead, record f = record' f) (within : Option Join) :
    e.evalWithin clock record within = e.evalWithin clock record' within := by
  induction e generalizing within with
  | text s => rfl
  | number d => rfl
  | field f =>
    have hf : readField record f = readField record' f := by
      rw [readField, readField, h f List.mem_cons_self]
    rw [evalWithin, evalWithin, hf]
  | datePart p argument ih =>
    rw [evalWithin, evalWithin, ih h]
  | compare op l r ihl ihr =>
    obtain ⟨hl, hr⟩ := List.forall_mem_append.mp h
    rw [evalWithin, evalWithin, ihl hl, ihr hr]
  | join j l r ihl ihr =>
    obtain ⟨hl, hr⟩ := List.forall_mem_append.mp h
    rw [evalWithin, evalWithin, ihl hl, ihr hr]
  | includes target needle iht ihn =>
    obtain ⟨ht, hn⟩ := List.forall_mem_append.mp h
    rw [evalWithin, evalWithin, iht ht, ihn hn]
  | changeCase upper target ih =>
    rw [evalWithin, evalWithin, ih h]
  | search pattern target ih =>
    rw [evalWithin, evalWithin, ih h]

end Expr

theorem Predicate.holds_congr [Pattern.Engine] {p : Predicate} {clock : Clock}
    {record record' : FieldValues} (h : ∀ f ∈ p.root.fieldsRead, record f = record' f) :
    p.holds clock record = p.holds clock record' := by
  rw [holds, holds, Expr.eval, Expr.eval, Expr.evalWithin_congr h]

def Transaction.members (t : Transaction) : Members :=
  [("merchant", .text t.merchant), ("amount", .decimal t.amount), ("date", .moment t.date),
    ("account", .text t.account), ("category", .text t.category)]

theorem Transaction.get?_members (t : Transaction) (f : Field) :
    t.members.get? f.name = t.fields f := by
  cases f <;> rfl

theorem Subject.fields_members (t : Transaction) :
    (Subject.record (.map t.members)).fields = (Subject.transaction t).fields := by
  funext f
  exact t.get?_members f

theorem Field.name_injective {f g : Field} (h : f.name = g.name) : f = g := by
  have hname := congrArg Field.ofName? h
  rw [ofName?_name, ofName?_name] at hname
  exact Option.some.inj hname

theorem Subject.fields_setCategory {f : Field} (h : f ≠ .category) (s : Subject)
    (category : String) : (s.setCategory category).fields f = s.fields f := by
  cases s with
  | transaction t =>
    cases f with
    | category => exact absurd rfl h
    | _ => rfl
  | record v =>
    cases v with
    | map members =>
      apply Members.get?_set_other
      exact fun hname => h (Field.name_injective (g := .category) hname)
    | _ => rfl

/-- A condition sees only the fields that it names. Subjects that agree on those, where a field
missing from both is agreement too, give it the same value or the same fault, whatever the clock
shows. So a transaction and a record of its fields are treated alike, and setting the category does
not matter to a condition that does not name it. -/
theorem sees_only_fields_read [Pattern.Engine] (clock : Clock) (e : Expr) :
    (∀ s s' : Subject, (∀ f ∈ e.fieldsRead, s.fields f = s'.fields f) →
      e.eval clock s.fields = e.eval clock s'.fields) ∧
    (∀ t : Transaction, e.eval clock (Subject.record (.map t.members)).fields =
      e.eval clock (Subject.transaction t).fields) ∧
    ∀ (s : Subject) (category : String), .category ∉ e.fieldsRead →
      e.eval clock (s.setCategory category).fields = e.eval clock s.fields := by
  have hagree : ∀ s s' : Subject, (∀ f ∈ e.fieldsRead, s.fields f = s'.fields f) →
      e.eval clock s.fields = e.eval clock s'.fields := by
    intro s s' h
    rw [Expr.eval, Expr.eval, Expr.evalWithin_congr h]
  refine ⟨hagree, ?_, ?_⟩
  · intro t
    rw [Subject.fields_members]
  · intro s category h
    apply hagree
    intro f hf
    apply Subject.fields_setCategory
    rintro rfl
    exact h hf

open scoped Pattern.Builtin in
theorem sees_only_fields_read_cheap :
    let cheap : Expr := .compare .less (.field .amount) (.number (.ofInt 80))
    let lunch : Subject := .record (.map [("merchant", .text "Deli"), ("amount", .int 7)])
    let ticket : Subject := .record (.map [("amount", .int 7), ("category", .text "Travel")])
    (∀ f ∈ cheap.fieldsRead, lunch.fields f = ticket.fields f) ∧
      .category ∉ cheap.fieldsRead ∧
      cheap.eval Clock.unlimited lunch.fields = .ok (.bool true) ∧
      cheap.eval Clock.unlimited ticket.fields = .ok (.bool true) ∧
      cheap.eval Clock.unlimited (lunch.setCategory "Food").fields = .ok (.bool true) := by
  intro cheap lunch ticket
  have hamount : ∀ f ∈ cheap.fieldsRead, lunch.fields f = ticket.fields f := by
    intro f hf
    obtain rfl | hf := List.mem_cons.mp hf
    · rfl
    · simp [Expr.fieldsRead] at hf
  have hcategory : .category ∉ cheap.fieldsRead := by decide
  have hlunch : cheap.eval Clock.unlimited lunch.fields = .ok (.bool true) := rfl
  obtain ⟨hagree, -, hset⟩ := sees_only_fields_read Clock.unlimited cheap
  refine ⟨hamount, hcategory, hlunch, ?_, ?_⟩
  · rw [← hagree lunch ticket hamount]
    exact hlunch
  · rw [hset lunch "Food" hcategory]
    exact hlunch

end LedgerRules
