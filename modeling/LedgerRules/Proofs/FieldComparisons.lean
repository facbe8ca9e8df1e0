import LedgerRules.Proofs.Comparisons
import LedgerRules.Proofs.Rendering

/-! Conditions that compare a field of the record with a literal. The text of one is read as one
comparison of two operands, whatever the literal is, and what it says of a record is what the
comparison says of the field's value and the literal's. -/

namespace LedgerRules
open Numeric

namespace Condition

def fieldText (f : Field) : List Char := ("transaction." ++ f.name).toList

def comparisonText (f : Field) (op : CompareOp) (literal : List Char) : List Char :=
  fieldText f ++ (spacedText (.compare op) ++ literal)

def comparisonPhrase (f : Field) (op : CompareOp) (literal : Phrase .primary .whole) :
    Phrase (.run .any) .whole :=
  .run (.run (.compare op (.called (.field f) .noCall) (.called literal .noCall)) .noPart) .noPart

theorem spells_field (f : Field) {rest : List Char} (hr : Separates rest) :
    Spells (fieldText f) [.word "transaction", .symbol .dot, .word f.name] rest := by
  apply spells_of_terminals
  · cases f <;> decide +kernel
  · exact hr

section
variable {f : Field} {op : CompareOp} {literal : List Char} {q : Phrase .primary .whole}

theorem spells_comparison (f : Field) (op : CompareOp) (h : Spells literal q.yield []) :
    Spells (comparisonText f op literal) (comparisonPhrase f op q).yield [] := by
  have hspace : Separates (spacedText (.compare op) ++ literal ++ []) :=
    .blank _ Text.isBlank_space
  have hfield := spells_field f hspace
  have hall := hfield.append ((spells_spaced (s := .compare op) rfl _).append h)
  simpa [comparisonText, comparisonPhrase, Phrase.yield] using hall

theorem build_comparison [Pattern.Engine] {e : Expr} :
    (comparisonPhrase f op q).build Decimal.negated? = some e ↔
      ∃ value, q.build Decimal.negated? = some value ∧
        (op.isOrdering = true → f.type = .number ∧ value.type = .number) ∧
        .compare op (.field f) value = e := by
  constructor
  · intro h
    obtain ⟨e₁, hall, he₁⟩ := Phrase.build_run.mp h
    obtain rfl := Option.some.inj he₁
    obtain ⟨e₂, hcompare, he₂⟩ := Phrase.build_run.mp hall
    obtain rfl := Option.some.inj he₂
    obtain ⟨left, right, hleft, hright, htypes, he⟩ := Phrase.build_compare.mp hcompare
    obtain rfl := Option.some.inj hleft
    obtain ⟨value, hvalue, hsame⟩ := Phrase.build_called.mp hright
    obtain rfl := Option.some.inj hsame
    exact ⟨value, hvalue, htypes, he⟩
  · rintro ⟨value, hvalue, htypes, rfl⟩
    have hcalled : (Phrase.called q .noCall).build Decimal.negated? = some value :=
      Phrase.build_called.mpr ⟨value, hvalue, rfl⟩
    have hcompare : (Phrase.compare op (.called (.field f) .noCall) (.called q .noCall)).build
        Decimal.negated? = some (.compare op (.field f) value) :=
      Phrase.build_compare.mpr ⟨.field f, value, rfl, hcalled, htypes, rfl⟩
    exact Phrase.build_run.mpr ⟨_, Phrase.build_run.mpr ⟨_, hcompare, rfl⟩, rfl⟩

theorem compile_comparison_iff [Pattern.Engine] {p : Predicate} (f : Field) (op : CompareOp)
    (h : Spells literal q.yield []) (hd : q.depth = 0) :
    compile (String.ofList (comparisonText f op literal)) = .ok p ↔
      ∃ value, q.build Decimal.negated? = some value ∧
        (op.isOrdering = true → f.type = .number ∧ value.type = .number) ∧
        p = ⟨Text.trimmed (String.ofList (comparisonText f op literal)),
          .compare op (.field f) value⟩ := by
  obtain ⟨_, -, -, hcompile⟩ := (spells_comparison f op h).compile
  have hdepth : (comparisonPhrase f op q).depth ≤ maxNesting := by
    simp [comparisonPhrase, Phrase.depth, hd]
  rw [hcompile]
  constructor
  · rintro ⟨e, hb, -, rfl⟩
    obtain ⟨value, hv, htypes, rfl⟩ := build_comparison.mp hb
    exact ⟨value, hv, htypes, rfl⟩
  · rintro ⟨value, hv, htypes, rfl⟩
    exact ⟨_, build_comparison.mpr ⟨value, hv, htypes, rfl⟩, hdepth, rfl⟩

end

end Condition

theorem Expr.readsSame_other {f : Field} {e : Expr} (h : ∀ g, e ≠ .field g) :
    (Expr.field f).readsSame e = false := by
  cases e with
  | field g => exact absurd rfl (h g)
  | _ => rfl

theorem holds_comparison_iff [Pattern.Engine] {f : Field} {op : CompareOp} {e : Expr} {w : Value}
    {record : FieldValues} (he : ∀ g, e ≠ .field g)
    (hw : e.eval Clock.unlimited record = .ok w) (source : String) :
    (Predicate.mk source (.compare op (.field f) e)).holds Clock.unlimited record = .ok true ↔
      ∃ v, record f = some v ∧ evalCompare op v w = .ok true := by
  rw [Expr.eval_eq_outcome] at hw
  rw [Predicate.holds, Expr.eval_eq_outcome, Expr.outcome, hw, Expr.outcome, readField]
  cases hv : record f with
  | none => simp [Except.map, bind, Except.bind]
  | some v =>
    have hoperands : evalOperands op (.field f) e v w = evalCompare op v w := by
      rw [evalOperands, Expr.readsSame_other he]
      rfl
    simp only [bind, Except.bind, hoperands, Option.some.injEq, exists_eq_left']
    cases evalCompare op v w with
    | error fault => simp [Except.map]
    | ok b => simp [Except.map, Value.truthy]

end LedgerRules
