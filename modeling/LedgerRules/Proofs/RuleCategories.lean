import LedgerRules.Proofs.FirstMatch

/-! The category that a rule carries beside its text. A record may name the definition in two ways
and the category in two ways. Reading looks under the first name before the second, and so does the
derivation of the category, but the other way round; what is derived is left under the second name
of the category, where a null under the first hides it. -/

namespace LedgerRules

def Definition.category? : Value → Option String
  | .text s => ((Definition.split s).map (·.2)).toOption
  | _ => none

theorem Definition.category?_text_eq_some {s g : String} :
    category? (.text s) = some g ↔ ∃ condition, split s = .ok (condition, g) := by
  rw [category?]
  cases split s with
  | ok p => simp [Except.map, Except.toOption, Prod.ext_iff]
  | error reason => simp [Except.map, Except.toOption]

theorem Definition.category?_text_eq_none {s : String} :
    category? (.text s) = none ↔ ∃ reason, split s = .error reason := by
  rw [category?]
  cases split s with
  | ok p => simp [Except.map, Except.toOption]
  | error reason => simp [Except.map, Except.toOption]

namespace Rule
variable {ms : Members} {r : Rule} {fresh s : String}

theorem get?_deriveCategory (ms : Members) {key : String} (h : key ≠ "new_category") :
    (deriveCategory ms).get? key = ms.get? key := by
  unfold deriveCategory
  split
  next => rfl
  next =>
    split
    next =>
      split
      next => exact Members.get?_set_other ms _ h
      next => rfl
    next => rfl

def derived? (ms : Members) : Option String :=
  (either ms "rule_definition" "ruleDefinition").bind fun found => Definition.category? found.2

/-- No category is given, so that one is derived. -/
def Ungiven (ms : Members) : Prop :=
  isGiven ms "new_category" = false ∧ isGiven ms "newCategory" = false

theorem get?_of_not_given {name : String} (h : isGiven ms name = false) :
    ms.get? name = none ∨ ms.get? name = some .null := by
  unfold isGiven at h
  cases hv : ms.get? name with
  | none => exact .inl rfl
  | some v =>
    rw [hv] at h
    cases v with
    | null => exact .inr rfl
    | _ => exact absurd h (by simp [Value.isNull])

theorem deriveCategory_eq (h : Ungiven ms) :
    deriveCategory ms =
      match derived? ms with
      | some g => ms.set "new_category" (.text g)
      | none => ms := by
  unfold deriveCategory derived?
  rw [h.1, h.2]
  cases either ms "rule_definition" "ruleDefinition" with
  | none => rfl
  | some found =>
    obtain ⟨name, v⟩ := found
    cases v with
    | text s =>
      simp only [Option.bind_some, Definition.category?]
      cases Definition.split s <;> rfl
    | _ => rfl

theorem readCategory_derived (h : Ungiven ms) :
    readCategory (deriveCategory ms) =
      .ok (if (ms.get? "newCategory").isSome then none else derived? ms) := by
  unfold readCategory either
  rw [get?_deriveCategory ms (by decide)]
  rcases get?_of_not_given h.2 with hfirst | hfirst
  · rw [hfirst, deriveCategory_eq h]
    cases derived? ms with
    | some g => simp [Members.get?_set_self]
    | none => rcases get?_of_not_given h.1 with hsecond | hsecond <;> simp [hsecond]
  · simp [hfirst]

theorem ofMembers_eq_ok (h : ofMembers fresh ms = .ok r) :
    readDefinition (deriveCategory ms) = .ok r.definition ∧
      readCategory (deriveCategory ms) = .ok r.newCategory := by
  unfold ofMembers at h
  dsimp only at h
  split at h
  next hdefinition hcategory =>
    obtain rfl := Except.ok.inj h
    exact ⟨hdefinition, hcategory⟩
  next => exact nomatch h

theorem newCategory_eq (h : ofMembers fresh ms = .ok r) (hgiven : Ungiven ms) :
    r.newCategory = if (ms.get? "newCategory").isSome then none else derived? ms := by
  have hread := (ofMembers_eq_ok h).2
  rw [readCategory_derived hgiven] at hread
  exact (Except.ok.inj hread).symm

theorem text_found (h : ofMembers fresh ms = .ok r) (hs : r.definition = .text s) :
    ms.get? "ruleDefinition" = some (.text s) ∨
      ms.get? "ruleDefinition" = none ∧ ms.get? "rule_definition" = some (.text s) := by
  have hread := (ofMembers_eq_ok h).1
  unfold readDefinition either at hread
  rw [get?_deriveCategory ms (by decide), get?_deriveCategory ms (by decide), hs] at hread
  cases hfirst : ms.get? "ruleDefinition" with
  | some v =>
    rw [hfirst] at hread
    cases v <;> simp at hread
    exact .inl (by rw [hread])
  | none =>
    rw [hfirst] at hread
    cases hsecond : ms.get? "rule_definition" with
    | some v =>
      rw [hsecond] at hread
      cases v <;> simp at hread
      exact .inr ⟨rfl, by rw [hread]⟩
    | none => simp [hsecond] at hread

theorem derived?_eq_iff (h : ofMembers fresh ms = .ok r) (hs : r.definition = .text s) :
    derived? ms = Definition.category? (.text s) ↔
      ∀ v, ms.get? "rule_definition" = some v →
        Definition.category? v = Definition.category? (.text s) := by
  unfold derived? either
  cases hsecond : ms.get? "rule_definition" with
  | some v => simp
  | none =>
    rcases text_found h hs with hfirst | ⟨-, hnone⟩
    · simp [hfirst]
    · simp [hsecond] at hnone

/-- A rule carries the category that its text names, none just when the text cannot be cut, and so
the category for what it matches whenever it has one. -/
structure Carries (r : Rule) (s : String) : Prop where
  named : ∀ g, r.newCategory = some g ↔ ∃ condition, Definition.split s = .ok (condition, g)
  malformed : r.newCategory = none ↔ ∃ reason, Definition.split s = .error reason
  target : ∀ g, r.targetCategory = .ok g → r.newCategory = some g

theorem carries_iff (hs : r.definition = .text s) :
    r.Carries s ↔ r.newCategory = Definition.category? (.text s) := by
  constructor
  · intro h
    cases hc : r.newCategory with
    | some g =>
      exact (Definition.category?_text_eq_some.mpr ((h.named g).mp hc)).symm
    | none => exact (Definition.category?_text_eq_none.mpr (h.malformed.mp hc)).symm
  · intro h
    refine ⟨fun g => ?_, ?_, fun g hg => ?_⟩
    · rw [h, Definition.category?_text_eq_some]
    · rw [h, Definition.category?_text_eq_none]
    · rw [h, Definition.category?, ← targetCategory_text hs, hg]
      rfl

/-- What a record says beside the text that is stored leaves its category alone: no null hides it,
and what stands under the second name of the definition names no other one. -/
def Undisputed (ms : Members) (s : String) : Prop :=
  if (ms.get? "newCategory").isSome then Definition.category? (.text s) = none
  else ∀ v, ms.get? "rule_definition" = some v →
    Definition.category? v = Definition.category? (.text s)

/-- A rule that is read from a record without a category carries the one of its text just when the
record does not dispute it. -/
theorem carries_category_iff (h : validate fresh (.map ms) = .ok r) (hs : r.definition = .text s)
    (hgiven : Ungiven ms) : r.Carries s ↔ Undisputed ms s := by
  rw [carries_iff hs, newCategory_eq h hgiven, Undisputed]
  split
  next => exact eq_comm
  next => exact derived?_eq_iff h hs

def namedTwice : Members :=
  [("new_category", .null), ("rule_definition", .text "2 < 3 -> X"),
    ("ruleDefinition", .text "1 < 2 -> \"X\"")]

theorem carries_category_iff_named :
    ∃ r, validate "r" (.map namedTwice) = .ok r ∧ r.definition = .text "1 < 2 -> \"X\"" ∧
      Ungiven namedTwice ∧ r.Carries "1 < 2 -> \"X\"" := by
  have hgiven : Ungiven namedTwice := ⟨rfl, rfl⟩
  refine ⟨⟨"r", .text "1 < 2 -> \"X\"", some "X"⟩, rfl, rfl, hgiven, ?_⟩
  refine (carries_category_iff rfl rfl hgiven).mpr fun v hv => ?_
  obtain rfl : .text "2 < 3 -> X" = v := Option.some.inj hv
  rfl

/-- A null under the first name of the category hides what is derived, and of two texts the one that
is stored is not the one whose category is derived. -/
theorem category_lost :
    (∃ r, validate "r" (.map [("newCategory", .null), ("ruleDefinition", .text "1 < 2 -> X")]) =
        .ok r ∧ r.definition = .text "1 < 2 -> X" ∧ r.targetCategory = .ok "X" ∧
        r.newCategory = none) ∧
      ∃ r, validate "r" (.map [("ruleDefinition", .text "1 < 2 -> X"),
          ("rule_definition", .text "2 < 3 -> Z")]) = .ok r ∧ r.definition = .text "1 < 2 -> X" ∧
        r.targetCategory = .ok "X" ∧ r.newCategory = some "Z" :=
  ⟨⟨⟨"r", .text "1 < 2 -> X", none⟩, rfl, rfl, rfl, rfl⟩,
    ⟨⟨"r", .text "1 < 2 -> X", some "Z"⟩, rfl, rfl, rfl, rfl⟩⟩

end Rule

end LedgerRules
