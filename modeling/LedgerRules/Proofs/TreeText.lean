import LedgerRules.Pattern.Builtin
import LedgerRules.Proofs.Rendering

/-! Condition trees written in the condition language. The text of a tree derives as a phrase that
builds the expression of the tree, up to how the numbers in it are written. So the text, where it is
not nested too deeply to be read, and the tree are one condition. -/

namespace LedgerRules
open Numeric

namespace Tree
open Condition

def literalText (v : Value) : List Char :=
  match v with
  | .text s => quoted s
  | v =>
    match v.number? with
    | some (.finite n c e) => Decimal.signText n ++ Binary64.positionalText c e
    | _ => []

def leafText (ms : Members) (operator : String) : List Char :=
  let field := ((textMember ms "field").getD "").toList
  let value := literalText ((ms.get? "value").getD .null)
  match comparison? operator with
  | some op => field ++ (spacedText (.compare op) ++ value)
  | none =>
    if operator = "contains" then field ++ (".includes".toList ++ inBrackets value)
    else
      let flags := literalText ((ms.get? "flags").getD (.text "i"))
      "new RegExp".toList ++ (inBrackets (value ++ (", ".toList ++ flags)) ++
        (".test".toList ++ inBrackets field))

def textWithin : (room : Nat) → Value → List Char
  | room + 1, .map ms =>
    match textMember ms "operator" with
    | some operator =>
      match joinKind? operator with
      | some kind =>
        let parts := ((Members.get? ms "conditions").bind itemsOf?).getD []
        joinedText kind (parts.map (textWithin room))
      | none => leafText ms operator
    | none => []
  | _, _ => []

def conditionText (tree : Value) : List Char := textWithin (maxNesting + 1) tree

end Tree

namespace Tree
open Condition

theorem literalText_number {v : Value} {n : Bool} {c : Nat} {e : Int}
    (h : v.number? = some (.finite n c e)) :
    literalText v = Decimal.signText n ++ Binary64.positionalText c e := by
  cases v with
  | text s => simp [Value.number?] at h
  | _ => simp [literalText, h]

theorem literal_writes [Pattern.Engine] {v : Value} {value : Expr} {rest : List Char}
    (h : LiteralOf v value) (hd : ∀ d, v.number? = some d → d.Moderate) (hr : Separates rest) :
    ∃ value', Writes .operand (literalText v) rest value' ∧ value'.type = value.type ∧
      ∀ op target, (Expr.compare op target value).Alike (.compare op target value') := by
  cases h with
  | text s => exact ⟨.text s, .text s rest, rfl, fun _ _ => .refl _⟩
  | @number _ d hv =>
    have hm := hd d hv
    cases d with
    | finite n c e =>
      obtain ⟨d, hsame, hw⟩ := Writes.number hm hr
      rw [literalText_number hv]
      exact ⟨.number d, hw, rfl, fun op target => .compare op target hsame⟩
    | infinite n => exact hm.elim
    | nan n s p => exact hm.elim

theorem textWithin_leaf {ms : Members} {operator : String} (room : Nat)
    (ho : textMember ms "operator" = some operator) (hj : joinKind? operator = none) :
    textWithin (room + 1) (.map ms) = leafText ms operator := by
  simp [textWithin, ho, hj]

theorem textWithin_join {ms : Members} {operator : String} {kind : Join} {vs : List Value}
    (room : Nat) (ho : textMember ms "operator" = some operator)
    (hj : joinKind? operator = some kind) (hc : ms.get? "conditions" = some (.list vs)) :
    textWithin (room + 1) (.map ms) = joinedText kind (vs.map (textWithin room)) := by
  simp [textWithin, ho, hj, hc, itemsOf?]

theorem get?_of_textMember {ms : Members} {name s : String} (h : textMember ms name = some s) :
    ms.get? name = some (.text s) := by
  obtain ⟨v, hv, ht⟩ := Option.bind_eq_some_iff.mp h
  rw [hv, textOf?_eq_some ht]

section
variable [Pattern.Engine]

section
variable {ms : Members} {s : String} {target : Expr}

theorem renders_compare {operator : String} {op : CompareOp} {v : Value} {value : Expr}
    (hop : comparison? operator = some op) (hs : textMember ms "field" = some s)
    (hparse : parseOperand s = .ok target) (hv : ms.get? "value" = some v)
    (hlit : LiteralOf v value)
    (htypes : op.isOrdering = true → target.type = .number ∧ value.type = .number)
    (hd : ∀ d, v.number? = some d → d.Moderate) :
    Renders (leafText ms operator) (.compare op target value) := by
  intro rest hr
  obtain ⟨value', hw, htype, ha⟩ := literal_writes hlit hd hr
  have htext : leafText ms operator =
      s.toList ++ (spacedText (.compare op) ++ literalText v) := by
    simp [leafText, hs, hv, hop]
  have hfield : Writes .operand s.toList (spacedText (.compare op) ++ literalText v ++ rest)
      target := .operand hparse (.blank _ rfl)
  have hcompare := hfield.compare hw (htype ▸ htypes)
  rw [htext]
  exact ⟨_, (hcompare.part .any).run .any, ha op target⟩

theorem renders_contains {needle : String} (hs : textMember ms "field" = some s)
    (hparse : parseOperand s = .ok target) (hvalue : textMember ms "value" = some needle)
    (htype : target.type = .text) :
    Renders (leafText ms "contains") (.includes target (.text needle)) := by
  intro rest _
  have htext : leafText ms "contains" =
      s.toList ++ (".includes".toList ++ Condition.inBrackets (quoted needle)) := by
    simp [leafText, hs, get?_of_textMember hvalue, literalText, comparison?]
  have hpoint : Separates (".includes".toList ++ Condition.inBrackets (quoted needle) ++ rest) :=
    .point _ (d := 'i') (by decide)
  have hfield := Writes.operand hparse hpoint
  rw [htext]
  exact ⟨_, ((hfield.includes htype).alone.part .any).run .any, .refl _⟩

theorem renders_matches {body flags : String} {pattern : Pattern}
    (hs : textMember ms "field" = some s) (hparse : parseOperand s = .ok target)
    (hvalue : textMember ms "value" = some body) (htype : target.type = .text)
    (hflags : textOf? ((ms.get? "flags").getD (.text "i")) = some flags)
    (hp : compilePattern body flags = .ok pattern) :
    Renders (leafText ms "matches") (.search pattern target) := by
  intro rest _
  have htext : leafText ms "matches" = "new RegExp".toList ++
      (Condition.inBrackets (quoted body ++ (", ".toList ++ quoted flags)) ++
        (".test".toList ++ Condition.inBrackets s.toList)) := by
    simp [leafText, hs, get?_of_textMember hvalue, textOf?_eq_some hflags, literalText,
      comparison?]
  have hfield := Writes.operand hparse (separates_closeParen rest)
  rw [htext]
  exact ⟨_, ((hfield.search htype hp).alone.part .any).run .any, .refl _⟩

end

theorem renders_map {below : Value → Expr → Prop} {text : Value → List Char} {vs : List Value}
    {parts : List Expr} (h : List.Forall₂ below vs parts)
    (ht : ∀ v ∈ vs, ∀ e, below v e → Renders (text v) e) :
    List.Forall₂ Renders (vs.map text) parts := by
  induction h with
  | nil => exact .nil
  | cons hv _ ih =>
    exact .cons (ht _ List.mem_cons_self _ hv)
      (ih fun v hmem => ht v (List.mem_cons_of_mem _ hmem))

/-- The text of a node that denotes an expression is a condition like it: one case for each kind of
node, the joined conditions by induction. -/
theorem renders_of_denotes {room : Nat} {v : Value} {e : Expr} (h : Denotes room v e)
    (hd : ∀ d, Compares d v → d.Moderate) : Renders (textWithin room v) e := by
  induction room generalizing v e with
  | zero => exact h.elim
  | succ room ih =>
    cases h with
    | compare ho hj hop hs hparse hv hlit htypes =>
      rw [textWithin_leaf room ho hj]
      exact renders_compare hop hs hparse hv hlit htypes fun d hvd => hd d (.leaf ho hj hv hvd)
    | contains ho hs hparse hvalue htype =>
      rw [textWithin_leaf room ho (by decide +kernel)]
      exact renders_contains hs hparse hvalue htype
    | «matches» ho hs hparse hvalue htype hflags hp =>
      rw [textWithin_leaf room ho (by decide +kernel)]
      exact renders_matches hs hparse hvalue htype hflags hp
    | @join ms operator kind first rest e parts ho hj hc hfirst hrest =>
      have hpart (v : Value) (hmem : v ∈ first :: rest) (d : Decimal) (hdv : Compares d v) :
          d.Moderate := hd d (.part ho hj hc hmem hdv)
      rw [textWithin_join room ho hj hc, List.map_cons]
      apply renders_joined kind
      · exact ih hfirst (hpart first List.mem_cons_self)
      · refine renders_map hrest fun v hmem e he => ih he ?_
        exact hpart v (List.mem_cons_of_mem _ hmem)

end

end Tree

/-- A tree that compiles and its text are one condition: the text derives from the grammar, compiles
if its brackets are not nested too deeply, and then has on every record, with every clock, the
outcome of the tree. -/
theorem tree_means_its_text [Pattern.Engine] {tree : Value} {p : Predicate}
    (h : Tree.compile tree = .ok p) (hd : ∀ d, Tree.Compares d tree → d.Moderate) :
    ∃ ts, ∃ q : Condition.Phrase (.run .any) .whole,
      Condition.tokens (Tree.conditionText tree) = .ok ts ∧
      q.yield = Condition.terminals ts ∧
      (q.depth ≤ Condition.maxNesting ↔
        ∃ p', Condition.compile (String.ofList (Tree.conditionText tree)) = .ok p') ∧
      ∀ p', Condition.compile (String.ofList (Tree.conditionText tree)) = .ok p' →
        ∀ clock record, SameOutcome (p.holds clock record) (p'.holds clock record) := by
  obtain ⟨e, hw, ha⟩ := Tree.renders_of_denotes (Tree.compile_denotes h) hd [] .nil
  obtain ⟨ts, q, ht, hq, hcompile⟩ := Condition.Writes.compile hw
  refine ⟨ts, q, ht, hq, ?_, ?_⟩
  · constructor
    · intro hdepth
      exact ⟨_, (hcompile _).mpr ⟨hdepth, rfl⟩⟩
    · rintro ⟨p', hp'⟩
      exact ((hcompile p').mp hp').1
  · intro p' hp' clock record
    obtain ⟨-, rfl⟩ := (hcompile p').mp hp'
    exact Expr.Alike.holds ha clock record

def refund : Value :=
  .map [("operator", .text "And"), ("conditions", .list
    [.map [("operator", .text "=="), ("field", .text "transaction.amount"),
      ("value", .decimal (.finite true 2 3))],
    .map [("operator", .text "contains"), ("field", .text "transaction.merchant.toLowerCase()"),
      ("value", .text "the \"shop\"")]])]

def refundText : String :=
  "(transaction.amount === -2000) && " ++
    "(transaction.merchant.toLowerCase().includes(\"the \\\"shop\\\"\"))"

theorem compares_refund {d : Decimal} (h : Tree.Compares d refund) : d = .finite true 2 3 := by
  cases h with
  | leaf _ _ hv _ => simp [Members.get?, List.lookup_cons] at hv
  | part _ _ hc hmem hpart =>
    obtain rfl := Value.list.inj (Option.some.inj hc)
    rcases List.mem_pair.mp hmem with rfl | rfl
    · cases hpart with
      | leaf _ _ hv hd =>
        obtain rfl := Option.some.inj hv
        exact (Option.some.inj hd).symm
      | part _ _ hc => simp [Members.get?, List.lookup_cons] at hc
    · cases hpart with
      | leaf _ _ hv hd =>
        obtain rfl := Option.some.inj hv
        simp [Value.number?] at hd
      | part _ _ hc => simp [Members.get?, List.lookup_cons] at hc

theorem moderate_thousands (n : Bool) : (Decimal.finite n 2 3).Moderate := by
  have hvalue : magnitude 2 3 = 2000 := by norm_num [magnitude]
  refine fun _ => ⟨⟨2, 3, by norm_num, rfl⟩, ?_, ?_⟩
  · calc (10 : ℚ) ^ (-400 : Int) ≤ 10 ^ (0 : Int) := zpow_le_zpow_right₀ (by norm_num) (by omega)
      _ ≤ magnitude 2 3 := by norm_num [hvalue]
  · calc magnitude 2 3 ≤ 10 ^ (4 : Int) := by norm_num [hvalue]
      _ ≤ (10 : ℚ) ^ (400 : Int) := zpow_le_zpow_right₀ (by norm_num) (by omega)

theorem exists_of_isOk {ε α : Type} {r : Except ε α} (h : r.isOk = true) : ∃ a, r = .ok a := by
  cases r with
  | ok a => exact ⟨a, rfl⟩
  | error e => simp [Except.isOk, Except.toBool] at h

open scoped Pattern.Builtin in
theorem tree_means_its_text_refund :
    (∀ d, Tree.Compares d refund → d.Moderate) ∧
      String.ofList (Tree.conditionText refund) = refundText ∧
      ∃ p p', Tree.compile refund = .ok p ∧ Condition.compile refundText = .ok p' ∧
        ∀ clock record, SameOutcome (p.holds clock record) (p'.holds clock record) := by
  have hd (d : Decimal) (h : Tree.Compares d refund) : d.Moderate :=
    compares_refund h ▸ moderate_thousands true
  have htext : String.ofList (Tree.conditionText refund) = refundText := by decide +kernel
  obtain ⟨p, hp⟩ := exists_of_isOk (show (Tree.compile refund).isOk = true by decide +kernel)
  obtain ⟨p', hp'⟩ := exists_of_isOk
    (show (Condition.compile refundText).isOk = true by decide +kernel)
  obtain ⟨-, -, -, -, -, hsame⟩ := tree_means_its_text hp hd
  exact ⟨hd, htext, p, p', hp, hp', hsame p' (htext ▸ hp')⟩

end LedgerRules
