import LedgerRules.Proofs.Documents
import LedgerRules.Tree.Compile

/-! What the key of a tree tells about the tree. Trees of plain values with one key compile alike:
all that compiling looks at shows in the document. A value that JSON has no word for is written as a
text, so a tree that holds one may share its key with a tree that compiles to something else. -/

namespace LedgerRules
open Numeric Json

/-- Values that JSON can write, in which no map has a key twice. -/
inductive Value.Plain : Value → Prop
  | null : Plain .null
  | bool (b : Bool) : Plain (.bool b)
  | int (i : Int) : Plain (.int i)
  | float (x : Binary64) : Plain (.float x)
  | text (s : String) : Plain (.text s)
  | list {items : List Value} : (∀ v ∈ items, Plain v) → Plain (.list items)
  | map {members : Members} : (members.map Prod.fst).Nodup → (∀ m ∈ members, Plain m.2) →
      Plain (.map members)

namespace Tree
open Doc

def wordKind (cs : List Char) : Nat :=
  if 'u' ∈ cs ∨ 'l' ∈ cs then 0
  else if 'N' ∈ cs ∨ 'I' ∈ cs then 1
  else if '.' ∈ cs ∨ 'e' ∈ cs then 2
  else 3

theorem wordKind_finite (n : Bool) (m : Nat) (e : Int) :
    wordKind (floatText (.finite n m e)) = 2 := by
  obtain ⟨hchars, hmark⟩ := toChars_finite n m e
  have hnot {c : Char} (hc : isNumberChar c = false) : c ∉ (Binary64.finite n m e).toChars :=
    fun h => by simp [hchars c h] at hc
  unfold wordKind floatText
  rw [if_neg (not_or.mpr ⟨hnot (by decide), hnot (by decide)⟩),
    if_neg (not_or.mpr ⟨hnot (by decide), hnot (by decide)⟩), if_pos hmark]

theorem wordKind_int (i : Int) : wordKind (toString i).toList = 3 := by
  have hnot {c : Char} (hc : c.isDigit = false ∧ c ≠ '-') : c ∉ (toString i).toList := by
    intro h
    rcases (toString_int_chars i).2 c h with hd | hd
    · simp [hc.1] at hd
    · exact hc.2 hd
  unfold wordKind
  rw [if_neg (not_or.mpr ⟨hnot (by decide), hnot (by decide)⟩),
    if_neg (not_or.mpr ⟨hnot (by decide), hnot (by decide)⟩),
    if_neg (not_or.mpr ⟨hnot (by decide), hnot (by decide)⟩)]

theorem word_cases {v : Value} {w : Word} (h : ofValue v = .word w) :
    (((v = .null ∧ w.chars = "null".toList) ∨
        ∃ b, v = .bool b ∧ w.chars = (toString b).toList) ∧ wordKind w.chars = 0) ∨
    (∃ x, v = .float x ∧ (x = .nan ∨ ∃ n, x = .infinite n) ∧ w.chars = floatText x ∧
      wordKind w.chars = 1) ∨
    (∃ n m e, v = .float (.finite n m e) ∧ w.chars = (Binary64.finite n m e).toChars ∧
      wordKind w.chars = 2) ∨
    ∃ i, v = .int i ∧ w.chars = (toString i).toList ∧ wordKind w.chars = 3 := by
  cases v with
  | null =>
    obtain rfl := Doc.word.inj h
    exact .inl ⟨.inl ⟨rfl, rfl⟩, by decide⟩
  | bool b =>
    obtain rfl := Doc.word.inj h
    exact .inl ⟨.inr ⟨b, rfl, by cases b <;> rfl⟩, by cases b <;> decide⟩
  | int i =>
    obtain rfl := Doc.word.inj h
    exact .inr (.inr (.inr ⟨i, rfl, rfl, wordKind_int i⟩))
  | float x =>
    obtain rfl := Doc.word.inj h
    cases x with
    | finite n m e => exact .inr (.inr (.inl ⟨n, m, e, rfl, rfl, wordKind_finite n m e⟩))
    | infinite n => exact .inr (.inl ⟨_, rfl, .inr ⟨n, rfl⟩, rfl, by cases n <;> decide⟩)
    | nan => exact .inr (.inl ⟨_, rfl, .inl rfl, rfl, by decide⟩)
  | _ => simp [ofValue] at h

theorem word_inj {v w : Value} {x : Word} (hv : ofValue v = .word x) (hw : ofValue w = .word x) :
    v = w ∨ ∃ f g : Binary64, v = .float f ∧ w = .float g ∧ f.toChars = g.toChars := by
  rcases word_cases hv with ⟨hplain, hk⟩ | ⟨f, rfl, hf, hx, hk⟩ | ⟨n, m, e, rfl, hx, hk⟩ |
      ⟨i, rfl, hx, hk⟩ <;>
    rcases word_cases hw with ⟨hplain', hk'⟩ | ⟨g, rfl, hg, hx', hk'⟩ |
      ⟨n', m', e', rfl, hx', hk'⟩ | ⟨i', rfl, hx', hk'⟩ <;> try omega
  · rcases hplain with ⟨rfl, h⟩ | ⟨b, rfl, h⟩ <;> rcases hplain' with ⟨rfl, h'⟩ | ⟨c, rfl, h'⟩
    · exact .inl rfl
    · cases c <;> exact absurd (h.symm.trans h') (by decide)
    · cases b <;> exact absurd (h.symm.trans h') (by decide)
    · cases b <;> cases c <;> first | exact .inl rfl | exact absurd (h.symm.trans h') (by decide)
  · refine .inr ⟨f, g, rfl, rfl, ?_⟩
    rw [hx] at hx'
    rcases hf with rfl | ⟨n, rfl⟩ <;> rcases hg with rfl | ⟨n', rfl⟩
    · rfl
    · cases n' <;> exact absurd hx' (by decide)
    · cases n <;> exact absurd hx' (by decide)
    · cases n <;> cases n' <;> first | rfl | exact absurd hx' (by decide)
  · exact .inr ⟨_, _, rfl, rfl, hx.symm.trans hx'⟩
  · rw [hx] at hx'
    exact .inl (congrArg Value.int (Int.repr_injective (String.toList_inj.mp hx')))

theorem number?_of_word {v w : Value} {x : Word} (hv : ofValue v = .word x)
    (hw : ofValue w = .word x) : v.number? = w.number? := by
  rcases word_inj hv hw with rfl | ⟨f, g, rfl, rfl, hchars⟩
  · rfl
  · simp only [Value.number?, Binary64.toDecimal, hchars]

theorem lookup_perm {α : Type} {l l' : List (String × α)} (h : l.Perm l')
    (hl : (l.map Prod.fst).Nodup) (key : String) : l.lookup key = l'.lookup key := by
  induction h with
  | nil => rfl
  | cons m _ ih =>
    obtain ⟨k, v⟩ := m
    rw [List.map_cons, List.nodup_cons] at hl
    rw [List.lookup_cons, List.lookup_cons, ih hl.2]
  | swap m n l =>
    obtain ⟨k, v⟩ := m
    obtain ⟨k', v'⟩ := n
    have hne : k' ≠ k := by
      rw [List.map_cons, List.nodup_cons] at hl
      rintro rfl
      exact hl.1 (by simp)
    simp only [List.lookup_cons]
    by_cases hk : key = k
    · subst hk
      rw [beq_eq_false_iff_ne.mpr (Ne.symm hne)]
    · rw [beq_eq_false_iff_ne.mpr hk]
  | trans h₁ h₂ ih₁ ih₂ => rw [ih₁ hl, ih₂ ((h₁.map Prod.fst).nodup_iff.mp hl)]

theorem ofMembers_eq (ms : Members) : ofMembers ms = ms.map fun m => (m.1, ofValue m.2) := by
  induction ms with
  | nil => rfl
  | cons m ms ih => rw [ofMembers, ih, List.map_cons]

theorem lookup_ofMembers (ms : Members) (key : String) :
    (ofMembers ms).lookup key = (ms.get? key).map ofValue := by
  rw [ofMembers_eq, Members.get?]
  induction ms with
  | nil => rfl
  | cons m ms ih =>
    obtain ⟨k, v⟩ := m
    rw [List.map_cons, List.lookup_cons, List.lookup_cons, ih]
    cases key == k <;> rfl

theorem get?_of_map {ms : Members} (h : (ms.map Prod.fst).Nodup) (key : String) :
    (Doc.sortMembers (ofMembers ms)).lookup key = (ms.get? key).map ofValue := by
  rw [← lookup_ofMembers]
  refine lookup_perm (List.mergeSort_perm _ _) ?_ key
  have hp := (List.mergeSort_perm (ofMembers ms) fun a b => decide (a.1 ≤ b.1)).map Prod.fst
  refine hp.nodup_iff.mpr ?_
  rw [ofMembers_eq, List.map_map]
  exact h

theorem exists_of_forall₂ {α β : Type} {R : α → β → Prop} {xs : List α} {ys : List β} {y : β}
    (h : List.Forall₂ R xs ys) (hy : y ∈ ys) : ∃ x ∈ xs, R x y := by
  induction h with
  | nil => simp at hy
  | @cons x y' xs ys hxy _ ih =>
    rcases List.mem_cons.mp hy with rfl | hmem
    · exact ⟨x, List.mem_cons_self, hxy⟩
    · obtain ⟨x', hx', hr⟩ := ih hmem
      exact ⟨x', List.mem_cons_of_mem x hx', hr⟩

structure Alike (v w : Value) : Prop where
  left : v.Plain
  right : w.Plain
  doc : ofValue v = ofValue w

theorem Alike.symm {v w : Value} (h : Alike v w) : Alike w v := ⟨h.right, h.left, h.doc.symm⟩

def textOf? : Value → Option String
  | .text s => some s
  | _ => none

def itemsOf? : Value → Option (List Value)
  | .list items => some items
  | _ => none

theorem Alike.number? {v w : Value} (h : Alike v w) : v.number? = w.number? := by
  cases hd : ofValue v with
  | word x => exact number?_of_word hd (h.doc ▸ hd)
  | _ =>
    have hd' := h.doc ▸ hd
    cases h.left <;> simp [ofValue] at hd
    all_goals
      cases h.right <;> simp [ofValue] at hd'
      rfl

theorem Alike.textOf? {v w : Value} (h : Alike v w) : textOf? v = textOf? w := by
  have hd := h.doc
  cases h.left <;> cases h.right <;> first | rfl | simp [ofValue] at hd
  simp_all [Value.display]

theorem forall₂_alike {vs ws : List Value} (hv : ∀ v ∈ vs, v.Plain) (hw : ∀ w ∈ ws, w.Plain)
    (h : ofItems vs = ofItems ws) : List.Forall₂ Alike vs ws := by
  induction vs generalizing ws with
  | nil =>
    cases ws with
    | nil => exact .nil
    | cons w ws => simp [ofItems] at h
  | cons v vs ih =>
    cases ws with
    | nil => simp [ofItems] at h
    | cons w ws =>
      rw [ofItems, ofItems, List.cons.injEq] at h
      rw [List.forall_mem_cons] at hv hw
      exact .cons ⟨hv.1, hw.1, h.1⟩ (ih hv.2 hw.2 h.2)

theorem Alike.list {vs : List Value} {w : Value} (h : Alike (.list vs) w) :
    ∃ ws, w = .list ws ∧ List.Forall₂ Alike vs ws := by
  have hd := h.doc
  cases h.left with
  | list hvs =>
    cases h.right with
    | list hws =>
      simp only [ofValue, Doc.list.injEq] at hd
      exact ⟨_, rfl, forall₂_alike hvs hws hd⟩
    | _ => simp [ofValue] at hd

theorem mem_of_get? {ms : Members} {key : String} {v : Value} (h : ms.get? key = some v) :
    (key, v) ∈ ms := by
  obtain ⟨l₁, l₂, rfl, -⟩ := List.lookup_eq_some_iff.mp h
  simp

theorem Alike.map {ms : Members} {w : Value} (h : Alike (.map ms) w) :
    ∃ ns : Members, w = .map ns ∧
      ∀ key, Option.Rel Alike (ms.get? key) (ns.get? key) := by
  have hd := h.doc
  cases h.left with
  | map hms hpl =>
    cases h.right with
    | @map ns hns hpl' =>
      refine ⟨ns, rfl, fun key => ?_⟩
      simp only [ofValue, Doc.map.injEq] at hd
      have hget := get?_of_map hms key
      rw [hd, get?_of_map hns key] at hget
      cases hv : ms.get? key with
      | none =>
        cases hw : ns.get? key with
        | none => exact .none
        | some w => simp [hv, hw] at hget
      | some v =>
        cases hw : ns.get? key with
        | none => simp [hv, hw] at hget
        | some w =>
          rw [hv, hw, Option.map_some, Option.map_some, Option.some.injEq] at hget
          exact .some ⟨hpl _ (mem_of_get? hv), hpl' _ (mem_of_get? hw), hget.symm⟩
    | _ => simp [ofValue] at hd

theorem textMember_congr {o o' : Option Value} (h : Option.Rel Alike o o') :
    o.bind textOf? = o'.bind textOf? := by
  cases h with
  | some h => exact h.textOf?
  | none => rfl

theorem getD_alike {o o' : Option Value} (h : Option.Rel Alike o o') {d : Value} (hd : d.Plain) :
    Alike (o.getD d) (o'.getD d) := by
  cases h with
  | some h => exact h
  | none => exact ⟨hd, hd, rfl⟩

theorem itemsMember_congr {o o' : Option Value} (h : Option.Rel Alike o o') :
    Option.Rel (List.Forall₂ Alike) (o.bind itemsOf?) (o'.bind itemsOf?) := by
  cases h with
  | none => exact .none
  | @some v w h =>
    by_cases hv : ∃ vs, v = .list vs
    · obtain ⟨vs, rfl⟩ := hv
      obtain ⟨ws, rfl, hall⟩ := h.list
      exact .some hall
    · have hw : ¬∃ ws, w = .list ws := by
        rintro ⟨ws, rfl⟩
        obtain ⟨vs, rfl, -⟩ := h.symm.list
        exact hv ⟨vs, rfl⟩
      have hnone {u : Value} (hu : ¬∃ us, u = .list us) : itemsOf? u = none := by
        cases u with
        | list us => exact absurd ⟨us, rfl⟩ hu
        | _ => rfl
      rw [Option.bind_some, Option.bind_some, hnone hv, hnone hw]
      exact .none

theorem literal_eq (indices : List Nat) (v : Value) :
    literal indices v =
      match textOf? v with
      | some s => .ok (.text s)
      | none =>
        match v.number? with
        | some d => .ok (.number d)
        | none => fail indices .badValue := by
  cases v <;> rfl

section
variable [Pattern.Engine]

theorem fieldOperand_eq (indices : List Nat) (ms : Members) :
    fieldOperand indices ms =
      match (ms.get? "field").bind textOf? with
      | some s =>
        if (Text.trim s.toList).isEmpty then fail indices .noField
        else
          match Condition.parseOperand s with
          | .ok e => .ok e
          | .error (.fault f) => fail indices (.badField s f)
          | .error (.breakdown b) => .error (.breakdown b)
      | none => fail indices .noField := by
  unfold fieldOperand
  cases ms.get? "field" with
  | none => rfl
  | some v => cases v <;> rfl

theorem searchNode_eq (indices : List Nat) (ms : Members) (target : Expr) (body : String) :
    searchNode indices ms target body =
      match textOf? ((ms.get? "flags").getD (.text "i")) with
      | some flags =>
        match Condition.compilePattern body flags with
        | .ok p => .ok (.search p target)
        | .error f => .error (.ofCondition (f.failure none))
      | none => fail indices .badFlags := by
  unfold searchNode
  cases (ms.get? "flags").getD (.text "i") <;> rfl

theorem build_map (room : Nat) (indices : List Nat) (ms : Members) :
    build (room + 1) indices (.map ms) =
      match (ms.get? "operator").bind textOf? with
      | none => fail indices .noOperator
      | some operator =>
        match joinKind? operator with
        | none => leaf indices ms operator
        | some kind =>
          match (ms.get? "conditions").bind itemsOf? with
          | some (first :: rest) => do
            let e ← build room (indices ++ [0]) first
            let parts ← rest.zipIdx.mapM fun p => build room (indices ++ [p.2 + 1]) p.1
            return joinParts kind e parts
          | _ => fail indices (.noConditions operator) := by
  conv_lhs => unfold build
  cases ms.get? "operator" with
  | none => rfl
  | some v =>
    cases v with
    | text operator =>
      dsimp only [Option.bind_some, textOf?]
      cases joinKind? operator with
      | none => rfl
      | some kind =>
        cases ms.get? "conditions" with
        | none => rfl
        | some w =>
          cases w with
          | list items => cases items <;> rfl
          | _ => rfl
    | _ => rfl

theorem build_notMap {v : Value} (h : ∀ ms, v ≠ .map ms) (room : Nat) (indices : List Nat) :
    build (room + 1) indices v = fail indices .notObject := by
  cases v with
  | map ms => exact absurd rfl (h ms)
  | _ => rfl

theorem leaf_congr {ms ns : Members} (h : ∀ key, Option.Rel Alike (ms.get? key) (ns.get? key))
    (indices : List Nat) (operator : String) :
    leaf indices ms operator = leaf indices ns operator := by
  have hfield : fieldOperand indices ms = fieldOperand indices ns := by
    rw [fieldOperand_eq, fieldOperand_eq, textMember_congr (h "field")]
  have hvalue : literal indices ((ms.get? "value").getD .null) =
      literal indices ((ns.get? "value").getD .null) := by
    have hrel := getD_alike (h "value") .null
    rw [literal_eq, literal_eq, hrel.textOf?, hrel.number?]
  have hflags (target : Expr) (body : String) :
      searchNode indices ms target body = searchNode indices ns target body := by
    rw [searchNode_eq, searchNode_eq, (getD_alike (h "flags") (.text "i")).textOf?]
  unfold leaf
  simp only [hfield, hvalue, hflags]

end

theorem mapM_zipIdx_congr {ε β : Type} {f : Value × Nat → Except ε β} {vs ws : List Value}
    (h : List.Forall₂ Alike vs ws) (hf : ∀ v w n, Alike v w → f (v, n) = f (w, n)) (n : Nat) :
    (vs.zipIdx n).mapM f = (ws.zipIdx n).mapM f := by
  induction h generalizing n with
  | nil => rfl
  | @cons v w vs ws hvw _ ih =>
    simp only [List.zipIdx_cons, List.mapM_cons, hf v w n hvw, ih (n + 1)]

theorem build_congr [Pattern.Engine] (room : Nat) (indices : List Nat) {v w : Value}
    (h : Alike v w) :
    build room indices v = build room indices w := by
  induction room generalizing indices v w with
  | zero => rfl
  | succ room ih =>
    by_cases hv : ∃ ms : Members, v = .map ms
    · obtain ⟨ms, rfl⟩ := hv
      obtain ⟨ns, rfl, hmem⟩ := h.map
      rw [build_map, build_map, textMember_congr (hmem "operator")]
      cases (ns.get? "operator").bind textOf? with
      | none => rfl
      | some operator =>
        dsimp only
        cases joinKind? operator with
        | none => exact leaf_congr hmem indices operator
        | some kind =>
          dsimp only
          have hitems := itemsMember_congr (hmem "conditions")
          generalize (ms.get? "conditions").bind itemsOf? = o at hitems ⊢
          generalize (ns.get? "conditions").bind itemsOf? = o' at hitems ⊢
          cases hitems with
          | none => rfl
          | some hall =>
            cases hall with
            | nil => rfl
            | @cons v w vs ws hvw hall =>
              dsimp only
              rw [ih (indices ++ [0]) hvw,
                mapM_zipIdx_congr hall (fun v w n h => ih (indices ++ [n + 1]) h) 0]
    · have hw : ∀ ms, w ≠ .map ms := by
        rintro ms rfl
        obtain ⟨ns, rfl, -⟩ := h.symm.map
        exact hv ⟨ns, rfl⟩
      rw [build_notMap (fun ms hm => hv ⟨ms, hm⟩), build_notMap hw]

theorem key_eq_ok {t : Value} {k : String} :
    key t = .ok k ↔ hasLongInteger t = false ∧ String.ofList (compact t) = k := by
  unfold key
  cases hasLongInteger t <;> simp

theorem compile_congr [Pattern.Engine] {v w : Value} (hv : v.Plain) (hw : w.Plain) {k : String}
    (h : key v = .ok k) (h' : key w = .ok k) : compile v = compile w := by
  have hc : compact v = compact w := by
    obtain ⟨-, hk⟩ := key_eq_ok.mp h
    obtain ⟨-, hk'⟩ := key_eq_ok.mp h'
    exact String.ofList_inj.mp (hk.trans hk'.symm)
  have hd : Alike v w := ⟨hv, hw, compact_inj.mp hc⟩
  unfold compile
  rw [h, h', build_congr _ _ hd]

end Tree

end LedgerRules
