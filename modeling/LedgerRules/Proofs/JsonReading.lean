import Mathlib.Data.List.Nodup
import LedgerRules.Json.Parser
import LedgerRules.Proofs.BuiltTrees
import LedgerRules.Proofs.ShortestDigits

/-! What is read from documents: values in which every number can be written and read once more, and
no map has a key twice. -/

namespace LedgerRules

namespace Members

theorem mem_set {ms : Members} {key : String} {v : Value} {m : String × Value}
    (h : m ∈ ms.set key v) : m = (key, v) ∨ m ∈ ms := by
  induction ms with
  | nil => exact .inl (List.mem_singleton.mp h)
  | cons head rest ih =>
    obtain ⟨k, w⟩ := head
    unfold set at h
    split at h
    next hk =>
      subst hk
      exact (List.mem_cons.mp h).imp_right (List.mem_cons_of_mem _)
    next =>
      rcases List.mem_cons.mp h with rfl | h
      · exact .inr List.mem_cons_self
      · exact (ih h).imp_right (List.mem_cons_of_mem _)

theorem keys_set (ms : Members) (key : String) (v : Value) :
    (ms.set key v).map Prod.fst =
      if key ∈ ms.map Prod.fst then ms.map Prod.fst else ms.map Prod.fst ++ [key] := by
  induction ms with
  | nil => rfl
  | cons head rest ih =>
    obtain ⟨k, w⟩ := head
    by_cases hk : k = key
    · simp [set, hk]
    · simp only [set, if_neg hk, List.map_cons, ih, List.mem_cons, Ne.symm hk, false_or]
      split <;> rfl

theorem nodup_set {ms : Members} (h : (ms.map Prod.fst).Nodup) (key : String) (v : Value) :
    ((ms.set key v).map Prod.fst).Nodup := by
  rw [keys_set]
  split
  next => exact h
  next hnew =>
    rw [← List.concat_eq_append]
    exact List.Nodup.concat hnew h

theorem set_new {ms : Members} {key : String} (h : key ∉ ms.map Prod.fst) (v : Value) :
    ms.set key v = ms ++ [(key, v)] := by
  induction ms with
  | nil => rfl
  | cons head rest ih =>
    obtain ⟨k, w⟩ := head
    rw [List.map_cons, List.mem_cons, not_or] at h
    rw [set, if_neg (Ne.symm h.1), ih h.2, List.cons_append]

theorem ofPairs_eq {ms : Members} (h : (ms.map Prod.fst).Nodup) : ofPairs ms = ms := by
  have hfold : ∀ (rest before : Members), ((before ++ rest).map Prod.fst).Nodup →
      rest.foldl (fun m p => m.set p.1 p.2) before = before ++ rest := by
    intro rest
    induction rest with
    | nil => exact fun before _ => (List.append_nil before).symm
    | cons m rest ih =>
      intro before hn
      have hnew : m.1 ∉ before.map Prod.fst := by
        rw [List.map_append, List.nodup_append] at hn
        exact fun hmem => hn.2.2 _ hmem m.1 (by simp) rfl
      rw [List.foldl_cons, set_new hnew, ih _ (by simpa using hn), List.append_assoc]
      rfl
  exact hfold ms [] h

theorem ofPairs_induction {P : Members → Prop} {pairs : Members} (hnil : P [])
    (hset : ∀ ms, ∀ p ∈ pairs, P ms → P (ms.set p.1 p.2)) : P (ofPairs pairs) :=
  List.foldlRecOn pairs _ hnil fun ms h p hp => hset ms p hp h

end Members

namespace Json
open Numeric

inductive Readable : Value → Prop
  | null : Readable .null
  | bool (b : Bool) : Readable (.bool b)
  | int {i : Int} : digitCount i.natAbs ≤ Text.longestInteger → Readable (.int i)
  | float {x : Binary64} : x.Canonical → Readable (.float x)
  | text (s : String) : Readable (.text s)
  | list {items : List Value} : (∀ v ∈ items, Readable v) → Readable (.list items)
  | map {members : Members} : (members.map Prod.fst).Nodup → (∀ m ∈ members, Readable m.2) →
      Readable (.map members)

def Gives {α : Type} (read : Reader α) (P : α → Prop) : Prop :=
  ∀ c a next, read c = .ok (a, next) → P a

theorem digitValue?_le (c : Char) : (Text.digitValue? c).getD 0 ≤ 9 := by
  unfold Text.digitValue?
  split
  · split
    next h =>
      simp only [Bool.and_eq_true, decide_eq_true_eq] at h
      simp only [Option.getD_some]
      omega
    next => simp
  · cases hz : Text.digitZeros.find? fun z => z ≤ c.toNat && c.toNat ≤ z + 9 with
    | none => simp
    | some z =>
      have hrange := List.find?_some hz
      simp only [Bool.and_eq_true, decide_eq_true_eq] at hrange
      simp only [Option.map_some, Option.getD_some]
      omega

theorem digitsValue_lt (cs : List Char) : Text.digitsValue cs < 10 ^ cs.length := by
  induction cs using List.reverseRecOn with
  | nil => decide
  | append_singleton cs c ih =>
    have hdigit := digitValue?_le c
    rw [Text.digitsValue_append, List.length_append, List.length_singleton, Nat.pow_succ]
    omega

theorem wholePart_pos {cs whole rest : List Char} (h : wholePart cs = some (whole, rest)) :
    0 < whole.length := by
  unfold wholePart at h
  split at h
  next =>
    obtain ⟨rfl, -⟩ := Prod.mk.inj (Option.some.inj h)
    decide
  next c more _ =>
    split at h
    next hd =>
      obtain rfl := (congrArg Prod.fst (Option.some.inj h)).symm
      rw [List.span_eq_takeWhile_dropWhile, List.takeWhile_cons_of_pos hd]
      exact Nat.succ_pos _
    next => simp at h
  next => simp at h

theorem readNumber_gives : Gives readNumber Readable := by
  intro c v next h
  unfold readNumber at h
  dsimp only at h
  split at h
  next => simp [Cursor.fail] at h
  next whole rest hwhole =>
    split at h
    next =>
      split at h
      next => simp at h
      next hlength =>
        obtain ⟨rfl, -⟩ := Prod.mk.inj (Except.ok.inj h)
        have hcount := digitCount_le (wholePart_pos hwhole) (digitsValue_lt whole)
        refine .int ?_
        split <;> simp only [Int.natAbs_neg, Int.natAbs_natCast] <;> omega
    next =>
      obtain ⟨rfl, -⟩ := Prod.mk.inj (Except.ok.inj h)
      refine .float ?_
      unfold Binary64.parse?
      cases Decimal.parse? _ with
      | none => trivial
      | some d => exact Binary64.ofDecimal_canonical d

theorem readLeaf_gives : Gives readLeaf Readable := by
  intro c v next h
  unfold readLeaf at h
  split at h
  next found hword =>
    obtain rfl := Except.ok.inj h
    obtain ⟨w, hw, heq⟩ := Option.map_eq_some_iff.mp hword
    obtain ⟨rfl, -⟩ := Prod.mk.inj heq
    have hmem := List.mem_of_find?_eq_some hw
    simp only [words, List.mem_cons, List.not_mem_nil, or_false] at hmem
    rcases hmem with rfl | rfl | rfl | rfl | rfl | rfl
    · exact .null
    · exact .bool _
    · exact .bool _
    all_goals exact .float trivial
  next =>
    split at h
    next => simp [Cursor.fail] at h
    next => exact readNumber_gives c v next h

theorem readItems_gives {item : Reader Value} (hitem : Gives item Readable) (fuel : Nat) :
    Gives (readItems item fuel) fun vs => ∀ v ∈ vs, Readable v := by
  induction fuel with
  | zero => intro c vs next h; simp [readItems, Cursor.fail] at h
  | succ fuel ih =>
    intro c vs next h
    obtain ⟨⟨v, mid⟩, hv, h⟩ := bind_eq_ok.mp h
    have hfirst := hitem c v mid hv
    dsimp only at h
    split at h
    next =>
      obtain ⟨rfl, -⟩ := Prod.mk.inj (Except.ok.inj h)
      exact List.forall_mem_singleton.mpr hfirst
    next =>
      obtain ⟨⟨vs, last⟩, hvs, h⟩ := bind_eq_ok.mp h
      obtain ⟨rfl, -⟩ := Prod.mk.inj (Except.ok.inj h)
      exact List.forall_mem_cons.mpr ⟨hfirst, ih _ vs last hvs⟩
    next => simp [Cursor.fail] at h

theorem readMember_gives {d : Dialect} {item : Reader Value} (hitem : Gives item Readable) :
    Gives (readMember d item) fun m => Readable m.2 := by
  intro c m next h
  unfold readMember at h
  split at h
  next =>
    obtain ⟨⟨key, mid⟩, -, h⟩ := bind_eq_ok.mp h
    dsimp only at h
    split at h
    next =>
      obtain ⟨⟨v, last⟩, hv, h⟩ := bind_eq_ok.mp h
      obtain ⟨rfl, -⟩ := Prod.mk.inj (Except.ok.inj h)
      exact hitem _ v last hv
    next => simp [Cursor.fail] at h
  next => simp [Cursor.fail] at h

theorem readMembers_gives {d : Dialect} {item : Reader Value} (hitem : Gives item Readable)
    (fuel : Nat) : Gives (readMembers d item fuel) fun ms => ∀ m ∈ ms, Readable m.2 := by
  induction fuel with
  | zero => intro c ms next h; simp [readMembers, Cursor.fail] at h
  | succ fuel ih =>
    intro c ms next h
    obtain ⟨⟨m, mid⟩, hm, h⟩ := bind_eq_ok.mp h
    have hfirst := readMember_gives hitem c m mid hm
    dsimp only at h
    split at h
    next =>
      obtain ⟨rfl, -⟩ := Prod.mk.inj (Except.ok.inj h)
      exact List.forall_mem_singleton.mpr hfirst
    next =>
      obtain ⟨⟨ms, last⟩, hms, h⟩ := bind_eq_ok.mp h
      obtain ⟨rfl, -⟩ := Prod.mk.inj (Except.ok.inj h)
      exact List.forall_mem_cons.mpr ⟨hfirst, ih _ ms last hms⟩
    next => simp [Cursor.fail] at h

theorem readable_ofPairs {ms : Members} (h : ∀ m ∈ ms, Readable m.2) :
    Readable (.map (Members.ofPairs ms)) := by
  have hboth : ((Members.ofPairs ms).map Prod.fst).Nodup ∧
      ∀ m ∈ Members.ofPairs ms, Readable m.2 := by
    refine Members.ofPairs_induction (P := fun ms => (ms.map Prod.fst).Nodup ∧
      ∀ m ∈ ms, Readable m.2) ⟨.nil, by simp⟩ fun before p hp hbefore => ?_
    refine ⟨Members.nodup_set hbefore.1 _ _, fun m hm => ?_⟩
    rcases Members.mem_set hm with rfl | hm
    · exact h p hp
    · exact hbefore.2 m hm
  exact .map hboth.1 hboth.2

theorem readValue_gives (d : Dialect) (room : Nat) : Gives (readValue d room) Readable := by
  induction room using Nat.strongRecOn with
  | _ room ih =>
    intro c v next h
    unfold readValue at h
    split at h
    next =>
      obtain ⟨⟨s, last⟩, -, h⟩ := bind_eq_ok.mp h
      obtain ⟨rfl, -⟩ := Prod.mk.inj (Except.ok.inj h)
      exact .text s
    next =>
      split at h
      next => simp [Cursor.fail] at h
      next room =>
        dsimp only at h
        split at h
        next =>
          obtain ⟨rfl, -⟩ := Prod.mk.inj (Except.ok.inj h)
          exact .list (by simp)
        next =>
          obtain ⟨⟨vs, last⟩, hvs, h⟩ := bind_eq_ok.mp h
          obtain ⟨rfl, -⟩ := Prod.mk.inj (Except.ok.inj h)
          exact .list (readItems_gives (ih room (Nat.lt_succ_self _)) _ _ vs last hvs)
    next =>
      split at h
      next => simp [Cursor.fail] at h
      next room =>
        dsimp only at h
        split at h
        next =>
          obtain ⟨rfl, -⟩ := Prod.mk.inj (Except.ok.inj h)
          exact .map .nil (by simp)
        next =>
          obtain ⟨⟨ms, last⟩, hms, h⟩ := bind_eq_ok.mp h
          obtain ⟨rfl, -⟩ := Prod.mk.inj (Except.ok.inj h)
          exact readable_ofPairs (readMembers_gives (ih room (Nat.lt_succ_self _)) _ _ ms last hms)
    next => exact readLeaf_gives c v next h

theorem readable_of_parse {d : Dialect} {cs : List Char} {v : Value} (h : parse d cs = .ok v) :
    Readable v := by
  unfold parse at h
  split at h
  next => simp at h
  next =>
    obtain ⟨⟨w, next⟩, hw, h⟩ := bind_eq_ok.mp h
    dsimp only at h
    split at h
    next =>
      obtain rfl := Except.ok.inj h
      exact readValue_gives d _ _ w next hw
    next => simp [Cursor.fail] at h

end Json

end LedgerRules
