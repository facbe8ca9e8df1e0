import LedgerRules.Proofs.JsonText
import Mathlib.Data.List.Basic
import Std.Data.String.ToInt

/-! The document of a value: what its compact text shows. Two values have one compact text exactly
when they have one document. Words show which kind of value they stand for. -/

namespace LedgerRules.Json
open Numeric

def isNumberChar (c : Char) : Bool :=
  c.isDigit || c = '.' || c = 'e' || c = '+' || c = '-'

theorem isWordChar_of_isNumberChar {c : Char} (h : isNumberChar c = true) :
    isWordChar c = true := by
  simp only [isNumberChar, Bool.or_eq_true, decide_eq_true_eq] at h
  rcases h with (((h | rfl) | rfl) | rfl) | rfl
  · simp [isWordChar, Char.isAlphanum, h]
  all_goals decide

theorem mem_digitsOf {n : Nat} {c : Char} (h : c ∈ Text.digitsOf n) : c.isDigit = true :=
  Nat.isDigit_of_mem_toDigits (by decide) (by decide) h

theorem toString_int_chars (i : Int) : (toString i).toList ≠ [] ∧
    ∀ c ∈ (toString i).toList, c.isDigit = true ∨ c = '-' := by
  have hnat (n : Nat) : n.repr.toList ≠ [] ∧ ∀ c ∈ n.repr.toList, c.isDigit = true := by
    rw [Nat.toList_repr]
    exact ⟨Nat.toDigits_ne_nil, fun c hc => mem_digitsOf hc⟩
  cases i with
  | ofNat n => exact ⟨(hnat n).1, fun c hc => .inl ((hnat n).2 c hc)⟩
  | negSucc n =>
    have he : (toString (Int.negSucc n)).toList = '-' :: (n + 1).repr.toList := by
      show ("-" ++ (n + 1).repr).toList = _
      simp
    rw [he]
    refine ⟨by simp, fun c hc => ?_⟩
    rcases List.mem_cons.mp hc with rfl | hc
    · exact .inr rfl
    · exact .inl ((hnat _).2 c hc)

theorem placePoint_chars {digits : List Char} {point : Int} (hd : ∀ c ∈ digits, c.isDigit = true) :
    ∀ c ∈ Decimal.placePoint digits point, isNumberChar c = true := by
  have hdigit : ∀ c ∈ digits, isNumberChar c = true := fun c hc => by simp [isNumberChar, hd c hc]
  have hzeros (n : Nat) : ∀ c ∈ List.replicate n '0', isNumberChar c = true := by
    intro c hc
    rw [List.eq_of_mem_replicate hc]
    decide
  unfold Decimal.placePoint
  split
  · rw [List.forall_mem_append, List.forall_mem_append]
    exact ⟨⟨List.all_eq_true.mp (by decide), hzeros _⟩, hdigit⟩
  · split
    · rw [List.forall_mem_append]
      exact ⟨hdigit, hzeros _⟩
    · rw [List.forall_mem_append, List.forall_mem_append]
      exact ⟨⟨fun c hc => hdigit c (List.mem_of_mem_take hc), List.all_eq_true.mp (by decide)⟩,
        fun c hc => hdigit c (List.mem_of_mem_drop hc)⟩

theorem placePoint_point {digits : List Char} {point : Int} (h : point < digits.length) :
    '.' ∈ Decimal.placePoint digits point := by
  unfold Decimal.placePoint
  split
  · simp
  · rw [if_neg (by omega)]
    simp

theorem exponentText_chars (e : Int) : ∀ c ∈ Binary64.exponentText e, isNumberChar c = true := by
  unfold Binary64.exponentText Text.padLeft
  rw [List.forall_mem_append, List.forall_mem_append]
  refine ⟨?_, ?_, ?_⟩
  · split <;> exact List.all_eq_true.mp (by decide)
  · intro c hc
    rw [List.eq_of_mem_replicate hc]
    decide
  · exact fun c hc => by simp [isNumberChar, mem_digitsOf hc]

theorem digitsText_chars (n : Nat) (k : Int) :
    (∀ c ∈ Binary64.digitsText n k, isNumberChar c = true) ∧
      ('.' ∈ Binary64.digitsText n k ∨ 'e' ∈ Binary64.digitsText n k) := by
  have hplace (point : Int) :
      ∀ c ∈ Decimal.placePoint (Text.digitsOf n) point, isNumberChar c = true :=
    placePoint_chars fun c => mem_digitsOf
  dsimp only [Binary64.digitsText]
  generalize hp : k + ((Text.digitsOf n).length : Int) = point
  by_cases hrange : (decide (-4 < point) && decide (point ≤ 16)) = true
  · rw [if_pos hrange]
    by_cases hk : 0 ≤ k
    · rw [if_pos hk, List.forall_mem_append]
      exact ⟨⟨hplace point, List.all_eq_true.mp (by decide)⟩, .inl (by simp)⟩
    · rw [if_neg hk, List.append_nil]
      exact ⟨hplace point, .inl (placePoint_point (by omega))⟩
  · rw [if_neg hrange, List.forall_mem_append]
    exact ⟨⟨hplace 1, exponentText_chars _⟩, .inr (by simp [Binary64.exponentText])⟩

theorem toChars_finite (n : Bool) (m : Nat) (e : Int) :
    (∀ c ∈ (Binary64.finite n m e).toChars, isNumberChar c = true) ∧
      ('.' ∈ (Binary64.finite n m e).toChars ∨ 'e' ∈ (Binary64.finite n m e).toChars) := by
  have hsign : ∀ c ∈ Decimal.signText n, isNumberChar c = true := by
    cases n <;> exact List.all_eq_true.mp (by decide)
  unfold Binary64.toChars
  rw [List.forall_mem_append, List.mem_append, List.mem_append]
  split
  · exact ⟨⟨hsign, List.all_eq_true.mp (by decide)⟩, .inl (.inr (by decide))⟩
  · obtain ⟨hchars, hmark⟩ := digitsText_chars (Binary64.shortest m e).1 (Binary64.shortest m e).2
    exact ⟨⟨hsign, hchars⟩, hmark.imp .inr .inr⟩

theorem floatText_proper (x : Binary64) :
    floatText x ≠ [] ∧ ∀ c ∈ floatText x, isWordChar c = true := by
  cases x with
  | finite n m e =>
    obtain ⟨hchars, hmark⟩ := toChars_finite n m e
    refine ⟨?_, fun c hc => isWordChar_of_isNumberChar (hchars c hc)⟩
    rcases hmark with h | h <;> exact List.ne_nil_of_mem h
  | infinite n => cases n <;> exact ⟨by decide, List.all_eq_true.mp (by decide)⟩
  | nan => exact ⟨by decide, List.all_eq_true.mp (by decide)⟩

def Word.ofText (s : String) (h : s.toList ≠ [] ∧ s.toList.all isWordChar = true) : Word :=
  ⟨s.toList, h.1, List.all_eq_true.mp h.2⟩

def Word.ofInt (i : Int) : Word where
  chars := (toString i).toList
  ne_nil := (toString_int_chars i).1
  proper := by
    intro c hc
    rcases (toString_int_chars i).2 c hc with h | rfl
    · simp [isWordChar, Char.isAlphanum, h]
    · decide

def Word.ofFloat (x : Binary64) : Word :=
  ⟨floatText x, (floatText_proper x).1, (floatText_proper x).2⟩

namespace Doc

def sortMembers (ms : List (String × Doc)) : List (String × Doc) :=
  ms.mergeSort fun a b => decide (a.1 ≤ b.1)

mutual

def ofValue : Value → Doc
  | .null => word (.ofText "null" (by decide))
  | .bool b => word (if b then .ofText "true" (by decide) else .ofText "false" (by decide))
  | .int i => word (.ofInt i)
  | .float x => word (.ofFloat x)
  | .list items => list (ofItems items)
  | .map members => map (sortMembers (ofMembers members))
  | v => text v.display

def ofItems : List Value → List Doc
  | [] => []
  | v :: rest => ofValue v :: ofItems rest

def ofMembers : List (String × Value) → List (String × Doc)
  | [] => []
  | (k, v) :: rest => (k, ofValue v) :: ofMembers rest

end

theorem writeMembers_eq (ms : List (String × Doc)) :
    writeMembers ms = (ms.map fun m => (m.1, m.2.write)).map compactMember := by
  induction ms with
  | nil => rfl
  | cons m ms ih => rw [writeMembers, ih]; rfl

theorem sortMembers_write (ms : List (String × Doc)) :
    (sortMembers ms).map (fun m => (m.1, m.2.write)) =
      Json.sortMembers (ms.map fun m => (m.1, m.2.write)) :=
  List.map_mergeSort fun _ _ _ _ => rfl

mutual

theorem compact_eq_write : (v : Value) → compact v = (ofValue v).write
  | .null => rfl
  | .bool true => rfl
  | .bool false => rfl
  | .int i => rfl
  | .float x => rfl
  | .decimal d => rfl
  | .text s => rfl
  | .date d => rfl
  | .moment t => rfl
  | .list items => by rw [compact, ofValue, write, compactItems_eq_write items]
  | .map members => by
    rw [compact, ofValue, write, writeMembers_eq, compactMembers_eq_write members,
      sortMembers_write]

theorem compactItems_eq_write : (vs : List Value) → compactItems vs = writeItems (ofItems vs)
  | [] => rfl
  | v :: vs => by
    rw [compactItems, ofItems, writeItems, compact_eq_write v, compactItems_eq_write vs]

theorem compactMembers_eq_write : (ms : List (String × Value)) →
    compactMembers ms = (ofMembers ms).map fun m => (m.1, m.2.write)
  | [] => rfl
  | (k, v) :: ms => by
    rw [compactMembers, ofMembers, List.map_cons, compact_eq_write v, compactMembers_eq_write ms]

end

/-- Two values have one compact text exactly when they have one document. -/
theorem compact_inj {v w : Value} : compact v = compact w ↔ ofValue v = ofValue w := by
  rw [compact_eq_write, compact_eq_write]
  exact ⟨write_inj, congrArg write⟩

end Doc

end LedgerRules.Json
