import Mathlib.Data.List.Perm.Subperm
import LedgerRules.Proofs.Comparisons

/-! Equality of values is an equivalence. A value that holds no not-a-number means something: a
number means its position, a moment with a known distance its instant, a map what it holds under
each key. To be equal is to be of one kind and to mean the same, so that neither the sort and the
digits of a number nor the order of the members of a map counts, at any depth. -/

namespace LedgerRules
open Numeric Calendar

theorem Numeric.Binary64.isNan_exact (x : Binary64) : x.exact.isNan = true ↔ x = .nan := by
  cases x with
  | finite n m e => by_cases he : 0 ≤ e <;> simp [exact, he, Decimal.isNan]
  | infinite n => simp [exact, Decimal.isNan]
  | nan => simp [exact, Decimal.isNan]

namespace Value
variable {v w : Value} {a b : Decimal} {p q : Position}

inductive Kind
  | null | truth | number | text | date | moment | list | map
deriving DecidableEq

def kind : Value → Kind
  | null => .null
  | bool _ => .truth
  | int _ | float _ | decimal _ => .number
  | text _ => .text
  | date _ => .date
  | moment _ => .moment
  | list _ => .list
  | map _ => .map

def innerKind : Value → Kind
  | bool _ => .number
  | v => v.kind

theorem strictEquals_unlike (h : v.kind ≠ w.kind) : v.strictEquals w = .ok false := by
  cases v <;> cases w <;> first | rfl | (exfalso; exact h rfl)

theorem itemEquals_unlike (h : v.innerKind ≠ w.innerKind) : itemEquals v w = .ok false := by
  cases v <;> cases w <;> first | rfl | (exfalso; exact h rfl)

theorem itemEquals_numbers (ha : v.exactNumber? = some a) (hb : w.exactNumber? = some b) :
    itemEquals v w = decimalEquals a b := by
  cases v <;> cases ha <;> cases w <;> cases hb <;> rfl

theorem strictEquals_eq_itemEquals (hk : v.kind = w.kind) (hn : v.kind ≠ .number) :
    v.strictEquals w = itemEquals v w := by
  cases v with
  | int | float | decimal => exact absurd rfl hn
  | bool b =>
    cases w with
    | bool c => cases b <;> cases c <;> rfl
    | _ => cases hk
  | _ => cases w <;> rfl

theorem number?_of_kind (h : v.kind = .number) : ∃ a, v.number? = some a := by
  cases v with
  | int | float | decimal => exact ⟨_, rfl⟩
  | _ => cases h

theorem kind_of_isNan (h : v.isNan = true) : v.kind = .number := by
  cases v with
  | int | float | decimal => rfl
  | _ => cases h

theorem isCollection_of_isNan (h : v.isNan = true) : v.isCollection = false := by
  cases v with
  | list | map => cases h
  | _ => rfl

inductive Meaning
  | null
  | number (position : Option Position)
  | text (s : String)
  | date (d : Date)
  | instant (i : Int)
  | reading (ticks : Nat)
  | list (items : List Meaning)
  | map (find : String → Option Meaning)

def Meaning.kind : Meaning → Kind
  | null => .null
  | number _ => .number
  | text _ => .text
  | date _ => .date
  | instant _ | reading _ => .moment
  | list _ => .list
  | map _ => .map

def momentMeaning (t : Moment) : Meaning := (t.instant?.map .instant).getD (.reading t.ticks)

mutual

def meaning : Value → Meaning
  | null => .null
  | bool b => .number (Decimal.ofInt (if b then 1 else 0)).position?
  | int i => .number (Decimal.ofInt i).position?
  | float x => .number x.exact.position?
  | decimal d => .number d.position?
  | text s => .text s
  | date d => .date d
  | moment t => momentMeaning t
  | list items => .list (meanings items)
  | map members => .map (findMeaning members)

def meanings : List Value → List Meaning
  | [] => []
  | v :: vs => v.meaning :: meanings vs

def findMeaning : List (String × Value) → String → Option Meaning
  | [], _ => none
  | (k, v) :: rest, key => if key == k then some v.meaning else findMeaning rest key

end

theorem meanings_eq (vs : List Value) : meanings vs = vs.map meaning := by
  induction vs with
  | nil => rfl
  | cons v vs ih => rw [meanings, ih, List.map_cons]

theorem findMeaning_eq (members : List (String × Value)) :
    findMeaning members = fun key => (members.lookup key).map meaning := by
  funext key
  induction members with
  | nil => rfl
  | cons m rest ih =>
    rw [findMeaning, List.lookup_cons, ih]
    cases key == m.1 <;> rfl

theorem momentMeaning_kind (t : Moment) : (momentMeaning t).kind = .moment := by
  rw [momentMeaning]
  cases t.instant? <;> rfl

theorem meaning_kind (v : Value) : v.meaning.kind = v.innerKind := by
  cases v with
  | moment t => exact momentMeaning_kind t
  | _ => rfl

theorem meaning_number (ha : v.exactNumber? = some a) : v.meaning = .number a.position? := by
  cases v <;> cases ha <;> rfl

theorem momentMeaning_eq_iff (t t' : Moment) :
    momentMeaning t = momentMeaning t' ↔ t.same t' = true := by
  rw [momentMeaning, momentMeaning, Moment.same]
  cases t.instant? <;> cases t'.instant? <;> simp

def Answers (r : Except EqualityFault Bool) (p : Prop) : Prop := ∃ b, r = .ok b ∧ (b = true ↔ p)

section
variable {r s : Except EqualityFault Bool} {P Q : Prop}

theorem answers_decide [Decidable P] : Answers (.ok (decide P)) P :=
  ⟨_, rfl, decide_eq_true_iff⟩

theorem answers_false (h : ¬P) : Answers (.ok false) P := ⟨false, rfl, by simp [h]⟩

theorem Answers.congr (h : Answers r P) (hiff : P ↔ Q) : Answers r Q := by
  obtain ⟨b, hr, hb⟩ := h
  exact ⟨b, hr, hb.trans hiff⟩

theorem Answers.eq_ok_true (h : Answers r P) : r = .ok true ↔ P := by
  obtain ⟨b, rfl, hb⟩ := h
  rw [← hb, Except.ok.injEq]

theorem Answers.unique (hr : Answers r P) (hs : Answers s P) : r = s := by
  obtain ⟨b, rfl, hb⟩ := hr
  obtain ⟨c, rfl, hc⟩ := hs
  rw [Bool.eq_iff_iff.mpr (hb.trans hc.symm)]

theorem Answers.and : Answers r P → Answers s Q →
    Answers (match r with
      | .ok true => s
      | other => other) (P ∧ Q) := by
  rintro ⟨b, rfl, hb⟩ hs
  cases b with
  | true => exact hs.congr ((and_iff_right (hb.mp rfl)).symm)
  | false => exact answers_false fun h => Bool.false_ne_true (hb.mpr h.1)

end

/-- No number in the value is a not-a-number, at any depth; a binary one is a double, and no map
holds a key twice. -/
inductive Proper : Value → Prop
  | null : Proper .null
  | bool (b : Bool) : Proper (.bool b)
  | int (i : Int) : Proper (.int i)
  | float {x : Binary64} : x.Canonical → x ≠ .nan → Proper (.float x)
  | decimal {d : Decimal} : d.isNan = false → Proper (.decimal d)
  | text (s : String) : Proper (.text s)
  | date (d : Date) : Proper (.date d)
  | moment (t : Moment) : Proper (.moment t)
  | list {items : List Value} : (∀ v ∈ items, Proper v) → Proper (.list items)
  | map {members : List (String × Value)} : (members.map Prod.fst).Nodup →
      (∀ m ∈ members, Proper m.2) → Proper (.map members)

/-- A not-a-number occurs, if at all, only as the whole value. -/
def Whole (v : Value) : Prop := v.Proper ∨ v.isNan = true

theorem Proper.number (h : v.Proper) (hk : v.kind = .number) : v.Number ∧ v.isNan = false := by
  cases h with
  | int i => exact ⟨.int i, rfl⟩
  | float hx hne => exact ⟨.float hx, by simpa [isNan] using hne⟩
  | decimal hd => exact ⟨.decimal _, hd⟩
  | _ => cases hk

theorem Proper.position (h : v.Proper) (hk : v.kind = .number) :
    ∃ a p, v.number? = some a ∧ a.position? = some p := by
  obtain ⟨hnumber, hnan⟩ := h.number hk
  obtain ⟨a, ha, hsame⟩ := hnumber.number?
  obtain ⟨p, hp⟩ := Decimal.position?_isSome (hsame.trans hnan)
  exact ⟨a, p, ha, hp⟩

theorem Proper.innerPosition (h : v.Proper) (hk : v.innerKind = .number) :
    ∃ a p, v.exactNumber? = some a ∧ a.position? = some p := by
  suffices hexact : ∃ a, v.exactNumber? = some a ∧ a.isNan = false by
    obtain ⟨a, ha, hnan⟩ := hexact
    obtain ⟨p, hp⟩ := Decimal.position?_isSome hnan
    exact ⟨a, p, ha, hp⟩
  cases h with
  | bool | int => exact ⟨_, rfl, rfl⟩
  | @float x _ hne => exact ⟨x.exact, rfl, by simp [← Bool.not_eq_true, x.isNan_exact, hne]⟩
  | decimal hd => exact ⟨_, rfl, hd⟩
  | _ => cases hk

theorem answers_unlike (h : v.innerKind ≠ w.innerKind) :
    Answers (itemEquals v w) (v.meaning = w.meaning) := by
  rw [itemEquals_unlike h]
  refine answers_false fun heq => h ?_
  rw [← meaning_kind, ← meaning_kind, heq]

theorem answers_numbers (ha : v.exactNumber? = some a) (hb : w.exactNumber? = some b)
    (hp : a.position? = some p) (hq : b.position? = some q) :
    Answers (itemEquals v w) (v.meaning = w.meaning) := by
  rw [itemEquals_numbers ha hb, decimalEquals_positions hp hq, meaning_number ha, meaning_number hb,
    hp, hq]
  exact answers_decide.congr (by simp)

theorem Proper.answers_single (hv : v.Proper) (hw : w.Proper) (hsingle : v.isCollection = false) :
    Answers (itemEquals v w) (v.meaning = w.meaning) := by
  by_cases hk : v.innerKind = w.innerKind
  · by_cases hn : v.innerKind = .number
    · obtain ⟨a, p, ha, hp⟩ := hv.innerPosition hn
      obtain ⟨b, q, hb, hq⟩ := hw.innerPosition (hk ▸ hn)
      exact answers_numbers ha hb hp hq
    · cases v with
      | null =>
        cases w with
        | null => exact ⟨true, rfl, by simp⟩
        | _ => cases hk
      | text s =>
        cases w with
        | text t => exact answers_decide.congr (by simp [meaning])
        | _ => cases hk
      | date d =>
        cases w with
        | date e => exact answers_decide.congr (by simp [meaning])
        | _ => cases hk
      | moment t =>
        cases w with
        | moment t' => exact ⟨_, rfl, (momentMeaning_eq_iff t t').symm⟩
        | _ => cases hk
      | list | map => cases hsingle
      | bool | int | float | decimal => exact absurd rfl hn
  · exact answers_unlike hk

/-- The answers of a value, as the induction gives them for the parts of a collection. -/
def Settled (v : Value) : Prop :=
  ∀ w : Value, w.Proper → Answers (itemEquals v w) (v.meaning = w.meaning)

theorem answers_items {xs ys : List Value} (hx : ∀ v ∈ xs, Settled v) (hy : ∀ w ∈ ys, w.Proper)
    (hlength : xs.length = ys.length) :
    Answers (itemsEqual xs ys) (xs.map meaning = ys.map meaning) := by
  induction xs generalizing ys with
  | nil =>
    obtain rfl := List.eq_nil_of_length_eq_zero hlength.symm
    exact ⟨true, rfl, by simp⟩
  | cons v vs ih =>
    cases ys with
    | nil => simp at hlength
    | cons w ws =>
      rw [List.forall_mem_cons] at hx hy
      have hrest := ih hx.2 hy.2 (Nat.succ.inj hlength)
      refine ((hx.1 w hy.1).and hrest).congr ?_
      rw [List.map_cons, List.map_cons, List.cons.injEq]

theorem answers_lists {xs ys : List Value} (hx : ∀ v ∈ xs, Settled v) (hy : ∀ w ∈ ys, w.Proper) :
    Answers (itemEquals (list xs) (list ys)) ((list xs).meaning = (list ys).meaning) := by
  rw [itemEquals, meaning, meaning, meanings_eq, meanings_eq, Meaning.list.injEq]
  split
  · exact answers_items hx hy ‹_›
  · rename_i hlength
    refine answers_false fun heq => hlength ?_
    simpa using congrArg List.length heq

theorem answers_members {xs ys : List (String × Value)} (hx : ∀ m ∈ xs, Settled m.2)
    (hy : ∀ m ∈ ys, m.2.Proper) :
    Answers (membersEqual xs ys)
      (∀ m ∈ xs, (ys.lookup m.1).map meaning = some m.2.meaning) := by
  induction xs with
  | nil => exact ⟨true, rfl, by simp⟩
  | cons m rest ih =>
    obtain ⟨k, v⟩ := m
    rw [List.forall_mem_cons] at hx ⊢
    rw [membersEqual]
    cases hfind : ys.lookup k with
    | none => exact answers_false fun h => nomatch h.1
    | some w =>
      have hw : w.Proper := by
        obtain ⟨l₁, l₂, rfl, -⟩ := List.lookup_eq_some_iff.mp hfind
        exact hy (k, w) (by simp)
      refine ((hx.1 w hw).and (ih hx.2)).congr (and_congr_left fun _ => ?_)
      rw [Option.map_some, Option.some.injEq]
      exact eq_comm

end Value

section
variable {α β : Type} {f : α → β} {xs ys : List (String × α)}

theorem lookup_of_mem (h : (xs.map Prod.fst).Nodup) {m : String × α} (hm : m ∈ xs) :
    xs.lookup m.1 = some m.2 := by
  obtain ⟨l₁, l₂, rfl⟩ := List.append_of_mem hm
  refine List.lookup_eq_some_iff.mpr ⟨l₁, l₂, rfl, fun n hn => bne_iff_ne.mpr fun heq => ?_⟩
  rw [List.map_append, List.map_cons, List.perm_middle.nodup_iff, List.nodup_cons] at h
  exact h.1 (List.mem_append_left _ (List.mem_map.mpr ⟨n, hn, heq.symm⟩))

theorem lookup_isSome_iff (key : String) :
    (xs.lookup key).isSome = true ↔ key ∈ xs.map Prod.fst := by
  rw [List.lookup_isSome_iff, List.mem_map]
  exact exists_congr fun m => and_congr_right fun _ => beq_iff_eq.trans eq_comm

theorem keys_subset (hsub : ∀ m ∈ xs, (ys.lookup m.1).map f = some (f m.2)) :
    xs.map Prod.fst ⊆ ys.map Prod.fst := by
  intro key hkey
  obtain ⟨m, hm, rfl⟩ := List.mem_map.mp hkey
  rw [← lookup_isSome_iff, ← Option.isSome_map (f := f), hsub m hm]
  rfl

theorem lookup_eq_iff (hx : (xs.map Prod.fst).Nodup) (hy : (ys.map Prod.fst).Nodup) :
    (∀ key, (xs.lookup key).map f = (ys.lookup key).map f) ↔
      xs.length = ys.length ∧ ∀ m ∈ xs, (ys.lookup m.1).map f = some (f m.2) := by
  constructor
  · intro hall
    have hkeys : (xs.map Prod.fst).Perm (ys.map Prod.fst) := by
      refine (List.perm_ext_iff_of_nodup hx hy).mpr fun key => ?_
      rw [← lookup_isSome_iff, ← lookup_isSome_iff, ← Option.isSome_map (f := f), hall,
        Option.isSome_map]
    refine ⟨by simpa using hkeys.length_eq, fun m hm => ?_⟩
    rw [← hall, lookup_of_mem hx hm, Option.map_some]
  · rintro ⟨hlength, hsub⟩ key
    -- No key is left for the second map alone: it has as many as the first, and those of the first.
    have hkeys : (xs.map Prod.fst).Perm (ys.map Prod.fst) :=
      (hx.subperm (keys_subset hsub)).perm_of_length_le (by simp [hlength])
    cases hfind : xs.lookup key with
    | some v =>
      obtain ⟨l₁, l₂, rfl, -⟩ := List.lookup_eq_some_iff.mp hfind
      exact (hsub (key, v) (by simp)).symm
    | none =>
      have habsent : key ∉ ys.map Prod.fst := by
        rw [← hkeys.mem_iff, ← lookup_isSome_iff, hfind]
        simp
      rw [← lookup_isSome_iff, Option.not_isSome_iff_eq_none] at habsent
      rw [habsent]

end

namespace Value
variable {v w : Value}

theorem answers_maps {xs ys : List (String × Value)} (hx : ∀ m ∈ xs, Settled m.2)
    (hxkeys : (xs.map Prod.fst).Nodup) (hy : ∀ m ∈ ys, m.2.Proper)
    (hykeys : (ys.map Prod.fst).Nodup) :
    Answers (itemEquals (map xs) (map ys)) ((map xs).meaning = (map ys).meaning) := by
  rw [itemEquals, meaning, meaning, findMeaning_eq, findMeaning_eq, Meaning.map.injEq, funext_iff,
    lookup_eq_iff hxkeys hykeys]
  split
  · rename_i hlength
    exact (answers_members hx hy).congr (and_iff_right hlength).symm
  · rename_i hlength
    exact answers_false fun h => hlength h.1

theorem Proper.settled (hv : v.Proper) : Settled v := by
  -- Only a list or a map needs the answers of its parts; a single value goes by its inner kind.
  induction hv with
  | list _ ih =>
    intro w hw
    cases hw with
    | list hy => exact answers_lists ih hy
    | _ => exact answers_unlike nofun
  | map hkeys _ ih =>
    intro w hw
    cases hw with
    | map hykeys hy => exact answers_maps ih hkeys hy hykeys
    | _ => exact answers_unlike nofun
  | _ =>
    intro w hw
    refine Proper.answers_single ?_ hw rfl
    constructor <;> assumption

def wholeMeaning (v : Value) : Meaning :=
  match v.number? with
  | some d => .number d.position?
  | none => v.meaning

theorem wholeMeaning_number {a : Decimal} (ha : v.number? = some a) :
    v.wholeMeaning = .number a.position? := by
  rw [wholeMeaning, ha]

theorem wholeMeaning_other (hn : v.kind ≠ .number) : v.wholeMeaning = v.meaning := by
  cases v with
  | int | float | decimal => exact absurd rfl hn
  | _ => rfl

theorem Proper.answers (hv : v.Proper) (hw : w.Proper) :
    Answers (v.strictEquals w) (v.kind = w.kind ∧ v.wholeMeaning = w.wholeMeaning) := by
  by_cases hk : v.kind = w.kind
  · refine Answers.congr ?_ (and_iff_right hk).symm
    by_cases hn : v.kind = .number
    · obtain ⟨a, p, ha, hp⟩ := hv.position hn
      obtain ⟨b, q, hb, hq⟩ := hw.position (hk ▸ hn)
      rw [strictEquals_numbers ha hb, decimalEquals_positions hp hq, wholeMeaning_number ha,
        wholeMeaning_number hb, hp, hq]
      exact answers_decide.congr (by simp)
    · rw [strictEquals_eq_itemEquals hk hn, wholeMeaning_other hn, wholeMeaning_other (hk ▸ hn)]
      exact hv.settled w hw
  · rw [strictEquals_unlike hk]
    exact answers_false fun h => hk h.1

theorem Whole.strictEquals_comm (hv : v.Whole) (hw : w.Whole) :
    v.strictEquals w = w.strictEquals v := by
  by_cases hk : v.kind = w.kind
  · by_cases hn : v.kind = .number
    · obtain ⟨a, ha⟩ := number?_of_kind hn
      obtain ⟨b, hb⟩ := number?_of_kind (hk ▸ hn)
      rw [strictEquals_numbers ha hb, strictEquals_numbers hb ha, decimalEquals_comm]
    · have hv := hv.resolve_right fun hnan => hn (kind_of_isNan hnan)
      have hw := hw.resolve_right fun hnan => hn (hk.trans (kind_of_isNan hnan))
      exact (hv.answers hw).unique ((hw.answers hv).congr (and_congr eq_comm eq_comm))
  · rw [strictEquals_unlike hk, strictEquals_unlike (Ne.symm hk)]

theorem Proper.strictEquals_self (hv : v.Proper) : v.strictEquals v = .ok true :=
  (hv.answers hv).eq_ok_true.mpr ⟨rfl, rfl⟩

/-- Equality of values is an equivalence. Two values have one outcome in either order, be it a
fault, also if a not-a-number is the whole of one. Without a not-a-number equality never fails: it
says whether the values are of one kind and mean the same, and so is reflexive, symmetric and
transitive. Values of different kinds are never equal. -/
theorem strictEquals_equivalence :
    (∀ v w : Value, v.Whole → w.Whole → v.strictEquals w = w.strictEquals v) ∧
    (∀ v w : Value, v.Proper → w.Proper → ∃ b, v.strictEquals w = .ok b ∧
      (b = true ↔ v.kind = w.kind ∧ v.wholeMeaning = w.wholeMeaning)) ∧
    Equivalence (fun v w : {v : Value // v.Proper} => v.1.strictEquals w.1 = .ok true) ∧
    ∀ v w : Value, v.kind ≠ w.kind → v.strictEquals w = .ok false := by
  refine ⟨?_, ?_, ⟨?_, ?_, ?_⟩, ?_⟩
  · intro v w hv hw
    exact hv.strictEquals_comm hw
  · intro v w hv hw
    exact hv.answers hw
  · rintro ⟨v, hv⟩
    exact hv.strictEquals_self
  · rintro ⟨v, hv⟩ ⟨w, hw⟩ hvw
    rw [← Whole.strictEquals_comm (.inl hv) (.inl hw)]
    exact hvw
  · rintro ⟨v, hv⟩ ⟨w, hw⟩ ⟨u, hu⟩ hvw hwu
    obtain ⟨hkind, hmeaning⟩ := (hv.answers hw).eq_ok_true.mp hvw
    obtain ⟨hkind', hmeaning'⟩ := (hw.answers hu).eq_ok_true.mp hwu
    exact (hv.answers hu).eq_ok_true.mpr ⟨hkind.trans hkind', hmeaning.trans hmeaning'⟩
  · intro v w hk
    exact strictEquals_unlike hk

theorem strictEquals_equivalence_ones :
    let one : Binary64 := .finite false 4503599627370496 (-52)
    let digits := list [decimal (.finite false 10 (-1)), map [("a", int 1), ("b", null)]]
    let truth := list [bool true, map [("b", null), ("a", float one)]]
    let whole := list [int 1, map [("a", decimal (.finite false 100 (-2))), ("b", null)]]
    let signaling := decimal (.nan false true 0)
    digits.strictEquals truth = .ok true ∧ truth.strictEquals whole = .ok true ∧
      digits.strictEquals whole = .ok true ∧ whole.strictEquals digits = .ok true ∧
      truth.strictEquals (list []) = .ok false ∧
      (int 1).strictEquals signaling = .error .signaling ∧
      (bool true).strictEquals (int 1) = .ok false := by
  intro one digits truth whole signaling
  obtain ⟨hcomm, hends, ⟨-, hsymm, htrans⟩, hkinds⟩ := strictEquals_equivalence
  have hone : one.Canonical := ⟨by norm_num, by decide, by decide, .inl (by norm_num)⟩
  have hdigits : digits.Proper :=
    .list (List.forall_mem_cons.mpr ⟨.decimal rfl, List.forall_mem_singleton.mpr
      (.map (by decide) (List.forall_mem_cons.mpr ⟨.int 1, List.forall_mem_singleton.mpr .null⟩))⟩)
  have htruth : truth.Proper :=
    .list (List.forall_mem_cons.mpr ⟨.bool true, List.forall_mem_singleton.mpr
      (.map (by decide) (List.forall_mem_cons.mpr
        ⟨.null, List.forall_mem_singleton.mpr (.float hone nofun)⟩))⟩)
  have hwhole : whole.Proper :=
    .list (List.forall_mem_cons.mpr ⟨.int 1, List.forall_mem_singleton.mpr
      (.map (by decide) (List.forall_mem_cons.mpr
        ⟨.decimal rfl, List.forall_mem_singleton.mpr .null⟩))⟩)
  have hfirst : digits.strictEquals truth = .ok true := rfl
  have hsecond : truth.strictEquals whole = .ok true := rfl
  have hthird := @htrans ⟨digits, hdigits⟩ ⟨truth, htruth⟩ ⟨whole, hwhole⟩ hfirst hsecond
  refine ⟨hfirst, hsecond, hthird, @hsymm ⟨digits, hdigits⟩ ⟨whole, hwhole⟩ hthird, ?_, ?_,
    hkinds _ _ (by decide)⟩
  · obtain ⟨b, hb, hsame⟩ := hends truth (list []) htruth (.list nofun)
    cases b with
    | false => exact hb
    | true =>
      obtain ⟨-, hmeaning⟩ := hsame.mp rfl
      simp [truth, wholeMeaning, number?, meaning, meanings] at hmeaning
  · rw [hcomm (int 1) signaling (.inl (.int 1)) (.inr rfl)]
    rfl

end Value

/-- The operators ask for nothing but this equality: that a list or a map is the same as itself is
no exception to it, unless it holds a not-a-number. -/
theorem Expr.eval_compare_whole [Pattern.Engine] {record : FieldValues} {x y : Expr} {v w : Value}
    (hx : x.eval Clock.unlimited record = .ok v) (hy : y.eval Clock.unlimited record = .ok w)
    (hv : v.Whole) (op : CompareOp) :
    (compare op x y).eval Clock.unlimited record = (evalCompare op v w).map .bool := by
  rw [eval_compare hx hy, evalOperands]
  split
  · rename_i hself
    simp only [Bool.and_eq_true, Bool.not_eq_true'] at hself
    obtain ⟨⟨hsame, hcollection⟩, hop⟩ := hself
    obtain ⟨f, rfl, rfl⟩ := readsSame_iff.mp hsame
    obtain rfl : v = w := Except.ok.inj (hx.symm.trans hy)
    have hproper : v.Proper := by
      refine hv.resolve_right fun hnan => ?_
      have hscalar := Value.isCollection_of_isNan hnan
      rw [hscalar] at hcollection
      cases hcollection
    cases op with
    | same | different =>
      simp only [evalCompare, evalEquality, hproper.strictEquals_self]
      rfl
    | _ => cases hop
  · rfl

end LedgerRules
