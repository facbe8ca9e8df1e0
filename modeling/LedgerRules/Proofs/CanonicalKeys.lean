import Mathlib.Data.List.Nodup
import Mathlib.Data.List.Perm.Basic
import LedgerRules.Proofs.DecimalValue
import LedgerRules.Proofs.TreeKeys

/-! The key of a tree is canonical: trees that JSON can write have one key exactly when they are the
same but for the order of the members of their maps. The document is compared first, as that of a
map has its members in the order of their keys, and the text tells the document. -/

namespace LedgerRules
open Numeric Json

namespace Value

/-- Two values that are the same but for the order of the members of maps, at every depth. Kinds are
kept apart; binary numbers go by their text. -/
inductive SameTree : Value → Value → Prop
  | null : SameTree .null .null
  | bool (b : Bool) : SameTree (.bool b) (.bool b)
  | int (i : Int) : SameTree (.int i) (.int i)
  | float {x y : Binary64} : x.text = y.text → SameTree (.float x) (.float y)
  | text (s : String) : SameTree (.text s) (.text s)
  | list {vs ws : List Value} : List.Forall₂ SameTree vs ws → SameTree (.list vs) (.list ws)
  | map {ms ns reordered : Members} : ns.Perm reordered →
      ms.map Prod.fst = reordered.map Prod.fst →
      List.Forall₂ SameTree (ms.map Prod.snd) (reordered.map Prod.snd) →
      SameTree (.map ms) (.map ns)

inductive HoldsLongInteger : Value → Prop
  | int {i : Int} : 10 ^ Text.longestInteger ≤ i.natAbs → HoldsLongInteger (.int i)
  | list {items : List Value} {v : Value} : v ∈ items → HoldsLongInteger v →
      HoldsLongInteger (.list items)
  | map {members : Members} {m : String × Value} : m ∈ members → HoldsLongInteger m.2 →
      HoldsLongInteger (.map members)

theorem holdsLongInteger_list {items : List Value} :
    (Value.list items).HoldsLongInteger ↔ ∃ v ∈ items, v.HoldsLongInteger :=
  ⟨fun | .list hv h => ⟨_, hv, h⟩, fun ⟨_, hv, h⟩ => .list hv h⟩

theorem holdsLongInteger_map {members : Members} :
    (Value.map members).HoldsLongInteger ↔ ∃ m ∈ members, m.2.HoldsLongInteger :=
  ⟨fun | .map hm h => ⟨_, hm, h⟩, fun ⟨_, hm, h⟩ => .map hm h⟩

end Value

namespace Tree
open Doc Value
variable {v w : Value} {vs ws : List Value} {ms ns : Members}

theorem ofItems_eq (vs : List Value) : ofItems vs = vs.map ofValue := by
  induction vs with
  | nil => rfl
  | cons v vs ih => rw [ofItems, ih, List.map_cons]

theorem sortMembers_perm (ds : List (String × Doc)) : (Doc.sortMembers ds).Perm ds :=
  List.mergeSort_perm _ _

theorem sortMembers_pairwise (ds : List (String × Doc)) :
    (Doc.sortMembers ds).Pairwise fun a b => a.1 ≤ b.1 := by
  have hsorted : (Doc.sortMembers ds).Pairwise fun a b => decide (a.1 ≤ b.1) = true := by
    refine List.pairwise_mergeSort (fun a b c hab hbc => ?_) (fun a b => ?_) ds
    · rw [decide_eq_true_eq] at hab hbc ⊢
      exact String.le_trans hab hbc
    · simpa using String.le_total a.1 b.1
  exact hsorted.imp fun hab => of_decide_eq_true hab

theorem sortMembers_inj {ds es : List (String × Doc)} (hkeys : (ds.map Prod.fst).Nodup) :
    Doc.sortMembers ds = Doc.sortMembers es ↔ ds.Perm es := by
  constructor
  · intro h
    exact (sortMembers_perm ds).symm.trans (h ▸ sortMembers_perm es)
  · intro h
    have hperm : (Doc.sortMembers ds).Perm (Doc.sortMembers es) :=
      (sortMembers_perm ds).trans (h.trans (sortMembers_perm es).symm)
    refine List.Perm.eq_of_pairwise ?_ (sortMembers_pairwise ds) (sortMembers_pairwise es) hperm
    intro a b ha hb hab hba
    exact List.inj_on_of_nodup_map hkeys ((sortMembers_perm ds).subset ha)
      (h.symm.subset ((sortMembers_perm es).subset hb)) (String.le_antisymm hab hba)

theorem ofMembers_inj :
    ofMembers ms = ofMembers ns ↔ ms.map Prod.fst = ns.map Prod.fst ∧
      (ms.map Prod.snd).map ofValue = (ns.map Prod.snd).map ofValue := by
  have hkeys (ls : Members) : (ofMembers ls).map Prod.fst = ls.map Prod.fst := by
    rw [ofMembers_eq, List.map_map]
    rfl
  have hdocs (ls : Members) : (ofMembers ls).map Prod.snd = (ls.map Prod.snd).map ofValue := by
    rw [ofMembers_eq, List.map_map, List.map_map]
    rfl
  constructor
  · intro h
    rw [← hkeys, ← hkeys, ← hdocs, ← hdocs, h]
    exact ⟨rfl, rfl⟩
  · rintro ⟨hk, hd⟩
    rw [List.zip_of_prod ((hkeys ms).trans hk) ((hdocs ms).trans hd),
      ← List.zip_of_prod (hkeys ns) (hdocs ns)]

theorem perm_ofMembers_iff {ds : List (String × Doc)} :
    ds.Perm (ofMembers ns) ↔
      ∃ reordered : Members, ns.Perm reordered ∧ ds = ofMembers reordered := by
  simp only [ofMembers_eq]
  constructor
  · intro h
    obtain ⟨reordered, hdocs, hperm⟩ := List.perm_comp_forall₂ h
      (List.forall₂_map_left_iff.mpr (List.forall₂_same.mpr fun n _ => rfl) :
        List.Forall₂ (fun d (n : String × Value) => d = (n.1, ofValue n.2)) _ ns)
    refine ⟨reordered, hperm.symm, ?_⟩
    rwa [← List.forall₂_eq_eq_eq, List.forall₂_map_right_iff]
  · rintro ⟨reordered, hperm, rfl⟩
    exact (hperm.map _).symm

theorem forall₂_sameTree_iff
    (h : ∀ v ∈ vs, ∀ w : Value, w.Plain → (v.SameTree w ↔ ofValue v = ofValue w))
    (hws : ∀ w ∈ ws, w.Plain) :
    List.Forall₂ SameTree vs ws ↔ vs.map ofValue = ws.map ofValue := by
  induction vs generalizing ws with
  | nil => cases ws <;> simp
  | cons v vs ih =>
    cases ws with
    | nil => simp
    | cons w ws =>
      rw [List.forall_mem_cons] at h hws
      rw [List.forall₂_cons, h.1 w hws.1, ih h.2 hws.2, List.map_cons, List.map_cons,
        List.cons.injEq]

theorem sameTree_of_word {x : Word} (hv : ofValue v = .word x) (hw : ofValue w = .word x) :
    v.SameTree w := by
  rcases word_inj hv hw with rfl | ⟨f, g, rfl, rfl, hchars⟩
  · cases v with
    | null => exact .null
    | bool b => exact .bool b
    | int i => exact .int i
    | float x => exact .float rfl
    | _ => simp [ofValue] at hv
  · exact .float (congrArg String.ofList hchars)

theorem floatText_congr {x y : Binary64} (h : x.text = y.text) : floatText x = floatText y := by
  have hchars : x.toChars = y.toChars := String.ofList_inj.mp h
  have hmixed {n : Bool} {m : Nat} {e : Int} {z : Binary64} (hz : 'n' ∈ z.toChars) :
      (Binary64.finite n m e).toChars ≠ z.toChars := by
    intro hc
    exact absurd ((toChars_finite n m e).1 'n' (hc ▸ hz)) (by decide)
  have hinfinite (n : Bool) : 'n' ∈ (Binary64.infinite n).toChars := by cases n <;> decide
  cases x with
  | finite n m e =>
    cases y with
    | finite n' m' e' => exact hchars
    | infinite n' => exact absurd hchars (hmixed (hinfinite n'))
    | nan => exact absurd hchars (hmixed (by decide))
  | infinite n =>
    cases y with
    | finite n' m' e' => exact absurd hchars.symm (hmixed (hinfinite n))
    | infinite n' => cases n <;> cases n' <;> first | rfl | exact absurd hchars (by decide)
    | nan => cases n <;> exact absurd hchars (by decide)
  | nan =>
    cases y with
    | finite n' m' e' => exact absurd hchars.symm (hmixed (by decide))
    | infinite n' => cases n' <;> exact absurd hchars (by decide)
    | nan => rfl

theorem plain_reordered {reordered : Members} (hns : ∀ n ∈ ns, n.2.Plain)
    (hperm : ns.Perm reordered) : ∀ w ∈ reordered.map Prod.snd, w.Plain := by
  intro w hw
  obtain ⟨n, hn, rfl⟩ := List.mem_map.mp hw
  exact hns n (hperm.mem_iff.mpr hn)

theorem sameTree_iff (hv : v.Plain) (hw : w.Plain) : v.SameTree w ↔ ofValue v = ofValue w := by
  induction hv generalizing w with
  | null => exact ⟨fun | .null => rfl, fun h => sameTree_of_word rfl h.symm⟩
  | bool b => exact ⟨fun | .bool _ => rfl, fun h => sameTree_of_word rfl h.symm⟩
  | int i => exact ⟨fun | .int _ => rfl, fun h => sameTree_of_word rfl h.symm⟩
  | float x =>
    refine ⟨fun | .float htext => ?_, fun h => sameTree_of_word rfl h.symm⟩
    have hchars := floatText_congr htext
    simp only [ofValue, Word.ofFloat, hchars]
  | text s =>
    refine ⟨fun | .text _ => rfl, fun h => ?_⟩
    cases hw with
    | text s' =>
      simp only [ofValue, display, Doc.text.injEq] at h
      exact h ▸ .text s
    | _ => simp [ofValue] at h
  | list _ ih =>
    constructor
    · intro h
      cases h with
      | list hall =>
        cases hw with
        | list hws =>
          rw [ofValue, ofValue, ofItems_eq, ofItems_eq,
            (forall₂_sameTree_iff (fun v hv w hw => ih v hv hw) hws).mp hall]
    · intro h
      cases hw with
      | list hws =>
        simp only [ofValue, ofItems_eq, Doc.list.injEq] at h
        exact .list ((forall₂_sameTree_iff (fun v hv w hw => ih v hv hw) hws).mpr h)
      | _ => simp [ofValue] at h
  | @map ms hkeys _ ih =>
    have hdocs : ((ofMembers ms).map Prod.fst).Nodup := by
      rw [ofMembers_eq, List.map_map]
      exact hkeys
    have hvalues : ∀ v ∈ ms.map Prod.snd, ∀ w : Value, w.Plain →
        (v.SameTree w ↔ ofValue v = ofValue w) := by
      intro v hv w hw
      obtain ⟨m, hm, rfl⟩ := List.mem_map.mp hv
      exact ih m hm hw
    constructor
    · intro h
      cases h with
      | map hperm hk hall =>
        cases hw with
        | map _ hns =>
          have hd := (forall₂_sameTree_iff hvalues (plain_reordered hns hperm)).mp hall
          rw [ofValue, ofValue, (sortMembers_inj hdocs).mpr
            (perm_ofMembers_iff.mpr ⟨_, hperm, ofMembers_inj.mpr ⟨hk, hd⟩⟩)]
    · intro h
      cases hw with
      | map _ hns =>
        simp only [ofValue, Doc.map.injEq] at h
        -- Sorting lost the order: the first map has the members of the second in some order.
        obtain ⟨reordered, hperm, hdoc⟩ := perm_ofMembers_iff.mp ((sortMembers_inj hdocs).mp h)
        obtain ⟨hk, hd⟩ := ofMembers_inj.mp hdoc
        exact .map hperm hk
          ((forall₂_sameTree_iff hvalues (plain_reordered hns hperm)).mpr hd)
      | _ => simp [ofValue] at h

mutual

theorem hasLongInteger_iff : (v : Value) → (hasLongInteger v = true ↔ v.HoldsLongInteger)
  | .int i => by
    rw [hasLongInteger, decide_eq_true_eq]
    refine ⟨fun h => .int (not_lt.mp fun hlt => ?_), fun | .int h => lt_digitCount h⟩
    exact absurd (digitCount_le (by decide) hlt) (not_le.mpr h)
  | .list items => by
    rw [hasLongInteger, anyLongInteger_iff items, holdsLongInteger_list]
  | .map members => by
    rw [hasLongInteger, anyLongMember_iff members, holdsLongInteger_map]
  | .null | .bool _ | .float _ | .decimal _ | .text _ | .date _ | .moment _ =>
    ⟨fun h => Bool.noConfusion h, fun h => nomatch h⟩

theorem anyLongInteger_iff : (vs : List Value) →
    (anyLongInteger vs = true ↔ ∃ v ∈ vs, v.HoldsLongInteger)
  | [] => by simp [anyLongInteger]
  | v :: rest => by
    rw [anyLongInteger, Bool.or_eq_true, hasLongInteger_iff v, anyLongInteger_iff rest,
      List.exists_mem_cons_iff]

theorem anyLongMember_iff : (ms : List (String × Value)) →
    (anyLongMember ms = true ↔ ∃ m ∈ ms, m.2.HoldsLongInteger)
  | [] => by simp [anyLongMember]
  | (k, v) :: rest => by
    rw [anyLongMember, Bool.or_eq_true, hasLongInteger_iff v, anyLongMember_iff rest,
      List.exists_mem_cons_iff]

end

theorem holdsLongInteger_of_sameTree (hv : v.HoldsLongInteger) (h : v.SameTree w) :
    w.HoldsLongInteger := by
  induction hv generalizing w with
  | int hi =>
    cases h with
    | int => exact .int hi
  | list hmem _ ih =>
    cases h with
    | list hall =>
      obtain ⟨u, hu, hsame⟩ := exists_of_forall₂ hall.flip hmem
      exact .list hu (ih hsame)
  | map hmem _ ih =>
    cases h with
    | map hperm _ hall =>
      obtain ⟨u, hu, hsame⟩ := exists_of_forall₂ hall.flip (List.mem_map.mpr ⟨_, hmem, rfl⟩)
      obtain ⟨n, hn, rfl⟩ := List.mem_map.mp hu
      exact .map (hperm.mem_iff.mpr hn) (ih hsame)

theorem key_isOk_iff (t : Value) : (∃ k, key t = .ok k) ↔ ¬t.HoldsLongInteger := by
  rw [← hasLongInteger_iff, Bool.not_eq_true]
  constructor
  · rintro ⟨k, hk⟩
    exact (key_eq_ok.mp hk).1
  · intro h
    exact ⟨_, key_eq_ok.mpr ⟨h, rfl⟩⟩

theorem key_congr (hv : v.Plain) (hw : w.Plain) (h : v.SameTree w) : key v = key w := by
  have hdoc := (sameTree_iff hv hw).mp h
  have hback := (sameTree_iff hw hv).mpr hdoc.symm
  have hlong : hasLongInteger v = hasLongInteger w := by
    rw [Bool.eq_iff_iff, hasLongInteger_iff, hasLongInteger_iff]
    exact ⟨fun hl => holdsLongInteger_of_sameTree hl h,
      fun hl => holdsLongInteger_of_sameTree hl hback⟩
  unfold key
  rw [hlong, compact_inj.mpr hdoc]

/-- The key of a JSON tree is canonical. Trees that are the same but for the order of members have
the same key, and trees with one key are the same but for that order. On a stack that never ends, a
tree has a key unless an integer in it is too long to be written. -/
theorem key_canonical {a b : Value} (ha : a.Plain) (hb : b.Plain) :
    (a.SameTree b → key a = key b) ∧
      (∀ k, key a = .ok k → (key b = .ok k ↔ a.SameTree b)) ∧
      ((∃ k, key a = .ok k) ↔ ¬a.HoldsLongInteger) := by
  refine ⟨key_congr ha hb, fun k hk => ⟨fun hk' => ?_, fun h => ?_⟩, key_isOk_iff a⟩
  · obtain ⟨-, hcompact⟩ := key_eq_ok.mp hk
    obtain ⟨-, hcompact'⟩ := key_eq_ok.mp hk'
    exact (sameTree_iff ha hb).mpr
      (compact_inj.mp (String.ofList_inj.mp (hcompact.trans hcompact'.symm)))
  · rw [← key_congr ha hb h, hk]

theorem key_canonical_reordered :
    key (.map [("operator", .text "AND"),
        ("conditions", .list [.map [("field", .text "amount"), ("value", .int 80)]])]) =
      key (.map [("conditions", .list [.map [("value", .int 80), ("field", .text "amount")]]),
        ("operator", .text "AND")]) := by
  have hfirst : (Value.map [("field", .text "amount"), ("value", .int 80)]).Plain :=
    .map (by decide) (by simp [Plain.text, Plain.int])
  have hsecond : (Value.map [("value", .int 80), ("field", .text "amount")]).Plain :=
    .map (by decide) (by simp [Plain.text, Plain.int])
  have hinner : (Value.map [("field", .text "amount"), ("value", .int 80)]).SameTree
      (.map [("value", .int 80), ("field", .text "amount")]) :=
    .map (.swap _ _ _) rfl (.cons (.text _) (.cons (.int _) .nil))
  refine (key_canonical (.map (by decide) ?_) (.map (by decide) ?_)).1
    (.map (.swap _ _ _) rfl (.cons (.text _) (.cons (.list (.cons hinner .nil)) .nil)))
  · simpa using ⟨.text _, .list (by simpa using hfirst)⟩
  · simpa using ⟨.list (by simpa using hsecond), .text _⟩

end Tree

end LedgerRules
