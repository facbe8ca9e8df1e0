import Mathlib.Data.List.Nodup
import Mathlib.Data.List.Perm.Basic
import LedgerRules.ParallelMap

/-! How a parallel map gets on. Handing items out and collecting them keeps every position in one of
three lists: it waits, is under way, or has a result. Once only results are left they stand in the
order of the items. -/

namespace LedgerRules.ParallelMap.Progress
variable {α β ε : Type} {p p' : Progress α β} {f : α → Except ε β} {position : Nat}
  {done : List Nat}

theorem collect_eq_ok (h : p.collect f position = .ok p') :
    (∀ q ∈ p.pending, q.2 ≠ position) ∧ p' = p ∨
      ∃ a b, (a, position) ∈ p.pending ∧ f a = .ok b ∧
        p' = { p with
          pending := p.pending.filter (·.2 ≠ position)
          results := p.results ++ [(position, b)] } := by
  unfold collect at h
  split at h
  next hnone =>
    refine .inl ⟨?_, (Except.ok.inj h).symm⟩
    simpa using hnone
  next item hsome =>
    have hmem := List.mem_of_find?_eq_some hsome
    have hposition : item.2 = position := by simpa using List.find?_some hsome
    split at h
    next => exact nomatch h
    next b hb => exact .inr ⟨item.1, b, hposition ▸ hmem, hb, (Except.ok.inj h).symm⟩

theorem collect_eq_error {e : ε} (h : p.collect f position = .error e) :
    ∃ a, (a, position) ∈ p.pending ∧ f a = .error e := by
  unfold collect at h
  split at h
  next => exact nomatch h
  next item hsome =>
    have hmem := List.mem_of_find?_eq_some hsome
    have hposition : item.2 = position := by simpa using List.find?_some hsome
    split at h
    next e' he => exact ⟨item.1, hposition ▸ hmem, Except.error.inj h ▸ he⟩
    next => exact nomatch h

theorem collect_pending (h : p.collect f position = .ok p') :
    p'.waiting = p.waiting ∧ p'.pending = p.pending.filter (·.2 ≠ position) := by
  rcases collect_eq_ok h with ⟨hnone, rfl⟩ | ⟨a, b, -, -, rfl⟩
  · refine ⟨rfl, (List.filter_eq_self.mpr fun q hq => ?_).symm⟩
    simpa using hnone q hq
  · exact ⟨rfl, rfl⟩

theorem collectAll_cons (h : p.collectAll f (position :: done) = .ok p') :
    ∃ q, p.collect f position = .ok q ∧ q.collectAll f done = .ok p' := by
  unfold collectAll at h
  rw [List.foldlM_cons] at h
  cases hq : p.collect f position with
  | error e => rw [hq] at h; exact nomatch h
  | ok q => rw [hq] at h; exact ⟨q, rfl, h⟩

theorem collectAll_pending (h : p.collectAll f done = .ok p') :
    p'.waiting = p.waiting ∧ p'.pending = p.pending.filter (·.2 ∉ done) := by
  induction done generalizing p with
  | nil =>
    obtain rfl := Except.ok.inj h
    simp
  | cons position rest ih =>
    obtain ⟨q, hq, hrest⟩ := collectAll_cons h
    obtain ⟨hwaiting, hpending⟩ := collect_pending hq
    obtain ⟨hwaiting', hpending'⟩ := ih hrest
    refine ⟨hwaiting'.trans hwaiting, ?_⟩
    rw [hpending', hpending, List.filter_filter]
    refine List.filter_congr fun q _ => ?_
    simp [Bool.and_comm]

theorem collectAll_keeps {I : Progress α β → Prop}
    (hstep : ∀ p p' position, I p → position ∈ done → p.collect f position = .ok p' → I p')
    (hp : I p) (h : p.collectAll f done = .ok p') : I p' := by
  induction done generalizing p with
  | nil =>
    obtain rfl := Except.ok.inj h
    exact hp
  | cons position rest ih =>
    obtain ⟨q, hq, hrest⟩ := collectAll_cons h
    have hI := hstep p q position hp List.mem_cons_self hq
    exact ih (fun p p' k hp hk => hstep p p' k hp (List.mem_cons_of_mem position hk)) hI hrest

def positions (p : Progress α β) : List Nat :=
  p.waiting.map (·.2) ++ p.pending.map (·.2) ++ p.results.map (·.1)

theorem pending_nodup (h : p.positions.Nodup) : (p.pending.map (·.2)).Nodup := by
  unfold positions at h
  exact (List.nodup_append.mp (List.nodup_append.mp h).1).2.1

theorem position_once (h : p.positions.Nodup) {before after : List (α × Nat)} {a : α}
    (hpending : p.pending = before ++ (a, position) :: after) :
    (∀ q ∈ p.waiting ++ (before ++ after), q.2 ≠ position) ∧
      ∀ r ∈ p.results, r.1 ≠ position := by
  have hnodup : ((p.waiting ++ before).map (·.2) ++
      position :: (after.map (·.2) ++ p.results.map (·.1))).Nodup := by
    simpa [positions, hpending] using h
  have honce := (List.nodup_cons.mp (List.nodup_middle.mp hnodup)).1
  rw [← List.append_assoc, ← List.map_append, List.append_assoc, List.mem_append, not_or] at honce
  constructor
  · intro q hq heq
    exact honce.1 (heq ▸ List.mem_map_of_mem hq)
  · intro r hr heq
    exact honce.2 (heq ▸ List.mem_map_of_mem hr)

theorem positions_start (items : List α) :
    (start (β := β) items).positions = List.range items.length := by
  simp [start, positions, List.zipIdx_map_snd, List.range_eq_range']

theorem items_handOut (count : Nat) (p : Progress α β) :
    ((p.handOut count).waiting ++ (p.handOut count).pending).Perm (p.waiting ++ p.pending) := by
  have hall : p.waiting.drop count ++ (p.waiting.take count ++ p.pending) |>.Perm
      (p.waiting ++ p.pending) := by
    rw [← List.append_assoc]
    refine List.Perm.append_right _ (List.perm_append_comm.trans ?_)
    rw [List.take_append_drop]
  exact (List.perm_append_comm.append_left _).trans hall

theorem handOut_idle {count : Nat} (hcount : count ≠ 0) (h : (p.handOut count).pending = []) :
    (p.handOut count).waiting = [] := by
  obtain ⟨-, htaken⟩ := List.append_eq_nil_iff.mp h
  rcases List.take_eq_nil_iff.mp htaken with hzero | hnone
  · exact absurd hzero hcount
  · simp [handOut, hnone]

theorem positions_handOut (count : Nat) (p : Progress α β) :
    (p.handOut count).positions.Perm p.positions := by
  unfold positions
  rw [← List.map_append, ← List.map_append]
  exact ((items_handOut count p).map _).append_right _

theorem filter_pending (hn : (p.pending.map (·.2)).Nodup) (position : Nat) :
    (p.pending.filter (·.2 ≠ position)).map (·.2) = (p.pending.map (·.2)).erase position := by
  rw [hn.erase_eq_filter, List.filter_map]
  refine congrArg _ (List.filter_congr fun q _ => ?_)
  rw [Function.comp_apply, bne, beq_eq_decide, decide_not]

theorem positions_collect (hn : p.positions.Nodup) (h : p.collect f position = .ok p') :
    p'.positions.Perm p.positions := by
  rcases collect_eq_ok h with ⟨-, rfl⟩ | ⟨a, b, ha, -, rfl⟩
  · exact List.Perm.refl _
  · have hmoved : ((p.pending.map (·.2)).erase position ++ (p.results.map (·.1) ++ [position])).Perm
        (p.pending.map (·.2) ++ p.results.map (·.1)) := by
      have hmem : position ∈ p.pending.map (·.2) := List.mem_map_of_mem ha
      calc (p.pending.map (·.2)).erase position ++ (p.results.map (·.1) ++ [position])
          |>.Perm ((p.pending.map (·.2)).erase position ++ (position :: p.results.map (·.1))) :=
            (List.perm_append_singleton _ _).append_left _
        _ |>.Perm (position :: (p.pending.map (·.2)).erase position ++ p.results.map (·.1)) :=
            List.perm_middle
        _ |>.Perm _ := (List.perm_cons_erase hmem).symm.append_right _
    unfold positions
    dsimp only
    rw [filter_pending (pending_nodup hn), List.map_append, List.append_assoc, List.append_assoc]
    exact hmoved.append_left _

theorem ordered_eq {l : List β} (hpositions : (p.results.map (·.1)).Perm (List.range l.length))
    (hresults : ∀ r ∈ p.results, l[r.1]? = some r.2) : p.ordered = l := by
  have hlength : p.results.length = l.length := by simpa using hpositions.length_eq
  have hlookup : ∀ k ∈ List.range l.length, p.results.lookup k = l[k]? := by
    intro k hk
    cases hb : p.results.lookup k with
    | some b =>
      obtain ⟨before, after, hsplit, -⟩ := List.lookup_eq_some_iff.mp hb
      exact (hresults (k, b) (by simp [hsplit])).symm
    | none =>
      obtain ⟨r, hr, rfl⟩ := List.mem_map.mp (hpositions.mem_iff.mpr hk)
      have hnone := List.lookup_eq_none_iff.mp hb r hr
      simp at hnone
  have hall : ∀ n, n ≤ l.length → (List.range n).filterMap (fun k => l[k]?) = l.take n := by
    intro n
    induction n with
    | zero => simp
    | succ n ih =>
      intro hn
      rw [List.range_succ, List.filterMap_append, ih (Nat.le_of_succ_le hn), List.take_add_one]
      simp [List.getElem?_eq_getElem hn]
  calc p.ordered = (List.range l.length).filterMap (fun k => l[k]?) := by
        rw [ordered, hlength]
        exact List.filterMap_congr hlookup
    _ = l.take l.length := hall _ (Nat.le_refl _)
    _ = l := List.take_length

end LedgerRules.ParallelMap.Progress
