import LedgerRules.Pattern.Builtin
import LedgerRules.Proofs.Rendering

/-! Groups nested too deeply. However the reader of patterns comes to it, a run of more opening
parentheses than it takes exhausts it, whatever follows them. The pattern between slashes is one
token all the same, so the condition that searches for it has all its tokens. -/

namespace LedgerRules.Pattern
open Reading
open Condition (run_bind_ok run_bind_error)

variable {fuel : Nat} {s : ReadState} {c : Char} {r : List Char}

theorem run_get (s : ReadState) : (get : Reading ReadState).run s = .ok (s, s) := rfl

theorem run_modify (f : ReadState → ReadState) (s : ReadState) :
    (modify f : Reading Unit).run s = .ok ((), f s) := rfl

theorem takeChar_cons (h : s.cursor.rest = c :: r) :
    (takeChar false).run s = .ok (some c, { s with cursor := ⟨r, s.cursor.pos + 1⟩ }) := by
  obtain ⟨⟨rest, pos⟩, _⟩ := s
  obtain rfl := h
  rfl

theorem readOpening_capture (h : s.cursor.rest = c :: r) (hc : c ≠ '?') :
    readOpening.run s = .ok (.capture none, s) := by
  unfold readOpening
  refine (run_bind_ok (run_get s)).trans ((run_bind_ok (takeChar_cons h)).trans ?_)
  rw [if_neg (by simpa using hc)]
  rfl

theorem readClosed_exhausted (flags : Flags)
    (h : groupLimit ≤ s.depth ∨ ∀ t : ReadState, t.cursor = s.cursor → t.flags = flags →
      t.depth = s.depth + 1 → (readBranches fuel).run t = .error .exhausted) :
    (readClosed (fuel + 1) flags).run s = .error .exhausted := by
  rw [readClosed, deeper]
  refine (run_bind_ok (run_get s)).trans ?_
  by_cases hd : groupLimit ≤ s.depth
  · rw [if_pos hd]
    rfl
  · rw [if_neg hd]
    refine (run_bind_ok (run_modify _ s)).trans (run_bind_error ?_)
    refine (run_bind_ok (run_get _)).trans ((run_bind_ok (run_modify _ _)).trans ?_)
    exact run_bind_error (run_bind_error (h.resolve_left hd _ rfl rfl rfl))

theorem readGroup_exhausted (h : s.cursor.rest = c :: r) (hc : c ≠ '?')
    (hclosed : ∀ t : ReadState, t.cursor = s.cursor → t.depth = s.depth →
      (readClosed fuel s.flags).run t = .error .exhausted) :
    (readGroup (fuel + 1)).run s = .error .exhausted := by
  have hopen : (openGroup none).run s = .ok (s.groupCount + 1, { s with
      groupCount := s.groupCount + 1, openGroups := (s.groupCount + 1) :: s.openGroups }) := rfl
  rw [readGroup]
  refine (run_bind_ok (run_get s)).trans ((run_bind_ok (readOpening_capture h hc)).trans ?_)
  exact (run_bind_ok hopen).trans (run_bind_error (hclosed _ rfl rfl))

theorem readBranches_exhausted (hs : s.flags.spaced = false) (h : s.cursor.rest = '(' :: r)
    (hgroup : ∀ t : ReadState, t.cursor.rest = r → t.flags = s.flags → t.depth = s.depth →
      (readGroup fuel).run t = .error .exhausted) :
    (readBranches (fuel + 2)).run s = .error .exhausted := by
  have hchar : (takeChar s.flags.spaced).run s =
      .ok (some '(', { s with cursor := ⟨r, s.cursor.pos + 1⟩ }) := by
    rw [hs]
    exact takeChar_cons h
  rw [readBranches, readSequence]
  refine run_bind_error ?_
  refine (run_bind_ok (run_get s)).trans ((run_bind_ok (run_get s)).trans ?_)
  refine (run_bind_ok hchar).trans ?_
  exact run_bind_error (hgroup _ rfl rfl rfl)

theorem readBranches_nested {k : Nat} {more : List Char} (hs : s.flags.spaced = false)
    (hrest : s.cursor.rest = List.replicate (k + 1) '(' ++ c :: more) (hc : c ≠ '?')
    (hd : groupLimit ≤ s.depth + k) (hfuel : 4 * k + 4 ≤ fuel) :
    (readBranches fuel).run s = .error .exhausted := by
  induction k generalizing s fuel with
  | zero =>
    obtain ⟨fuel, rfl⟩ := Nat.exists_eq_add_of_le' hfuel
    refine readBranches_exhausted hs hrest fun t ht htf htd => ?_
    refine readGroup_exhausted ht hc fun u hu hud => ?_
    exact readClosed_exhausted _ (.inl (by omega))
  | succ k ih =>
    obtain ⟨fuel, rfl⟩ : ∃ n, fuel = n + 4 := ⟨fuel - 4, by omega⟩
    refine readBranches_exhausted hs hrest fun t ht htf htd => ?_
    refine readGroup_exhausted ht (by decide) fun u hu hud => ?_
    refine readClosed_exhausted _ (.inr fun v hv hvf hvd => ?_)
    exact ih (by rw [hvf, htf, hs]) (by rw [hv, hu, ht]; rfl) (by omega) (by omega)

def nestedGroups (depth : Nat) : List Char :=
  List.replicate depth '(' ++ 'a' :: List.replicate depth ')'

theorem parse_nestedGroups {depth : Nat} (h : groupLimit < depth) {flags : Flags}
    (hs : flags.spaced = false) :
    parse (String.ofList (nestedGroups depth)) flags = .error .exhausted := by
  obtain ⟨k, rfl⟩ := Nat.exists_eq_succ_of_ne_zero (Nat.ne_zero_of_lt h)
  have hlength : (nestedGroups (k + 1)).length = 2 * k + 3 := by
    simp only [nestedGroups, List.length_append, List.length_cons, List.length_replicate]
    omega
  have hread : readWhole (4 * (nestedGroups (k + 1)).length + 4)
      { cursor := ⟨nestedGroups (k + 1), 0⟩, flags, wholeFlags := flags } = .error .exhausted :=
    run_bind_error (readBranches_nested hs rfl (by decide) (by simp; omega) (by omega))
  unfold parse
  rw [String.toList_ofList, parseFrom, hread]

end LedgerRules.Pattern

namespace LedgerRules.Condition
open Pattern (nestedGroups)

theorem readPatternBody_plain {cs : List Char} (h : ∀ c ∈ cs, c ∉ ['\\', '\n', '[', ']', '/'])
    (body rest : List Char) :
    readPatternBody false body (cs ++ '/' :: rest) = some (body.reverse ++ cs, rest) := by
  induction cs generalizing body with
  | nil => simp [readPatternBody]
  | cons c cs ih =>
    obtain ⟨hc, hcs⟩ := List.forall_mem_cons.mp h
    simp only [List.mem_cons, List.not_mem_nil, or_false, not_or] at hc
    rw [List.cons_append, readPatternBody, ih hcs]
    all_goals simp_all

theorem nestedGroups_plain (depth : Nat) :
    ∀ c ∈ nestedGroups depth, c ∉ ['\\', '\n', '[', ']', '/'] := by
  refine List.forall_mem_append.mpr ⟨fun c hc => ?_, List.forall_mem_cons.mpr ⟨by decide, ?_⟩⟩
  · rw [List.eq_of_mem_replicate hc]
    decide
  · intro c hc
    rw [List.eq_of_mem_replicate hc]
    decide

def searchCall : List Char := ".test(transaction.merchant)".toList

def nestedSearch (depth : Nat) : List Char := '/' :: (nestedGroups depth ++ '/' :: searchCall)

theorem trim_nestedSearch (depth : Nat) : Text.trim (nestedSearch depth) = nestedSearch depth := by
  have hends : nestedSearch depth =
      '/' :: (nestedGroups depth ++ '/' :: ".test(transaction.merchant".toList ++ [')']) := by
    rw [List.append_assoc]
    rfl
  rw [hends]
  exact Text.trim_enclosed (by decide) (by decide) _

theorem readToken_nestedSearch (depth : Nat) :
    readToken 0 '/' (nestedGroups depth ++ '/' :: searchCall) =
      .ok (⟨.pattern (String.ofList (nestedGroups depth)) "",
        String.ofList ('/' :: (nestedGroups depth ++ ['/'])), 0⟩, searchCall) := by
  have hbody := readPatternBody_plain (nestedGroups_plain depth) [] searchCall
  have hflags : searchCall.takeWhile isFlagChar = [] ∧
      searchCall.dropWhile isFlagChar = searchCall := by decide
  obtain ⟨c, cs, hcs⟩ : ∃ c cs, nestedGroups depth = c :: cs := by
    cases depth <;> exact ⟨_, _, rfl⟩
  have hslash : Text.isDigitLike '/' = false := by decide
  rw [hcs] at hbody ⊢
  simp only [readToken, show ('/' : Char) ≠ '"' by decide, if_false, hslash, Bool.false_eq_true,
    if_true, hbody, List.reverse_nil, List.nil_append, hflags.1, hflags.2]
  simp

theorem tokens_nestedSearch (depth : Nat) :
    ∃ ts w, tokens (nestedSearch depth) = .ok ts ∧
      terminals ts = .pattern (String.ofList (nestedGroups depth)) "" :: w := by
  have hcut : ('/' :: (nestedGroups depth ++ ['/'])) ++ searchCall =
      '/' :: (nestedGroups depth ++ '/' :: searchCall) := by simp
  have hpattern : Spells ('/' :: (nestedGroups depth ++ ['/']))
      [.pattern (String.ofList (nestedGroups depth)) ""] (searchCall ++ []) := by
    rw [List.append_nil]
    exact .token (by decide) hcut (readToken_nestedSearch depth) rfl
  have htest : Spells searchCall [.symbol .dot, .word "test", .symbol .openParen,
      .word "transaction", .symbol .dot, .word "merchant", .symbol .closeParen] [] :=
    spells_of_terminals (by decide +kernel) .nil
  obtain ⟨ts, hts, hw⟩ := (hpattern.append htest).tokens
  rw [hcut] at hts
  exact ⟨ts, _, hts, hw⟩

end LedgerRules.Condition
