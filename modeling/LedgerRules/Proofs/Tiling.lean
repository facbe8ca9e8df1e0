import LedgerRules.Proofs.Scanning
import Mathlib.Data.List.Pairwise

/-! The tokens of a text and the blanks between them make up the text: no character is lost and none
is read twice. What holds of the tokens cut off so far is kept by each blank that is passed over and
by each token that is read. -/

namespace LedgerRules.Condition
open Text

def Token.Holds (t : Token) (i : Nat) : Prop := t.pos ≤ i ∧ i < t.pos + t.text.length

def Token.Precedes (t : Token) (pos : Nat) : Prop :=
  t.pos < pos ∧ t.pos + t.text.length ≤ pos

theorem Token.Precedes.mono {t : Token} {pos stop : Nat} (h : t.Precedes pos) (hle : pos ≤ stop) :
    t.Precedes stop :=
  ⟨h.1.trans_le hle, h.2.trans hle⟩

theorem Reads.length_pos {text after : List Char} {t : Token} (h : Reads text t after) :
    0 < t.text.length := by
  obtain ⟨init, last, htext, -⟩ := h.sharp
  rw [← String.length_toList, htext, List.length_append]
  exact Nat.lt_of_lt_of_le Nat.one_pos (Nat.le_add_left _ _)

section
variable {source rest : List Char} {ts : List Token} {pos : Nat}

theorem Scanned.length_pos (h : Scanned source ts pos rest) : ∀ t ∈ ts, 0 < t.text.length := by
  induction h with
  | start => exact List.forall_mem_nil _
  | blank _ _ ih => exact ih
  | token _ hb hr ih =>
    obtain ⟨-, hreads⟩ := readToken_ok hb hr
    exact List.forall_mem_append.mpr ⟨ih, List.forall_mem_singleton.mpr hreads.length_pos⟩

theorem Scanned.text_ne (h : Scanned source ts pos rest) {t : Token} (ht : t ∈ ts) :
    t.text ≠ "" := by
  intro hempty
  have hpos := h.length_pos t ht
  rw [hempty] at hpos
  exact absurd hpos (by decide)

theorem Scanned.piece (h : Scanned source ts pos rest) {t : Token} (ht : t ∈ ts) :
    (source.drop t.pos).take t.text.length = t.text.toList := by
  rw [← String.length_toList]
  exact (List.prefix_iff_eq_take.mp (h.text_prefix t ht)).symm

theorem Scanned.precedes (h : Scanned source ts pos rest) : ∀ t ∈ ts, t.Precedes pos := by
  induction h with
  | start => exact List.forall_mem_nil _
  | blank _ _ ih => exact fun t ht => (ih t ht).mono (Nat.le_succ _)
  | token _ hb hr ih =>
    obtain ⟨rfl, hreads⟩ := readToken_ok hb hr
    intro u hu
    rcases List.mem_append.mp hu with hu | hu
    · exact (ih u hu).mono (Nat.le_add_right _ _)
    · rw [List.mem_singleton.mp hu]
      exact ⟨Nat.lt_add_of_pos_right hreads.length_pos, le_rfl⟩

theorem Scanned.ordered (h : Scanned source ts pos rest) :
    ts.Pairwise fun t u => t.Precedes u.pos := by
  induction h with
  | start => exact .nil
  | blank _ _ ih => exact ih
  | token hscan hb hr ih =>
    obtain ⟨rfl, -⟩ := readToken_ok hb hr
    apply List.pairwise_append.mpr
    refine ⟨ih, List.pairwise_singleton _ _, fun t ht u hu => ?_⟩
    rw [List.mem_singleton.mp hu]
    exact hscan.precedes t ht

theorem Scanned.held (h : Scanned source ts pos rest) :
    ∀ i < pos, ∀ c, source[i]? = some c → isBlank c = false → ∃ t ∈ ts, t.Holds i := by
  induction h with
  | start => exact fun i hi => absurd hi (Nat.not_lt_zero i)
  | @blank ts pos c rest hscan hb ih =>
    intro i hi d hd hn
    rcases Nat.lt_succ_iff_lt_or_eq.mp hi with hlt | rfl
    · exact ih i hlt d hd hn
    · have hhead : source[i]? = some c := by
        rw [← List.head?_drop, hscan.drop, List.head?_cons]
      rw [hhead] at hd
      obtain rfl := Option.some.inj hd
      rw [hb] at hn
      cases hn
  | @token ts pos c rest after t hscan hb hr ih =>
    obtain ⟨rfl, -⟩ := readToken_ok hb hr
    intro i hi d hd hn
    rcases Nat.lt_or_ge i t.pos with hlt | hge
    · obtain ⟨u, hu, hholds⟩ := ih i hlt d hd hn
      exact ⟨u, List.mem_append_left _ hu, hholds⟩
    · exact ⟨t, List.mem_append_right _ (List.mem_singleton_self t), hge, hi⟩

def Token.Share (i : Nat) (t u : Token) : Prop := t.Holds i ∧ u.Holds i

theorem Scanned.apart (h : Scanned source ts pos rest) (i : Nat) :
    ∀ t ∈ ts, ∀ u ∈ ts, t ≠ u → ¬Token.Share i t u := by
  have hpairs : ts.Pairwise fun t u => ¬Token.Share i t u := by
    refine h.ordered.imp fun hbefore hshare => ?_
    obtain ⟨⟨-, ht⟩, ⟨hu, -⟩⟩ := hshare
    exact Nat.not_lt.mpr (hbefore.2.trans hu) ht
  have hsymm : Std.Symm fun t u => ¬Token.Share i t u := ⟨fun _ _ hn h => hn h.symm⟩
  intro t ht u hu hne
  exact hpairs.forall ht hu hne

theorem Scanned.length_eq (h : Scanned source ts pos rest) : pos + rest.length = source.length := by
  induction h with
  | start => exact Nat.zero_add _
  | blank _ _ ih =>
    rw [← ih, List.length_cons, Nat.add_assoc, Nat.add_comm 1]
  | token _ hb hr ih =>
    obtain ⟨-, hreads⟩ := readToken_ok hb hr
    rw [← ih, ← hreads.piece, List.length_append, String.length_toList, Nat.add_assoc]

end

/-- The tokens tile the text. Before the one that marks the end, which stands at the end of the text,
each has a text of its own, which is the piece of the text at its place; each begins where the one
before it has ended, or behind; and every character that is not blank is in exactly one of them. -/
theorem tokens_tile {source : List Char} {ts : List Token} (h : tokens source = .ok ts) :
    ∃ init, ts = init ++ [endAt source.length] ∧
      (∀ t ∈ init, t.lexeme ≠ .finish ∧ t.text ≠ "" ∧
        (source.drop t.pos).take t.text.length = t.text.toList) ∧
      ts.Pairwise (fun t u => t.Precedes u.pos) ∧
      (∀ (i : Nat) (hi : i < source.length), (∀ t ∈ init, ¬t.Holds i) →
        isBlank source[i] = true) ∧
      ∀ (i : Nat) (hi : i < source.length), isBlank source[i] = false →
        ∃! t, t ∈ init ∧ t.Holds i := by
  obtain ⟨init, stop, hscan, rfl⟩ := tokens_eq_ok_iff.mp h
  obtain rfl : stop = source.length := hscan.length_eq
  have hheld : ∀ (i : Nat) (hi : i < source.length), isBlank source[i] = false →
      ∃ t ∈ init, t.Holds i := fun i hi =>
    hscan.held i hi source[i] (List.getElem?_eq_getElem hi)
  refine ⟨init, rfl, fun t ht => ⟨hscan.proper t ht, hscan.text_ne ht, hscan.piece ht⟩, ?_,
    fun i hi hout => ?_, fun i hi hn => ?_⟩
  · apply List.pairwise_append.mpr
    refine ⟨hscan.ordered, List.pairwise_singleton _ _, fun t ht u hu => ?_⟩
    rw [List.mem_singleton.mp hu]
    exact hscan.precedes t ht
  · by_contra hn
    obtain ⟨t, ht, hholds⟩ := hheld i hi (by simpa using hn)
    exact hout t ht hholds
  · obtain ⟨t, ht, hholds⟩ := hheld i hi hn
    refine ⟨t, ⟨ht, hholds⟩, ?_⟩
    rintro u ⟨hu, huholds⟩
    by_contra hne
    exact hscan.apart i u hu t ht hne ⟨huholds, hholds⟩

def searchSource : String := "/a\\/b/i .test( \"say \\\"hi\\\"\" )"

theorem tokens_tile_search :
    ∃ ts init, tokens searchSource.toList = .ok ts ∧ ts = init ++ [endAt 29] ∧
      (∀ t ∈ init, (searchSource.toList.drop t.pos).take t.text.length = t.text.toList) ∧
      ∃! t, t ∈ init ∧ t.Holds 22 := by
  have h : tokens searchSource.toList = .ok
      [⟨.pattern "a\\/b" "i", "/a\\/b/i", 0⟩, ⟨.symbol .dot, ".", 8⟩, ⟨.word, "test", 9⟩,
        ⟨.symbol .openParen, "(", 13⟩, ⟨.text "say \"hi\"", "\"say \\\"hi\\\"\"", 15⟩,
        ⟨.symbol .closeParen, ")", 28⟩, endAt 29] := by decide +kernel
  have hlength : searchSource.toList.length = 29 := by decide +kernel
  obtain ⟨init, hinit, hpieces, -, -, hheld⟩ := tokens_tile h
  rw [hlength] at hinit
  exact ⟨_, init, h, hinit, fun t ht => (hpieces t ht).2.2,
    hheld 22 (by decide +kernel) (by decide +kernel)⟩

end LedgerRules.Condition
