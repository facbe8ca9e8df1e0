import LedgerRules.Proofs.Spelling

/-! The layout of a text. Texts that are put together from the same tokens, with blanks between them,
are cut into these tokens again: what a token is was never decided by what stood behind it, but for
a character that would have made it longer, and a blank makes no token longer. -/

namespace LedgerRules.Condition
open Text

def Blanks (cs : List Char) : Prop := ∀ c ∈ cs, isBlank c = true

instance (cs : List Char) : Decidable (Blanks cs) := List.decidableBAll _ cs

/-- The texts of the tokens in their order, with blanks between each two of them, and perhaps in
front of the first one and behind the last. -/
inductive LaidOut : List Token → List Char → Prop
  | blanks {cs : List Char} : Blanks cs → LaidOut [] cs
  | last {front back : List Char} {t : Token} :
      Blanks front → Blanks back → LaidOut [t] (front ++ (t.text.toList ++ back))
  | next {front rest : List Char} {t u : Token} {ts : List Token} {c : Char} :
      Blanks front → isBlank c = true → LaidOut (u :: ts) (c :: rest) →
      LaidOut (t :: u :: ts) (front ++ (t.text.toList ++ c :: rest))

def Token.WasRead (t : Token) : Prop :=
  ∃ c more after, isBlank c = false ∧ Reads (c :: more) t after

theorem Scanned.wasRead {source rest : List Char} {ts : List Token} {pos : Nat}
    (h : Scanned source ts pos rest) : ∀ t ∈ ts, t.WasRead := by
  induction h with
  | start => exact List.forall_mem_nil _
  | blank _ _ ih => exact ih
  | token _ hb hr ih =>
    obtain ⟨-, hreads⟩ := readToken_ok hb hr
    exact List.forall_mem_append.mpr
      ⟨ih, List.forall_mem_singleton.mpr ⟨_, _, _, hb, hreads⟩⟩

theorem Scanned.again {source after : List Char} {ts : List Token} {pos : Nat} {t : Token}
    (h : Scanned source ts pos (t.text.toList ++ after)) (ht : t.WasRead)
    (hs : Separates after) :
    Scanned source (ts ++ [{ t with pos }]) (pos + t.text.length) after := by
  obtain ⟨c, more, rest, hb, hreads⟩ := ht
  have hends : t.EndsBefore ([] ++ after) := hreads.ends.cut.separated hs
  exact hreads.scan hb h hends

theorem LaidOut.scanned {us : List Token} {text : List Char} (h : LaidOut us text)
    (hread : ∀ t ∈ us, t.WasRead) {source : List Char} {ts : List Token} {pos : Nat}
    (hs : Scanned source ts pos text) :
    ∃ found stop, Scanned source (ts ++ found) stop [] ∧
      found.map Token.content = us.map Token.content := by
  induction h generalizing ts pos with
  | @blanks cs hcs =>
    rw [← List.append_nil cs] at hs
    exact ⟨[], _, by simpa using hs.skip hcs, rfl⟩
  | @last front back t hfront hback =>
    have hends : Separates back := by
      cases back with
      | nil => exact .nil
      | cons c back => exact .blank back (hback c List.mem_cons_self)
    have hone := (hs.skip hfront).again (hread t List.mem_cons_self) hends
    rw [← List.append_nil back] at hone
    exact ⟨_, _, hone.skip hback, rfl⟩
  | @next front rest t u us c hfront hc _ ih =>
    have hone := (hs.skip hfront).again (hread t List.mem_cons_self) (.blank rest hc)
    obtain ⟨found, stop, hall, hcontent⟩ :=
      ih (fun v hv => hread v (List.mem_cons_of_mem t hv)) hone
    rw [List.append_assoc] at hall
    exact ⟨_, stop, hall, congrArg (t.content :: ·) hcontent⟩

/-- The same tokens, perhaps at other places. -/
def SameTokens (ts us : List Token) : Prop := us.map Token.content = ts.map Token.content

theorem tokens_laidOut {source text : List Char} {init : List Token} {stop : Nat}
    (h : tokens source = .ok (init ++ [endAt stop])) (ht : LaidOut init text) :
    ∃ us, tokens text = .ok us ∧ SameTokens (init ++ [endAt stop]) us := by
  obtain ⟨init', stop', hscan, heq⟩ := tokens_eq_ok_iff.mp h
  obtain ⟨rfl, -⟩ := List.append_inj' heq rfl
  obtain ⟨found, stop'', hall, hcontent⟩ := ht.scanned hscan.wasRead Scanned.start
  refine ⟨_, tokens_eq_ok_iff.mpr ⟨found, stop'', hall, rfl⟩, ?_⟩
  simp only [SameTokens, List.map_append, hcontent]
  rfl

end LedgerRules.Condition
