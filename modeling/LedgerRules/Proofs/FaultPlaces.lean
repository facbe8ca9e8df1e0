import LedgerRules.Condition.Diagnosis
import LedgerRules.Pattern.Builtin
import LedgerRules.Proofs.CacheContents
import LedgerRules.Proofs.NestedGroups
import LedgerRules.Proofs.PairedReadings
import LedgerRules.Proofs.TextLiterals
import LedgerRules.Proofs.Tiling

/-! Where a fault points to. A fault of a text that has tokens blames one of them: the reading set
beside itself shows that every reader blames what it has looked at. Only of a pattern that exhausts
the stack nothing is blamed. A text without tokens is faulted where a token begins that cannot be
read, or at a backslash in it, and up to there it has tokens. -/

namespace LedgerRules.Condition
open Text

theorem readToken_eq_fault {c : Char} {more : List Char} {pos : Nat} {f : Fault} (hq : c ≠ '"')
    (h : readToken pos c more = .error (.fault f)) : ∃ cause, f = ⟨cause, some pos⟩ ∧
      ∀ start, readToken start c more = .error (.fault ⟨cause, some start⟩) := by
  unfold readToken at h ⊢
  cases hd : isDigitLike c with
  | true => cases hdigit : isDecimalDigit c <;> simp [hq, hd, hdigit] at h
  | false =>
    by_cases hs : c = '/'
    · subst hs
      simp only [hq, hd, if_false, if_true, Bool.false_eq_true] at h ⊢
      split at h
      next hp => exact ⟨_, ((Failure.fault.inj (Except.error.inj h)).symm), fun _ => rfl⟩
      next hp => exact ⟨_, ((Failure.fault.inj (Except.error.inj h)).symm), fun _ => rfl⟩
      next hp => cases h
    · simp only [hq, hd, hs, if_false, Bool.false_eq_true] at h ⊢
      cases hw : isWordStart c with
      | true => simp [hw] at h
      | false =>
        simp only [hw, Bool.false_eq_true, if_false] at h ⊢
        cases hl : looseOperator? (c :: more) with
        | some op =>
          rw [hl] at h
          exact ⟨_, ((Failure.fault.inj (Except.error.inj h)).symm), fun _ => rfl⟩
        | none =>
          rw [hl] at h
          cases hsym : takeSymbol? (c :: more) with
          | some p => simp [hsym] at h
          | none =>
            rw [hsym] at h
            exact ⟨_, ((Failure.fault.inj (Except.error.inj h)).symm), fun _ => rfl⟩

/-- A token that cannot be read is faulted where it begins or, between quotes, at a backslash in it;
and wherever the same text stands, it is faulted for the same cause at the same distance. -/
theorem readToken_fault {c : Char} {more : List Char} {pos : Nat} {f : Fault}
    (hb : isBlank c = false) (h : readToken pos c more = .error (.fault f)) :
    ∃ cause k d, f = ⟨cause, some (pos + k)⟩ ∧ (c :: more)[k]? = some d ∧ isBlank d = false ∧
      (k = 0 ∨ c = '"' ∧ d = '\\') ∧
      ∀ start, readToken start c more = .error (.fault ⟨cause, some (start + k)⟩) := by
  by_cases hq : c = '"'
  · subst hq
    rcases closed_or_broken pos more with ⟨cs, body, rest, hbody, rfl⟩ | ⟨f', hf⟩
    · rw [hbody.readToken] at h
      cases h
    · obtain rfl := Failure.fault.inj (Except.error.inj (hf.readToken.symm.trans h))
      cases hf with
      | @escape cs body x rest hbody hx =>
        refine ⟨_, 1 + body.length, '\\', by rw [Nat.add_assoc], ?_, by decide, .inr ⟨rfl, rfl⟩,
          fun start => ?_⟩
        · rw [Nat.add_comm, List.getElem?_cons_succ, List.getElem?_append_right le_rfl]
          simp
        · rw [← Nat.add_assoc]
          exact (Broken.escape rest hbody hx).readToken
      | openEnd hbody =>
        exact ⟨_, 0, '"', rfl, rfl, hb, .inl rfl, fun start => (Broken.openEnd hbody).readToken⟩
      | openEscape hbody =>
        exact ⟨_, 0, '"', rfl, rfl, hb, .inl rfl, fun start => (Broken.openEscape hbody).readToken⟩
  · obtain ⟨cause, rfl, hagain⟩ := readToken_eq_fault hq h
    exact ⟨cause, 0, c, rfl, rfl, hb, .inl rfl, hagain⟩

theorem Scanned.before {source front middle tail : List Char} {ts : List Token} {pos : Nat}
    (h : Scanned source ts pos (middle ++ tail)) (hsource : source = front ++ tail) :
    Scanned front ts pos middle := by
  generalize hrest : middle ++ tail = rest at h
  induction h generalizing middle with
  | start =>
    obtain rfl := List.append_cancel_right (hrest.trans hsource)
    exact .start
  | blank _ hb ih =>
    subst hrest
    exact (ih (List.cons_append ..)).blank hb
  | @token ts pos c more after t _ hb hr ih =>
    subst hrest
    obtain ⟨rfl, hreads⟩ := readToken_ok hb hr
    exact hreads.scan hb (ih (by rw [List.append_assoc, hreads.piece])) hreads.ends.cut

theorem Scanned.tokens_before {source rest : List Char} {ts : List Token} {pos : Nat}
    (h : Scanned source ts pos rest) :
    Condition.tokens (source.take pos) = .ok (ts ++ [endAt pos]) := by
  have hcut : source = source.take pos ++ rest := by
    rw [← h.drop, List.take_append_drop]
  have hrest : Scanned source ts pos ([] ++ rest) := h
  exact tokens_eq_ok_iff.mpr ⟨ts, pos, hrest.before hcut, rfl⟩

theorem wholeCondition_blames [Pattern.Engine] {ts : List Token} (he : Ended ts) {f : Fault}
    (h : (wholeCondition ts.length).run ts = .error (.fault f)) : ∃ t ∈ ts, f.pos = some t.pos := by
  -- The reading beside itself: twins are blamed together, and every token is its own twin.
  have htwins : List.Forall₂ (Token.Twins fun pos _ => ∃ t ∈ ts, t.pos = pos) ts ts :=
    List.forall₂_same.mpr fun t ht => ⟨rfl, t, ht, rfl⟩
  have hboth := wholeCondition_together le_rfl le_rfl ⟨he, htwins, le_rfl⟩
  unfold Together at hboth
  rw [h] at hboth
  cases hboth with
  | fault cause hpos =>
    obtain ⟨t, ht, rfl⟩ := hpos
    exact ⟨t, ht, rfl⟩

theorem finish_iff_pos {text : List Char} {ts : List Token} (h : tokens text = .ok ts) :
    ∀ t ∈ ts, t.pos ≤ text.length ∧ (t.lexeme = .finish ↔ t.pos = text.length) := by
  obtain ⟨init, stop, hscan, rfl⟩ := tokens_eq_ok_iff.mp h
  obtain rfl : stop = text.length := hscan.length_eq
  refine List.forall_mem_append.mpr ⟨fun t ht => ?_, List.forall_mem_singleton.mpr ?_⟩
  · have hlt := (hscan.precedes t ht).1
    exact ⟨hlt.le, iff_of_false (hscan.proper t ht) hlt.ne⟩
  · exact ⟨le_rfl, iff_of_true rfl rfl⟩

theorem compile_eq_error_iff [Pattern.Engine] {source : String} {e : CompileError} :
    compile source = .error (.error e) ↔
      ∃ f, e = .condition f ∧ parseCondition source = .error (.fault f) := by
  rw [compile]
  cases parseCondition source with
  | ok e' => simp
  | error f =>
    cases f with
    | fault f => simp [CompileFailure.ofCondition, eq_comm]
    | breakdown b => simp [CompileFailure.ofCondition]

theorem diagnosis?_of_fault [Pattern.Engine] {source : String} {f : Fault}
    (h : parseCondition source = .error (.fault f)) :
    diagnosis? source = some ⟨Text.trimmed source, f⟩ := by
  simp only [diagnosis?, parseCondition_trimmed, h]

/-- Up to `start` the text is cut into complete tokens. There begins one that cannot be read, and
the character at `pos`, which is no blank, is where it begins or a backslash in it. -/
structure StopsReading (text : List Char) (f : Fault) (start pos : Nat) : Prop where
  exists_scan : ∃ init c more, Scanned text init start (c :: more) ∧
    readToken start c more = .error (.fault f) ∧ (∀ t ∈ init, t.Precedes start) ∧
    tokens (text.take start) = .ok (init ++ [endAt start])
  le : start ≤ pos
  unblank : ∃ d, text[pos]? = some d ∧ isBlank d = false ∧ (pos = start ∨ d = '\\')

theorem stopsReading {text : List Char} {f : Fault} (h : tokens text = .error (.fault f)) :
    ∃ start pos, f.pos = some pos ∧ StopsReading text f start pos := by
  obtain ⟨init, start, c, more, hscan, hb, hread⟩ := tokens_eq_error_iff.mp h
  obtain ⟨cause, k, d, rfl, hd, hunblank, hplace, -⟩ := readToken_fault hb hread
  refine ⟨start, start + k, rfl,
    ⟨init, c, more, hscan, hread, hscan.precedes, hscan.tokens_before⟩, Nat.le_add_right _ _,
    d, ?_, hunblank, hplace.imp (fun hk => by rw [hk, Nat.add_zero]) fun hs => hs.2⟩
  rw [← List.getElem?_drop, hscan.drop, hd]

theorem parseCondition_eq_fault_iff [Pattern.Engine] {source : String} {f : Fault} :
    parseCondition source = .error (.fault f) ↔
      tokens (Text.trim source.toList) = .error (.fault f) ∨
      ∃ ts, tokens (Text.trim source.toList) = .ok ts ∧
        ((wholeCondition ts.length).run ts = .error (.fault f) ∨
          f = ⟨.stackExhausted, none⟩ ∧
            Breaks .stackExhausted maxNesting (.run .any) (terminals ts)) := by
  rw [parseCondition, parseWith_eq_error_iff]
  constructor
  · rintro ⟨g, hg, h⟩
    cases g with
    | fault g =>
      obtain rfl := Failure.fault.inj hg
      exact h.imp_right (Exists.imp fun ts hts => ⟨hts.1, .inl hts.2⟩)
    | breakdown b =>
      cases b with
      | stackExhausted =>
        obtain rfl := Failure.fault.inj hg
        rcases h with h | ⟨ts, ht, hrun⟩
        · cases (tokens_breakdown_iff.mp h).1
        · have hbreaks := (wholeCondition_breakdown_iff (ended_of_tokens ht)).mp hrun
          exact .inr ⟨ts, ht, .inr ⟨rfl, hbreaks⟩⟩
      | strayDigit | numberOverflow | longInteger => cases hg
  · rintro (h | ⟨ts, ht, hrun | ⟨rfl, hbreaks⟩⟩)
    · exact ⟨.fault f, rfl, .inl h⟩
    · exact ⟨.fault f, rfl, .inr ⟨ts, ht, hrun⟩⟩
    · have hrun := (wholeCondition_breakdown_iff (ended_of_tokens ht)).mpr hbreaks
      exact ⟨.breakdown .stackExhausted, rfl, .inr ⟨ts, ht, hrun⟩⟩

/-- A fault points into the text, unless a pattern in it exhausts the stack. What is reported of a
text that does not compile names the text without the blanks at its ends and a place in it, or none
exactly if the text has tokens and these lead to such a pattern. If the text has tokens, one of them
stands at the place, the one that marks the end only at the end. If not, the place is that of a
character that is no blank, behind all complete tokens, in a token that cannot be read, and the text
in front of that token has tokens. -/
theorem fault_places [Pattern.Engine] {source : String} {e : CompileError}
    (h : compile source = .error (.error e)) :
    ∃ d, diagnosis? source = some d ∧ e = .condition d.fault ∧ d.source = Text.trimmed source ∧
      (e.position = none ↔ ∃ ts, tokens d.source.toList = .ok ts ∧
        Breaks .stackExhausted maxNesting (.run .any) (terminals ts)) ∧
      (e.position = none → d.fault.cause = .stackExhausted) ∧
      ∀ pos, e.position = some pos → pos ≤ d.source.length ∧
        (∀ ts, tokens d.source.toList = .ok ts →
          ∃ t ∈ ts, t.pos = pos ∧ (t.lexeme = .finish ↔ pos = d.source.length)) ∧
        ∀ f, tokens d.source.toList = .error f →
          f = .fault d.fault ∧ ∃ start, StopsReading d.source.toList d.fault start pos := by
  obtain ⟨f, rfl, hparse⟩ := compile_eq_error_iff.mp h
  have htext : (Text.trimmed source).toList = Text.trim source.toList := String.toList_ofList
  refine ⟨⟨Text.trimmed source, f⟩, diagnosis?_of_fault hparse, rfl, rfl, ?_⟩
  rw [← String.length_toList, htext]
  show (f.pos = none ↔ _) ∧ (f.pos = none → _) ∧ ∀ pos, f.pos = some pos → _
  rcases parseCondition_eq_fault_iff.mp hparse with herror | ⟨ts, hts, hrun | ⟨rfl, hbreaks⟩⟩
  · obtain ⟨start, pos, hpos, hstops⟩ := stopsReading herror
    obtain ⟨d, hd, -⟩ := hstops.unblank
    have hlt := (List.getElem?_eq_some_iff.mp hd).1
    rw [hpos]
    refine ⟨iff_of_false nofun ?_, nofun, ?_⟩
    · rintro ⟨ts, hts, -⟩
      rw [herror] at hts
      cases hts
    · rintro _ ⟨⟩
      refine ⟨hlt.le, fun ts hts => ?_, fun g hg => ?_⟩
      · rw [herror] at hts
        cases hts
      · exact ⟨Except.error.inj (hg.symm.trans herror), start, hstops⟩
  · have he := ended_of_tokens hts
    obtain ⟨t, ht, hpos⟩ := wholeCondition_blames he hrun
    obtain ⟨hle, hfinish⟩ := finish_iff_pos hts t ht
    rw [hpos]
    refine ⟨iff_of_false nofun ?_, nofun, ?_⟩
    · rintro ⟨us, hus, hbreaks⟩
      obtain rfl := Except.ok.inj (hts.symm.trans hus)
      rw [(wholeCondition_breakdown_iff he).mpr hbreaks] at hrun
      cases hrun
    · rintro _ ⟨⟩
      refine ⟨hle, fun us hus => ?_, fun g hg => ?_⟩
      · obtain rfl := Except.ok.inj (hts.symm.trans hus)
        exact ⟨t, ht, rfl, hfinish⟩
      · rw [hts] at hg
        cases hg
  · exact ⟨iff_of_true rfl ⟨ts, hts, hbreaks⟩, fun _ => rfl, nofun⟩

open scoped Pattern.Builtin in
theorem fault_places_escape :
    compile " 1 && \"a\\q\"" =
        .error (.error (.condition ⟨.unsupportedEscape 'q', some 7⟩)) ∧
      tokens "1 && \"a\\q\"".toList = .error (.fault ⟨.unsupportedEscape 'q', some 7⟩) ∧
      ∃ start, StopsReading "1 && \"a\\q\"".toList ⟨.unsupportedEscape 'q', some 7⟩ start 7 := by
  have hcompile : compile " 1 && \"a\\q\"" =
      .error (.error (.condition ⟨.unsupportedEscape 'q', some 7⟩)) :=
    compile_eq_error_iff.mpr ⟨_, rfl, by decide +kernel⟩
  have htokens : tokens "1 && \"a\\q\"".toList =
      .error (.fault ⟨.unsupportedEscape 'q', some 7⟩) := by decide +kernel
  obtain ⟨⟨text, f⟩, -, he, htext, -, -, hplace⟩ := fault_places hcompile
  obtain rfl : text = "1 && \"a\\q\"" := htext.trans (by decide +kernel)
  obtain rfl := CompileError.condition.inj he
  obtain ⟨-, -, hstops⟩ := hplace 7 rfl
  exact ⟨hcompile, htokens, (hstops _ htokens).2⟩

open scoped Pattern.Builtin in
theorem compile_nestedSearch {depth : Nat} (h : Pattern.Reading.groupLimit < depth) :
    compile (String.ofList (nestedSearch depth)) =
      .error (.error (.condition ⟨.stackExhausted, none⟩)) := by
  have hparse := @Pattern.parse_nestedGroups depth h {} rfl
  have hpattern : compilePattern (String.ofList (Pattern.nestedGroups depth)) "" =
      .error .exhausted := by
    have hflags : patternFlags "".toList "".toList {} = .ok {} := rfl
    simp only [compilePattern, hflags, Except.mapError, bind, Except.bind, Pattern.Engine.compile,
      hparse, Except.map]
    rfl
  obtain ⟨ts, w, hts, hw⟩ := tokens_nestedSearch depth
  have hbreaks : Breaks .stackExhausted maxNesting (.run .any) (terminals ts) := by
    rw [hw]
    exact .first (.first (.left (.primary (.snag (.pattern hpattern)))))
  have htrim : Text.trim (String.ofList (nestedSearch depth)).toList = nestedSearch depth := by
    rw [String.toList_ofList, trim_nestedSearch]
  rw [← htrim] at hts
  exact compile_eq_error_iff.mpr
    ⟨_, rfl, parseCondition_eq_fault_iff.mpr (.inr ⟨ts, hts, .inr ⟨rfl, hbreaks⟩⟩)⟩

open scoped Pattern.Builtin in
/-- Of a thousand groups nothing is blamed. -/
theorem nestedGroups_unplaced :
    ∃ e, compile (String.ofList (nestedSearch 1000)) = .error (.error e) ∧ e.position = none :=
  ⟨_, compile_nestedSearch (by decide), rfl⟩

end LedgerRules.Condition
