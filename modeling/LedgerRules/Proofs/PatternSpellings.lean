import LedgerRules.Pattern.Builtin
import LedgerRules.Proofs.FaultPlaces
import LedgerRules.Proofs.LayoutFreedom
import LedgerRules.Proofs.Rendering

/-! The two spellings of a search. A pattern stands between slashes, or a constructor makes it from
a literal of its text and one of its flags. The scans of both spellings come to the call behind the
pattern, and from there on they find the same tokens; the readers of both come to the same pattern,
or blame it for the same cause, and read the same call. -/

namespace LedgerRules.Condition
open Numeric Text

def patternText (body flags : String) : List Char := '/' :: (body.toList ++ '/' :: flags.toList)

def constructorText (written : List Char) (flags : String) : List Char :=
  "new RegExp(".toList ++
    (inQuotes written ++ (", ".toList ++ (inQuotes flags.toList ++ ")".toList)))

def testCall (argument : String) : List Char := ".test".toList ++ inBrackets argument.toList

def literalTest (body flags argument : String) : String :=
  String.ofList (patternText body flags ++ testCall argument)

def constructedTest (written : List Char) (flags argument : String) : String :=
  String.ofList (constructorText written flags ++ testCall argument)

theorem trim_testCall {c : Char} (hc : isBlank c = false) (cs : List Char) (argument : String) :
    trim (c :: (cs ++ testCall argument)) = c :: (cs ++ testCall argument) := by
  have hends := trim_enclosed hc (d := ')') (by decide)
    (cs ++ (".test".toList ++ '(' :: argument.toList))
  rwa [List.append_assoc, List.append_assoc] at hends

theorem trim_literalTest (body flags argument : String) :
    trim (literalTest body flags argument).toList =
      patternText body flags ++ testCall argument := by
  rw [literalTest, String.toList_ofList]
  exact trim_testCall (by decide) (body.toList ++ '/' :: flags.toList) argument

theorem constructorText_eq_cons (written : List Char) (flags : String) :
    ∃ cs, constructorText written flags = 'n' :: cs := ⟨_, rfl⟩

theorem trim_constructedTest (written : List Char) (flags argument : String) :
    trim (constructedTest written flags argument).toList =
      constructorText written flags ++ testCall argument := by
  obtain ⟨cs, hcs⟩ := constructorText_eq_cons written flags
  rw [constructedTest, String.toList_ofList, hcs]
  exact trim_testCall (by decide) cs argument

def CutTo (source rest : List Char) (said : List (Lexeme × String)) : Prop :=
  ∃ ts pos, Scanned source ts pos rest ∧ ts.map Token.content = said

section
variable {source source' cs rest : List Char} {said said' : List (Lexeme × String)}
  {us : List Token} {stop : Nat}

theorem CutTo.start (source : List Char) : CutTo source source [] := ⟨[], 0, .start, rfl⟩

theorem CutTo.next (h : CutTo source (cs ++ rest) said)
    (hcs : tokens cs = .ok (us ++ [endAt stop])) (hs : Separates rest) :
    CutTo source rest (said ++ us.map Token.content) := by
  obtain ⟨ts, pos, hscan, rfl⟩ := h
  obtain ⟨init, stop', hpiece, hinit⟩ := tokens_eq_ok_iff.mp hcs
  obtain ⟨rfl, -⟩ := List.append_inj' hinit rfl
  obtain ⟨us', pos', hall, hcontent⟩ := hscan.trans (hpiece.extend hs)
  exact ⟨ts ++ us', pos', hall, by rw [List.map_append, hcontent]⟩

theorem CutTo.alike (h : CutTo source rest said) (h' : CutTo source' rest said') :
    (∃ ts us vs ws, tokens source = .ok (ts ++ vs) ∧ tokens source' = .ok (us ++ ws) ∧
      ts.map Token.content = said ∧ us.map Token.content = said' ∧ SameTokens vs ws) ∨
    (∃ cause pos pos', tokens source = .error (.fault ⟨cause, some pos⟩) ∧
      tokens source' = .error (.fault ⟨cause, some pos'⟩)) ∨
    ∃ b, tokens source = .error (.breakdown b) ∧ tokens source' = .error (.breakdown b) := by
  obtain ⟨ts, pos, hscan, rfl⟩ := h
  obtain ⟨us, pos', hscan', rfl⟩ := h'
  rcases tokens_cases rest with ⟨vs, stop, hrest, -⟩ | ⟨f, vs, stop, c, more, hrest, hb, hread, -⟩
  · obtain ⟨vs', stop', hall, hcontent⟩ := hscan.trans hrest
    obtain ⟨ws', stop'', hall', hcontent'⟩ := hscan'.trans hrest
    refine .inl ⟨ts, us, vs' ++ [endAt stop'], ws' ++ [endAt stop''],
      tokens_eq_ok_iff.mpr ⟨_, _, hall, (List.append_assoc ..).symm⟩,
      tokens_eq_ok_iff.mpr ⟨_, _, hall', (List.append_assoc ..).symm⟩, rfl, rfl, ?_⟩
    rw [SameTokens, List.map_append, List.map_append, hcontent, hcontent']
    rfl
  · obtain ⟨_, stop', hall, -⟩ := hscan.trans hrest
    obtain ⟨_, stop'', hall', -⟩ := hscan'.trans hrest
    have herror {g : Failure} (hg : readToken stop' c more = .error g) :
        tokens source = .error g := tokens_eq_error_iff.mpr ⟨_, _, c, more, hall, hb, hg⟩
    have herror' {g : Failure} (hg : readToken stop'' c more = .error g) :
        tokens source' = .error g := tokens_eq_error_iff.mpr ⟨_, _, c, more, hall', hb, hg⟩
    cases f with
    | fault f =>
      obtain ⟨cause, k, -, -, -, -, -, hagain⟩ := readToken_fault hb hread
      exact .inr (.inl ⟨cause, stop' + k, stop'' + k, herror (hagain _), herror' (hagain _)⟩)
    | breakdown b =>
      have hstray := readToken_breakdown.mp hread
      exact .inr (.inr ⟨b, herror (readToken_breakdown.mpr hstray),
        herror' (readToken_breakdown.mpr hstray)⟩)

theorem separates_testCall (argument : String) : Separates (testCall argument) :=
  .point _ (by decide)

theorem scanned_of_pair {t stop : Token} (h : tokens cs = .ok [t, stop]) :
    ∃ pos, Scanned cs [t] pos [] ∧ stop = endAt pos := by
  obtain ⟨init, pos, hscan, hinit⟩ := tokens_eq_ok_iff.mp h
  obtain ⟨rfl, hstop⟩ := List.append_inj' (show [t] ++ [stop] = _ from hinit) rfl
  exact ⟨pos, hscan, List.singleton_inj.mp hstop⟩

theorem isFlagChar_of_tokens {body flags : String} {t stop : Token}
    (h : tokens cs = .ok [t, stop]) (ht : t.lexeme = .pattern body flags) :
    ∀ d ∈ flags.toList, isFlagChar d = true := by
  obtain ⟨pos, hscan, -⟩ := scanned_of_pair h
  have hread := hscan.isRead t List.mem_cons_self
  rw [ht] at hread
  cases hread with
  | pattern body flags hflags =>
    rw [String.toList_ofList]
    exact hflags

end

theorem cutTo_literal {body flags : String} {t stop : Token}
    (h : tokens (patternText body flags) = .ok [t, stop]) (argument : String) :
    CutTo (patternText body flags ++ testCall argument) (testCall argument) [t.content] := by
  obtain ⟨pos, -, rfl⟩ := scanned_of_pair h
  have hcut : tokens (patternText body flags) = .ok ([t] ++ [endAt pos]) := h
  exact (CutTo.start _).next hcut (separates_testCall argument)

def constructorSaid (body flags : String) (written : List Char) : List (Lexeme × String) :=
  [(.word, "new"), (.word, "RegExp"), (.symbol .openParen, "("),
    (.text body, String.ofList (inQuotes written)), (.symbol .comma, ","),
    (.text flags, String.ofList (inQuotes flags.toList)), (.symbol .closeParen, ")")]

theorem cutTo_constructor {body flags : String} {written : List Char}
    (hw : BodyOf body.toList written) (hf : BodyOf flags.toList flags.toList)
    (argument : String) :
    CutTo (constructorText written flags ++ testCall argument) (testCall argument)
      (constructorSaid body flags written) := by
  have hassoc (a b c d e rest : List Char) : a ++ (b ++ (c ++ (d ++ e))) ++ rest =
      a ++ (b ++ (c ++ (d ++ (e ++ rest)))) := by
    simp only [List.append_assoc]
  have htext : constructorText written flags ++ testCall argument = "new RegExp(".toList ++
      (inQuotes written ++ (", ".toList ++ (inQuotes flags.toList ++
        (")".toList ++ testCall argument)))) := hassoc _ _ _ _ _ _
  have hnew : tokens "new RegExp(".toList = .ok ([⟨.word, "new", 0⟩, ⟨.word, "RegExp", 4⟩,
      ⟨.symbol .openParen, "(", 10⟩] ++ [endAt 11]) := by decide +kernel
  have hcomma : tokens ", ".toList = .ok ([⟨.symbol .comma, ",", 0⟩] ++ [endAt 2]) := by
    decide +kernel
  have hclose : tokens ")".toList = .ok ([⟨.symbol .closeParen, ")", 0⟩] ++ [endAt 1]) := by
    decide +kernel
  have hstart := CutTo.start (constructorText written flags ++ testCall argument)
  nth_rewrite 2 [htext] at hstart
  have hquote (rest : List Char) : Separates ('"' :: rest) := .cons rest (by decide) (by decide)
  have hquoted {s : String} {cs : List Char} (h : BodyOf s.toList cs) : tokens (inQuotes cs) =
      .ok ([⟨.text s, String.ofList (inQuotes cs), 0⟩] ++ [endAt (inQuotes cs).length]) := h.tokens
  have hopened := hstart.next hnew (hquote _)
  have hbody := hopened.next (hquoted hw) (.cons _ (by decide) (by decide))
  have hflags := (hbody.next hcomma (hquote _)).next (hquoted hf)
    (.cons _ (by decide) (by decide))
  exact hflags.next hclose (separates_testCall argument)

theorem bodyOf_flags {flags : List Char} (h : ∀ d ∈ flags, isFlagChar d = true) :
    BodyOf flags flags := by
  induction flags with
  | nil => exact .nil
  | cons d ds ih =>
    obtain ⟨hd, hds⟩ := List.forall_mem_cons.mp h
    show BodyOf (d :: ds) ([d] ++ ds)
    refine .cons (.raw ?_ ?_) (ih hds)
    · rintro rfl
      exact absurd hd (by decide)
    · rintro rfl
      exact absurd hd (by decide)

section
variable {fuel fuel' n : Nat} {inner : Option Level} {body flags : String} {written : List Char}

theorem run_primary_literal [Pattern.Engine] {t : Token} {ts : List Token} (he : Ended (t :: ts))
    (ht : t.lexeme = .pattern body flags) : (primary fuel inner).run (t :: ts) =
      (compiled t body flags >>= patternTest fuel inner).run ts := by
  unfold primary
  rw [run_bind_ok (run_peek t), ht]
  exact run_bind_ok (run_advance he (Token.terminal?_pattern.mpr ht))

theorem eq_cons_of_content {us : List Token} {lexeme : Lexeme} {text : String}
    {said : List (Lexeme × String)} (h : us.map Token.content = (lexeme, text) :: said) :
    ∃ pos us', us = ⟨lexeme, text, pos⟩ :: us' ∧ us'.map Token.content = said := by
  obtain ⟨u, us', rfl, hu, hrest⟩ := List.map_eq_cons_iff.mp h
  obtain ⟨rfl, rfl⟩ := Prod.mk.inj hu
  exact ⟨u.pos, us', rfl, hrest⟩

theorem run_primary_constructor [Pattern.Engine] (fuel : Nat) (inner : Option Level)
    {us ws : List Token} (he : Ended ws)
    (h : us.map Token.content = constructorSaid body flags written) :
    ∃ u, (primary fuel inner).run (us ++ ws) =
      (compiled u body flags >>= patternTest fuel inner).run ws := by
  obtain ⟨w, ws', rfl⟩ := he.exists_cons
  obtain ⟨p₀, us, rfl, h₀⟩ := eq_cons_of_content h
  obtain ⟨p₁, us, rfl, h₁⟩ := eq_cons_of_content h₀
  obtain ⟨p₂, us, rfl, h₂⟩ := eq_cons_of_content h₁
  obtain ⟨p₃, us, rfl, h₃⟩ := eq_cons_of_content h₂
  obtain ⟨p₄, us, rfl, h₄⟩ := eq_cons_of_content h₃
  obtain ⟨p₅, us, rfl, h₅⟩ := eq_cons_of_content h₄
  obtain ⟨p₆, us, rfl, h₆⟩ := eq_cons_of_content h₅
  obtain rfl := List.map_eq_nil_iff.mp h₆
  exact ⟨⟨.text body, String.ofList (inQuotes written), p₃⟩, rfl⟩

end

theorem SameTokens.ended {vs ws : List Token} (h : SameTokens vs ws) (he : Ended vs) :
    Ended ws := by
  induction he generalizing ws with
  | finish ht =>
    obtain ⟨w, _, rfl, hw, hrest⟩ := List.map_eq_cons_iff.mp h
    obtain rfl := List.map_eq_nil_iff.mp hrest
    exact .finish ((Prod.mk.inj hw).1.trans ht)
  | cons ht _ ih =>
    obtain ⟨w, ws', rfl, hw, hrest⟩ := List.map_eq_cons_iff.mp h
    exact .cons (fun hf => ht ((Prod.mk.inj hw).1.symm.trans hf)) (ih hrest)

theorem constructorSaid_cons {us : List Token} {body flags : String} {written : List Char}
    (h : us.map Token.content = constructorSaid body flags written) :
    ∃ u us', us = u :: us' ∧ u.lexeme = .word := by
  obtain ⟨p, us', rfl, -⟩ := eq_cons_of_content h
  exact ⟨_, us', rfl, rfl⟩

theorem wholeCondition_spellings [Pattern.Engine] {t : Token} {us vs ws : List Token}
    {body flags : String} {written : List Char} (he : Ended (t :: vs))
    (ht : t.lexeme = .pattern body flags)
    (hus : us.map Token.content = constructorSaid body flags written) (hsame : SameTokens vs ws) :
    Together (fun _ _ => True) vs.length Eq (wholeCondition (t :: vs).length)
      (wholeCondition (us ++ ws).length) (t :: vs) (us ++ ws) := by
  have hf : t.lexeme ≠ .finish := by
    rw [ht]
    nofun
  have hp := hsame.paired (he.tail hf)
  have hlength : vs.length ≤ (us ++ ws).length := by
    rw [List.length_append, ← hp.twins.length_eq]
    exact Nat.le_add_left _ _
  have hb := beside_level (fun _ _ => True) (Nat.le_succ vs.length) hlength maxNesting
  obtain ⟨blamed, hrun⟩ := run_primary_constructor (us ++ ws).length
    (level (us ++ ws).length maxNesting) (hsame.ended (he.tail hf)) hus
  -- One token on the left and seven on the right come to the same primary; the rest is paired.
  have hprimary : Together (fun _ _ => True) vs.length Eq
      (primary (t :: vs).length (level (t :: vs).length maxNesting))
      (primary (us ++ ws).length (level (us ++ ws).length maxNesting)) (t :: vs) (us ++ ws) := by
    unfold Together
    rw [run_primary_literal he ht, hrun]
    exact (Together.compiled _ _ trivial hp).bind_eq fun pattern _ _ hp => hb.patternTest pattern hp
  obtain ⟨u, us', rfl, hword⟩ := constructorSaid_cons hus
  exact wholeCondition_of_primary (Nat.le_succ _) hlength hf (by rw [hword]; nofun) hprimary

section
variable {body flags : String} {t stop : Token} {written : List Char}

theorem spellings_alike [Pattern.Engine] (h : tokens (patternText body flags) = .ok [t, stop])
    (ht : t.lexeme = .pattern body flags) (hw : BodyOf body.toList written) (argument : String) :
    ReadAlike (parseCondition (literalTest body flags argument))
        (parseCondition (constructedTest written flags argument)) ∨
      ∃ b, parseCondition (literalTest body flags argument) = .error (.breakdown b) ∧
        parseCondition (constructedTest written flags argument) = .error (.breakdown b) := by
  have hliteral := cutTo_literal h argument
  have hconstructor := cutTo_constructor hw (bodyOf_flags (isFlagChar_of_tokens h ht)) argument
  rw [← trim_literalTest] at hliteral
  rw [← trim_constructedTest] at hconstructor
  rcases hliteral.alike hconstructor with ⟨ts, us, vs, ws, hts, hus, hsaid, hsaid', hsame⟩ |
    ⟨cause, pos, pos', herror, herror'⟩ | ⟨b, herror, herror'⟩
  · obtain ⟨t', rfl, hcontent⟩ := List.map_eq_singleton_iff.mp hsaid
    have ht' : t'.lexeme = .pattern body flags := (Prod.mk.inj hcontent).1.trans ht
    rw [parseCondition, parseWith_eq hts, parseWith_eq hus]
    exact (wholeCondition_spellings (ended_of_tokens hts) ht' hsaid' hsame).read
  · left
    rw [parseCondition, parseWith_eq_error_iff.mpr ⟨_, rfl, .inl herror⟩,
      parseWith_eq_error_iff.mpr ⟨_, rfl, .inl herror'⟩]
    exact .fault cause _ _
  · obtain ⟨rfl, -⟩ := tokens_breakdown_iff.mp herror
    exact .inr ⟨.strayDigit, parseWith_eq_error_iff.mpr ⟨_, rfl, .inl herror⟩,
      parseWith_eq_error_iff.mpr ⟨_, rfl, .inl herror'⟩⟩

theorem tokens_literalTest (h : tokens (patternText body flags) = .ok [t, stop])
    (ht : t.lexeme = .pattern body flags) {argument : String} {w : List Terminal}
    (hw : Spells argument.toList w [')']) :
    ∃ ts, tokens (trim (literalTest body flags argument).toList) = .ok ts ∧
      terminals ts = .pattern body flags :: Phrase.testOf w := by
  have hpattern := spells_of_tokens h (separates_testCall argument)
  have hfirst : terminals [t, stop] = [.pattern body flags] := by
    obtain ⟨pos, -, rfl⟩ := scanned_of_pair h
    exact terminals_cons (Token.terminal?_pattern.mpr ht) [endAt pos]
  rw [hfirst, ← List.append_nil (testCall argument)] at hpattern
  have htest : Spells ".test".toList [.symbol .dot, .word "test"]
      (inBrackets argument.toList ++ []) :=
    spells_of_terminals (by decide +kernel) (separates_openParen _)
  rw [trim_literalTest]
  exact (hpattern.append (htest.append (spells_inBrackets hw))).tokens

theorem parseCondition_ne_breakdown [Pattern.Engine]
    (h : tokens (patternText body flags) = .ok [t, stop]) (ht : t.lexeme = .pattern body flags)
    {argument : String} {e : Expr} (ha : parseOperand argument = .ok e) (b : Breakdown) :
    parseCondition (literalTest body flags argument) ≠ .error (.breakdown b) := by
  obtain ⟨us, hus, p, hp, -, hb⟩ := built_of_parseOperand ha
  obtain ⟨ts, hts, hterminals⟩ :=
    tokens_literalTest h ht (spells_of_trim hus (separates_closeParen []))
  rw [Ne, parseCondition_breakdown_iff]
  cases b with
  | strayDigit =>
    intro hstray
    have herror := tokens_breakdown_iff.mpr ⟨rfl, hstray⟩
    rw [hts] at herror
    cases herror
  | numberOverflow =>
    rintro ⟨ts', hts', hbreaks⟩
    obtain rfl := Except.ok.inj (hts.symm.trans hts')
    obtain ⟨d, hd, hnone⟩ := hbreaks.exists_minusNumber
    have hyield : terminals ts = (Phrase.pattern body flags p).yield ++ [] := by
      rw [hterminals, ← hp, List.append_nil]
      rfl
    rw [hyield, Phrase.minusNumbers_yield, minusNumbers, List.append_nil] at hd
    exact p.negates Decimal.negated? e hb d hd hnone
  | longInteger | stackExhausted => exact id

/-- The two spellings of a search are one construct. Take a text that is one token, a pattern with
its flags, and the constructor made of any writing of that pattern between quotes and of these
flags: whatever stands in the call, both conditions have the same expression or the same fault, but for its
place. Only where the reading breaks down is there neither, and then it breaks down in both; it does
not where the argument is an operand that can be read on its own. -/
theorem pattern_spellings [Pattern.Engine] (h : tokens (patternText body flags) = .ok [t, stop])
    (ht : t.lexeme = .pattern body flags) (hw : BodyOf body.toList written) (argument : String) :
    (ReadAlike (parseCondition (literalTest body flags argument))
        (parseCondition (constructedTest written flags argument)) ↔
      ∀ b, ¬BreaksDown (.run .any) (literalTest body flags argument) b) ∧
    (∀ b, BreaksDown (.run .any) (literalTest body flags argument) b ↔
      BreaksDown (.run .any) (constructedTest written flags argument) b) ∧
    ((∃ e, parseOperand argument = .ok e) →
      ReadAlike (parseCondition (literalTest body flags argument))
        (parseCondition (constructedTest written flags argument))) := by
  simp only [← parseCondition_breakdown_iff]
  rcases spellings_alike h ht hw argument with halike | ⟨b, hb, hb'⟩
  · have hleft := halike.ne_breakdown
    have hright := halike.symm.ne_breakdown
    exact ⟨iff_of_true halike hleft, fun b => iff_of_false (hleft b) (hright b), fun _ => halike⟩
  · refine ⟨iff_of_false (fun halike => halike.ne_breakdown b hb) fun hnone => hnone b hb,
      fun b' => ?_, ?_⟩
    · rw [hb, hb']
    · rintro ⟨e, he⟩
      exact absurd hb (parseCondition_ne_breakdown h ht he b)

end

open scoped Pattern.Builtin in
theorem pattern_spellings_slash :
    tokens (patternText "a\\/b" "i") = .ok [⟨.pattern "a\\/b" "i", "/a\\/b/i", 0⟩, endAt 7] ∧
      BodyOf "a\\/b".toList ['a', '\\', '\\', '/', 'b'] ∧
      ReadAlike (parseCondition (literalTest "a\\/b" "i" "transaction.merchant"))
        (parseCondition
          (constructedTest ['a', '\\', '\\', '/', 'b'] "i" "transaction.merchant")) := by
  have htokens : tokens (patternText "a\\/b" "i") =
      .ok [⟨.pattern "a\\/b" "i", "/a\\/b/i", 0⟩, endAt 7] := by decide +kernel
  have hbody : BodyOf "a\\/b".toList ['a', '\\', '\\', '/', 'b'] :=
    .cons (.raw (by decide) (by decide)) (.cons .backslash (.cons (.raw (by decide) (by decide))
      (.cons (.raw (by decide) (by decide)) .nil)))
  have hoperand : parseOperand "transaction.merchant" = .ok (.field .merchant) := by
    decide +kernel
  exact ⟨htokens, hbody,
    (pattern_spellings htokens rfl hbody "transaction.merchant").2.2 ⟨_, hoperand⟩⟩

def negativeLiteral (zeros : Nat) : String := String.ofList ('-' :: powerText zeros)

theorem tokens_negativeLiteral (zeros : Nat) : ∃ stop, tokens (negativeLiteral zeros).toList =
    .ok ([⟨.symbol .minus, "-", 0⟩, ⟨.number (numberValue (powerText zeros) []),
      String.ofList (powerText zeros), 1⟩] ++ [endAt stop]) := by
  have hminus : readToken 0 '-' (powerText zeros ++ []) =
      .ok (⟨.symbol .minus, "-", 0⟩, powerText zeros ++ []) := rfl
  have hscan := (Scanned.start.token rfl hminus).token rfl
    (readToken_powerText zeros _ (Separates.nil.numberEnds []))
  have htext : (negativeLiteral zeros).toList = '-' :: (powerText zeros ++ []) := by
    rw [negativeLiteral, String.toList_ofList, List.append_nil]
  rw [htext]
  exact ⟨_, tokens_eq_ok_iff.mpr ⟨_, _, hscan, rfl⟩⟩

theorem parseCondition_negativeLiteral [Pattern.Engine] {pattern : Pattern}
    (hp : compilePattern "a" "" = .ok pattern) (zeros : Nat) (h : Decimal.workingMax < zeros) :
    parseCondition (literalTest "a" "" (negativeLiteral zeros)) =
      .error (.breakdown .numberOverflow) := by
  have hpattern : tokens (patternText "a" "") = .ok [⟨.pattern "a" "", "/a/", 0⟩, endAt 3] := by
    decide +kernel
  obtain ⟨stop, hargument⟩ := tokens_negativeLiteral zeros
  obtain ⟨ts, hts, hterminals⟩ :=
    tokens_literalTest hpattern rfl (spells_of_tokens hargument (separates_closeParen []))
  have hoverflows : Breaks .numberOverflow 63 .operand (.symbol .minus ::
      .number (numberValue (powerText zeros) []) :: [.symbol .closeParen]) :=
    .primary (.snag (.number (negated?_powerText h)))
  have htest : Breaks .numberOverflow maxNesting .primary (terminals ts) := by
    rw [hterminals]
    exact .test (u := []) (.pattern hp) .none hoverflows
  exact parseCondition_breakdown_iff.mpr ⟨ts, hts, .first (.first (.left (.primary htest)))⟩

open scoped Pattern.Builtin in
/-- With a number of more than a million digits behind a minus sign in the call, neither spelling is
a condition or is faulted. -/
theorem negativeLiteral_unanswered :
    ∃ t stop, tokens (patternText "a" "") = .ok [t, stop] ∧ t.lexeme = .pattern "a" "" ∧
      BodyOf "a".toList ['a'] ∧
      parseCondition (literalTest "a" "" (negativeLiteral 1000000)) =
        .error (.breakdown .numberOverflow) ∧
      ¬ReadAlike (parseCondition (literalTest "a" "" (negativeLiteral 1000000)))
        (parseCondition (constructedTest ['a'] "" (negativeLiteral 1000000))) := by
  obtain ⟨p, hp⟩ : ∃ p, compilePattern "a" "" = .ok p := ⟨_, rfl⟩
  have hparse := parseCondition_negativeLiteral hp 1000000 (by decide)
  exact ⟨⟨.pattern "a" "", "/a/", 0⟩, endAt 3, by decide +kernel, rfl,
    .cons (.raw (by decide) (by decide)) .nil, hparse, fun h => h.ne_breakdown _ hparse⟩

end LedgerRules.Condition
