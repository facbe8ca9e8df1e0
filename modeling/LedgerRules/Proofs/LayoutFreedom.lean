import LedgerRules.Pattern.Builtin
import LedgerRules.Proofs.Breakdowns
import LedgerRules.Proofs.Layout
import LedgerRules.Proofs.PairedReadings

/-! What a condition means does not depend on its layout. However its tokens are laid out, the text
is cut into the same ones and means the same, or is faulted for the same cause. The one text that
has no meaning and no fault either, because a number in it is too large to be negated, has none in
every layout. -/

namespace LedgerRules.Condition
open Numeric Text

inductive ReadAlike : Except Failure Expr → Except Failure Expr → Prop
  | same (e : Expr) : ReadAlike (.ok e) (.ok e)
  | fault (cause : Cause) (pos pos' : Option Nat) :
      ReadAlike (.error (.fault ⟨cause, pos⟩)) (.error (.fault ⟨cause, pos'⟩))

theorem ReadAlike.ne_breakdown {x y : Except Failure Expr} (h : ReadAlike x y) (b : Breakdown) :
    x ≠ .error (.breakdown b) := by
  cases h with
  | same e => nofun
  | fault cause pos pos' => nofun

theorem ReadAlike.symm {x y : Except Failure Expr} (h : ReadAlike x y) : ReadAlike y x := by
  cases h with
  | same e => exact .same e
  | fault cause pos pos' => exact .fault cause pos' pos

theorem EndAlike.read {P : Nat → Nat → Prop} {n : Nat}
    {x y : Except Failure (Expr × List Token)} (h : EndAlike P n Eq x y) :
    ReadAlike (Except.mapError Failure.caught (Prod.fst <$> x))
        (Except.mapError Failure.caught (Prod.fst <$> y)) ∨
      ∃ b, Except.mapError Failure.caught (Prod.fst <$> x) = .error (.breakdown b) ∧
        Except.mapError Failure.caught (Prod.fst <$> y) = .error (.breakdown b) := by
  cases h with
  | ok he hs =>
    subst he
    exact .inl (.same _)
  | fault cause _ => exact .inl (.fault cause _ _)
  | breakdown b =>
    cases b with
    | stackExhausted => exact .inl (.fault .stackExhausted none none)
    | strayDigit => exact .inr ⟨.strayDigit, rfl, rfl⟩
    | numberOverflow => exact .inr ⟨.numberOverflow, rfl, rfl⟩
    | longInteger => exact .inr ⟨.longInteger, rfl, rfl⟩

theorem SameTokens.paired {ts us : List Token} (h : SameTokens ts us) (he : Ended ts) :
    Paired (fun _ _ => True) ts.length ts us := by
  refine ⟨he, ?_, le_rfl⟩
  have hcontents : List.Forall₂ (· = ·) (ts.map Token.content) (us.map Token.content) :=
    List.forall₂_eq_eq_eq ▸ h.symm
  exact (List.forall₂_map_right_iff.mp (List.forall₂_map_left_iff.mp hcontents)).imp
    fun t u h => ⟨h.symm, trivial⟩

section
variable [Pattern.Engine] {source text : String} {ts us : List Token}

/-- Texts of the same tokens are read alike, or break down alike. -/
theorem parseCondition_sameTokens (h : tokens source.toList = .ok ts)
    (h' : tokens text.toList = .ok us) (hsame : SameTokens ts us) :
    ReadAlike (parseCondition source) (parseCondition text) ∨
      ∃ b, parseCondition source = .error (.breakdown b) ∧
        parseCondition text = .error (.breakdown b) := by
  obtain ⟨ts', ht, hcontent⟩ := tokens_trim h
  obtain ⟨us', hu, hcontent'⟩ := tokens_trim h'
  have hsame' : SameTokens ts' us' := by
    rw [SameTokens, hcontent, hcontent']
    exact hsame
  have hlength : ts'.length = us'.length := by simpa using congrArg List.length hsame'.symm
  have hp := hsame'.paired (ended_of_tokens ht)
  rw [parseCondition, parseWith_eq ht, parseWith_eq hu]
  exact (wholeCondition_together le_rfl hlength.le hp).read

theorem breakdown_eq_numberOverflow {b : Breakdown} (h : tokens source.toList = .ok ts)
    (hb : parseCondition source = .error (.breakdown b)) : b = .numberOverflow := by
  rcases parseCondition_cases h with ⟨e, he, -⟩ | ⟨f, hf⟩ | ⟨ho, -⟩
  · simp [hb] at he
  · simp [hb] at hf
  · simpa [hb] using ho

/-- The layout of a text does not matter. However the tokens of one are laid out, they are found
again, with the same values, and what the text means, or why it means nothing, stays what it was.
Only a minus sign in front of a number too large to be negated leaves no answer of either kind, and
then no layout has one. -/
theorem layout_free {init : List Token} {stop : Nat}
    (h : tokens source.toList = .ok (init ++ [endAt stop])) (ht : LaidOut init text.toList) :
    (∃ us, tokens text.toList = .ok us ∧ SameTokens (init ++ [endAt stop]) us) ∧
    (ReadAlike (parseCondition source) (parseCondition text) ↔
      ¬BreaksDown (.run .any) source .numberOverflow) ∧
    (parseCondition text = .error (.breakdown .numberOverflow) ↔
      BreaksDown (.run .any) source .numberOverflow) := by
  obtain ⟨us, hu, hsame⟩ := tokens_laidOut h ht
  refine ⟨⟨us, hu, hsame⟩, ?_⟩
  rw [← parseCondition_breakdown_iff]
  rcases parseCondition_sameTokens h hu hsame with halike | ⟨b, hs, ht'⟩
  · have htext := halike.symm.ne_breakdown .numberOverflow
    exact ⟨iff_of_true halike (halike.ne_breakdown _), iff_of_false htext (halike.ne_breakdown _)⟩
  · obtain rfl := breakdown_eq_numberOverflow h hs
    exact ⟨iff_of_false (fun halike => halike.ne_breakdown _ hs) (not_not.mpr hs),
      iff_of_true ht' hs⟩

end

open scoped Pattern.Builtin in
theorem layout_free_comparison :
    ReadAlike (parseCondition "1>=-2") (parseCondition " 1\t>= -\n 2 ") := by
  have htokens : tokens "1>=-2".toList =
      .ok ([⟨.number (.finite false 1 0), "1", 0⟩, ⟨.symbol (.compare .atLeast), ">=", 1⟩,
        ⟨.symbol .minus, "-", 3⟩, ⟨.number (.finite false 2 0), "2", 4⟩] ++ [endAt 5]) := by
    decide +kernel
  have htext : " 1\t>= -\n 2 ".toList = [' '] ++ ("1".toList ++ ['\t'] ++ (">=".toList ++
      [' '] ++ ("-".toList ++ ['\n', ' '] ++ ("2".toList ++ [' '])))) := by decide
  have hlaid : LaidOut [⟨.number (.finite false 1 0), "1", 0⟩,
      ⟨.symbol (.compare .atLeast), ">=", 1⟩, ⟨.symbol .minus, "-", 3⟩,
      ⟨.number (.finite false 2 0), "2", 4⟩] " 1\t>= -\n 2 ".toList := by
    rw [htext]
    refine @LaidOut.next [' '] _ _ _ _ '\t' (by decide +kernel) rfl ?_
    refine @LaidOut.next ['\t'] _ _ _ _ ' ' (by decide +kernel) rfl ?_
    refine @LaidOut.next [' '] _ _ _ _ '\n' (by decide +kernel) rfl ?_
    exact @LaidOut.last ['\n', ' '] [' '] _ (by decide +kernel) (by decide +kernel)
  have hreads : parseCondition "1>=-2" = .ok
      (.compare .atLeast (.number (.finite false 1 0)) (.number (.finite true 2 0))) := by
    decide +kernel
  refine (layout_free htokens hlaid).2.1.mpr fun hb => ?_
  rw [← parseCondition_breakdown_iff, hreads] at hb
  cases hb

theorem parseCondition_overflows [Pattern.Engine] {source : String} {ts : List Token} {d : Decimal}
    {w : List Terminal} (h : tokens source.toList = .ok ts)
    (hts : terminals ts = .symbol .minus :: .number d :: w) (hd : d.negated? = none) :
    parseCondition source = .error (.breakdown .numberOverflow) := by
  obtain ⟨ts', h', hc⟩ := tokens_trim h
  rw [← terminals_eq_of_content hc] at hts
  refine parseCondition_breakdown_iff.mpr ⟨ts', h', ?_⟩
  rw [hts]
  exact .first (.first (.left (.primary (.snag (.number hd)))))

def powerText (zeros : Nat) : List Char := '1' :: List.replicate zeros '0'

theorem powerText_digits (zeros : Nat) : ∀ c ∈ powerText zeros, isDecimalDigit c = true := by
  intro c hc
  rcases List.mem_cons.mp hc with rfl | hc
  · decide
  · rw [List.eq_of_mem_replicate hc]
    decide

theorem readToken_powerText (zeros pos : Nat) {rest : List Char} (h : NumberEnds [] rest) :
    readToken pos '1' (List.replicate zeros '0' ++ rest) =
      .ok (⟨.number (numberValue (powerText zeros) []), String.ofList (powerText zeros), pos⟩,
        rest) := by
  have hread := readToken_digits (by rw [List.append_nil]; exact powerText_digits zeros) h pos
  simpa [pointOf, powerText] using hread

theorem numberValue_powerText (zeros : Nat) :
    numberValue (powerText zeros) [] = .finite false (10 ^ zeros) 0 := by
  have hone : digitsValue ['1'] = 1 := by decide
  have hvalue := digitsValue_append_zeros ['1'] zeros
  rw [hone, Nat.one_mul] at hvalue
  rw [numberValue, List.append_nil, powerText, ← List.singleton_append, hvalue]
  rfl

theorem negated?_powerText {zeros : Nat} (h : Decimal.workingMax < zeros) :
    (numberValue (powerText zeros) []).negated? = none := by
  rw [numberValue_powerText]
  apply Decimal.negated?_eq_none false (Nat.pow_pos (by decide)).ne'
  have hcount := lt_digitCount (le_refl (10 ^ zeros))
  unfold Decimal.adjusted
  omega

def negatedPower (zeros : Nat) : List Char := '-' :: ' ' :: (powerText zeros ++ [' ', 'x'])

theorem tokens_negatedPower (zeros : Nat) :
    ∃ init stop, tokens (negatedPower zeros) = .ok (init ++ [endAt stop]) ∧
      terminals (init ++ [endAt stop]) =
        [.symbol .minus, .number (numberValue (powerText zeros) []), .word "x"] ∧
      LaidOut init (negatedPower zeros) := by
  have hends := (Separates.blank ['x'] isBlank_space).numberEnds []
  have hminus : readToken 0 '-' (' ' :: (powerText zeros ++ [' ', 'x'])) =
      .ok (⟨.symbol .minus, "-", 0⟩, ' ' :: (powerText zeros ++ [' ', 'x'])) := rfl
  have hword (pos : Nat) : readToken pos 'x' [] = .ok (⟨.word, "x", pos⟩, []) := rfl
  have hstart : Scanned (negatedPower zeros) [] 0 (negatedPower zeros) := .start
  have hscan := (hstart.token rfl hminus).blank rfl
  have hscan' := (hscan.token rfl (readToken_powerText zeros _ hends)).blank rfl
  have hscan'' := hscan'.token rfl (hword _)
  refine ⟨_, _, tokens_eq_ok_iff.mpr ⟨_, _, hscan'', rfl⟩, rfl, ?_⟩
  have hlast {t : Token} (h : t.text = "x") : LaidOut [t] [' ', 'x'] := by
    have hlaid := @LaidOut.last [' '] [] t (by decide +kernel) (List.forall_mem_nil _)
    rwa [h] at hlaid
  have hdigits {t u : Token} (h : t.text = String.ofList (powerText zeros)) (hu : u.text = "x") :
      LaidOut [t, u] (' ' :: (powerText zeros ++ [' ', 'x'])) := by
    have hlaid := @LaidOut.next [' '] ['x'] t u [] ' ' (by decide +kernel) rfl (hlast hu)
    rwa [h, String.toList_ofList] at hlaid
  exact @LaidOut.next [] _ _ _ _ ' ' (List.forall_mem_nil _) rfl (hdigits rfl rfl)

open scoped Pattern.Builtin in
/-- With a number of more than a million digits behind a minus sign, the text is no condition and is
not faulted either. -/
theorem negatedPower_unanswered : ∃ init stop,
    tokens (negatedPower 1000000) = .ok (init ++ [endAt stop]) ∧
      LaidOut init (negatedPower 1000000) ∧
      parseCondition (String.ofList (negatedPower 1000000)) =
        .error (.breakdown .numberOverflow) ∧
      ¬ReadAlike (parseCondition (String.ofList (negatedPower 1000000)))
        (parseCondition (String.ofList (negatedPower 1000000))) := by
  obtain ⟨init, stop, htokens, hterminals, hlaid⟩ := tokens_negatedPower 1000000
  have hparse : parseCondition (String.ofList (negatedPower 1000000)) =
      .error (.breakdown .numberOverflow) := by
    refine parseCondition_overflows ?_ hterminals (negated?_powerText (by decide))
    rw [String.toList_ofList, htokens]
  exact ⟨init, stop, htokens, hlaid, hparse, fun h => h.ne_breakdown _ hparse⟩

end LedgerRules.Condition
