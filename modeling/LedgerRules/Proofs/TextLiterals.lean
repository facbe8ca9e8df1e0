import LedgerRules.Pattern.Builtin
import LedgerRules.Proofs.FieldComparisons

/-! Texts in quotes. Whatever text there is can be written between quotes, in several ways where a
character may stand raw or as an escape, and every way of writing it is read as that text. What
stands behind an opening quote and is no such writing is at fault: it has an escape that means
nothing, or its closing quote is missing. -/

namespace LedgerRules.Condition
open Text

theorem encodes_escape_iff {c d : Char} : Encodes d ['\\', c] ↔ escapeChar? c = some d := by
  constructor
  · intro h
    cases h <;> rfl
  · intro h
    unfold escapeChar? at h
    split at h
    · exact Option.some.inj h ▸ .quote
    · exact Option.some.inj h ▸ .apostrophe
    · exact Option.some.inj h ▸ .backslash
    · exact Option.some.inj h ▸ .slash
    · exact Option.some.inj h ▸ .newline
    · exact Option.some.inj h ▸ .tab
    · exact Option.some.inj h ▸ .carriageReturn
    · simp at h

inductive EndsBody : List Char → Prop
  | nothing : EndsBody []
  | backslash : EndsBody ['\\']
  | quote (rest : List Char) : EndsBody ('"' :: rest)
  | escape {c : Char} (rest : List Char) :
      (∀ d, ¬Encodes d ['\\', c]) → EndsBody ('\\' :: c :: rest)

theorem exists_body (more : List Char) :
    ∃ cs body rest, BodyOf cs body ∧ EndsBody rest ∧ more = body ++ rest := by
  fun_induction readText 0 0 [] more with
  | case1 => exact ⟨_, _, _, .nil, .nothing, rfl⟩
  | case2 pos value rest => exact ⟨_, _, _, .nil, .quote rest, rfl⟩
  | case3 => exact ⟨_, _, _, .nil, .backslash, rfl⟩
  | case4 pos value c rest d hd ih =>
    obtain ⟨cs, body, tail, hbody, hends, rfl⟩ := ih
    exact ⟨d :: cs, ['\\', c] ++ body, tail, .cons (encodes_escape_iff.mpr hd) hbody, hends, rfl⟩
  | case5 pos value c rest hnone =>
    refine ⟨_, _, _, .nil, .escape rest fun d hd => ?_, rfl⟩
    rw [encodes_escape_iff, hnone] at hd
    cases hd
  | case6 pos value c rest hquote hlone hescape ih =>
    obtain ⟨cs, body, tail, hbody, hends, rfl⟩ := ih
    have hslash : c ≠ '\\' := by
      rintro rfl
      cases hrest : body ++ tail with
      | nil => exact hlone rfl hrest
      | cons d ds => exact hescape d ds rfl hrest
    exact ⟨c :: cs, [c] ++ body, tail, .cons (.raw hquote hslash) hbody, hends, rfl⟩

def Closed (more : List Char) : Prop :=
  ∃ cs body rest, BodyOf cs body ∧ more = body ++ '"' :: rest

/-- Behind an opening quote at `pos` stands no literal, for this reason. -/
inductive Broken (pos : Nat) : List Char → Fault → Prop
  | escape {cs body : List Char} {c : Char} (rest : List Char) :
      BodyOf cs body → (∀ d, ¬Encodes d ['\\', c]) →
      Broken pos (body ++ '\\' :: c :: rest) ⟨.unsupportedEscape c, some (pos + 1 + body.length)⟩
  | openEnd {cs body : List Char} : BodyOf cs body → Broken pos body ⟨.openText, some pos⟩
  | openEscape {cs body : List Char} :
      BodyOf cs body → Broken pos (body ++ ['\\']) ⟨.openText, some pos⟩

theorem closed_or_broken (pos : Nat) (more : List Char) : Closed more ∨ ∃ f, Broken pos more f := by
  obtain ⟨cs, body, rest, hbody, hends, rfl⟩ := exists_body more
  cases hends with
  | nothing =>
    rw [List.append_nil]
    exact .inr ⟨_, .openEnd hbody⟩
  | backslash => exact .inr ⟨_, .openEscape hbody⟩
  | quote rest => exact .inl ⟨cs, body, rest, hbody, rfl⟩
  | escape rest hc => exact .inr ⟨_, .escape rest hbody hc⟩

theorem Broken.readText {pos : Nat} {more : List Char} {f : Fault} (h : Broken pos more f) :
    Condition.readText pos (pos + 1) [] more = .error f := by
  cases h with
  | @escape cs body c rest hbody hc =>
    have hnone : escapeChar? c = none := by
      cases hd : escapeChar? c with
      | none => rfl
      | some d => exact absurd (encodes_escape_iff.mpr hd) (hc d)
    rw [hbody.readText, Condition.readText, hnone]
  | openEnd hbody =>
    have hread := hbody.readText pos (pos + 1) [] []
    rw [List.append_nil] at hread
    rw [hread, Condition.readText]
  | openEscape hbody => rw [hbody.readText, Condition.readText]

theorem Broken.readToken {pos : Nat} {more : List Char} {f : Fault} (h : Broken pos more f) :
    Condition.readToken pos '"' more = .error (.fault f) := by
  simp only [Condition.readToken, if_true, h.readText]

theorem Broken.not_closed {pos : Nat} {more : List Char} {f : Fault} (h : Broken pos more f) :
    ¬Closed more := by
  rintro ⟨cs, body, rest, hbody, rfl⟩
  have hread := h.readText
  rw [hbody.readText, Condition.readText] at hread
  cases hread

theorem Scanned.broken {source more : List Char} {ts : List Token} {pos : Nat} {f : Fault}
    (h : Scanned source ts pos ('"' :: more)) (hf : Broken pos more f) :
    Condition.tokens source = .error (.fault f) :=
  tokens_eq_error_iff.mpr ⟨ts, pos, '"', more, h, by decide, hf.readToken⟩

theorem Scanned.trim {source more : List Char} {ts : List Token} {pos : Nat} {c : Char}
    (h : Scanned source ts pos (c :: more)) (hc : isBlank c = false) :
    ∃ ts' pos' more' blanks, Scanned (Text.trim source) ts' pos' (c :: more') ∧
      more = more' ++ blanks := by
  have hstart : ∃ ts' pos', Scanned (Text.trimStart source) ts' pos' (c :: more) := by
    rcases h.trimStart with ⟨-, he⟩ | ⟨ts', pos', hs, -⟩
    · have hfirst : Text.trimStart source = c :: more := by
        simpa [Text.trimStart, hc] using he.symm
      exact ⟨[], 0, hfirst ▸ .start⟩
    · exact ⟨ts', pos', hs⟩
  obtain ⟨ts', pos', hs⟩ := hstart
  obtain ⟨blanks, hcut, hall⟩ := eq_trimEnd_append (Text.trimStart source)
  rw [hcut] at hs
  rcases hs.cut hall with ⟨rest, hrest, hs'⟩ | ⟨hblank, -⟩
  · cases rest with
    | nil =>
      have hb := hall c (by rw [← (show c :: more = blanks from hrest)]; exact List.mem_cons_self)
      rw [hc] at hb
      cases hb
    | cons d more' =>
      obtain ⟨rfl, rfl⟩ := List.cons.inj hrest
      exact ⟨ts', pos', more', blanks, hs', rfl⟩
  · have hb := hblank c List.mem_cons_self
    rw [hc] at hb
    cases hb

theorem compile_eq_error [Pattern.Engine] {source : String} {f : Fault}
    (h : tokens (Text.trim source.toList) = .error (.fault f)) :
    compile source = .error (.error (.condition f)) := by
  have hparse : parseCondition source = .error (.fault f) := by
    rw [parseCondition, parseWith, h]
    rfl
  rw [compile, hparse]
  rfl

theorem Scanned.compile_broken [Pattern.Engine] {source : String} {more : List Char}
    {ts : List Token} {pos : Nat} {f : Fault} (h : Scanned source.toList ts pos ('"' :: more))
    (hf : Broken pos more f) :
    ∃ f', compile source = .error (.error (.condition f')) := by
  obtain ⟨ts', pos', more', blanks, hs, rfl⟩ := h.trim (by decide)
  rcases closed_or_broken pos' more' with ⟨cs, body, rest, hbody, rfl⟩ | ⟨f', hf'⟩
  · refine absurd ⟨cs, body, rest ++ blanks, hbody, ?_⟩ hf.not_closed
    rw [List.append_assoc, List.cons_append]
  · exact ⟨f', compile_eq_error (hs.broken hf')⟩

theorem BodyOf.tokens {s : String} {body : List Char} (h : BodyOf s.toList body) :
    Condition.tokens (inQuotes body) =
      .ok [⟨.text s, String.ofList (inQuotes body), 0⟩, endAt (inQuotes body).length] := by
  have hread := h.readToken 0 []
  rw [String.ofList_toList] at hread
  have hscan : Scanned (inQuotes body) [] 0 ('"' :: (body ++ ['"'])) := .start
  have hone := hscan.token (by decide) hread
  rw [Nat.zero_add, ← String.length_toList, String.toList_ofList] at hone
  exact tokens_eq_ok_iff.mpr ⟨_, _, hone, rfl⟩

theorem BodyOf.spells {s : String} {body : List Char} (h : BodyOf s.toList body) :
    Spells (inQuotes body) (Phrase.text s).yield [] := by
  have hread := h.readToken 0 []
  rw [String.ofList_toList] at hread
  exact .token (by decide) (List.append_nil _) hread rfl

end LedgerRules.Condition

namespace LedgerRules
open Condition

theorem evalCompare_text {v : Value} {s : String} :
    evalCompare .same v (.text s) = .ok true ↔ v = .text s := by
  cases v with
  | text t => simp [evalCompare, evalEquality, Value.strictEquals, Value.number?]
  | _ => simp [evalCompare, evalEquality, Value.strictEquals, Value.number?]

/-- A text literal says the text, however it is written. Each text can be written between quotes,
and each way of writing it is one token with that text as its value; a comparison of a field with
it compiles, and is true of the records that hold the text. What stands behind an opening quote
either is closed or has an escape without a meaning or no closing quote, and then the text has no
tokens and is no condition. -/
theorem text_literals [Pattern.Engine] :
    (∀ s : String, ∃ body, BodyOf s.toList body) ∧
    (∀ (s : String) (body : List Char), BodyOf s.toList body →
      tokens (inQuotes body) =
        .ok [⟨.text s, String.ofList (inQuotes body), 0⟩, endAt (inQuotes body).length] ∧
      ∃ p, compile (String.ofList ("transaction.merchant === ".toList ++ inQuotes body)) = .ok p ∧
        ∀ record : FieldValues, p.holds Clock.unlimited record = .ok true ↔
          record .merchant = some (.text s)) ∧
    ∀ (source : String) (ts : List Token) (pos : Nat) (more : List Char),
      Scanned source.toList ts pos ('"' :: more) →
      (Closed more ∨ ∃ f, Broken pos more f) ∧
      ∀ f, Broken pos more f → tokens source.toList = .error (.fault f) ∧
        ∃ f', compile source = .error (.error (.condition f')) := by
  refine ⟨fun s => ⟨_, bodyOf_escaped s.toList⟩, ?_, ?_⟩
  · intro s body h
    have hcompile := (compile_comparison_iff .merchant .same h.spells rfl).mpr
      ⟨.text s, rfl, nofun, rfl⟩
    refine ⟨h.tokens, _, hcompile, fun record => ?_⟩
    rw [holds_comparison_iff (e := .text s) nofun rfl]
    simp only [evalCompare_text, exists_eq_right]
  · intro source ts pos more h
    exact ⟨closed_or_broken pos more, fun f hf => ⟨h.broken hf, h.compile_broken hf⟩⟩

def mixedBody : List Char := ['a', '\\', '"', '\\', '/', '\n', '\\', 't']

open scoped Pattern.Builtin in
theorem text_literals_mixed :
    BodyOf "a\"/\n\t".toList mixedBody ∧
      (∃ p, compile (String.ofList ("transaction.merchant === ".toList ++ inQuotes mixedBody)) =
          .ok p ∧ ∀ record : FieldValues, p.holds Clock.unlimited record = .ok true ↔
            record .merchant = some (.text "a\"/\n\t")) ∧
      tokens "\"a\\q\"".toList = .error (.fault ⟨.unsupportedEscape 'q', some 2⟩) ∧
      tokens "\"a\\".toList = .error (.fault ⟨.openText, some 0⟩) ∧
      ∃ f, compile "\"a\\" = .error (.error (.condition f)) := by
  obtain ⟨-, hliterals, hbroken⟩ := text_literals
  have hbody : BodyOf "a\"/\n\t".toList mixedBody :=
    .cons (.raw (by decide) (by decide)) (.cons .quote (.cons .slash
      (.cons (.raw (by decide) (by decide)) (.cons .tab .nil))))
  have hfirst : BodyOf ['a'] ['a'] := .cons (.raw (by decide) (by decide)) .nil
  have hno (d : Char) : ¬Encodes d ['\\', 'q'] := by
    rw [encodes_escape_iff]
    exact nofun
  obtain ⟨-, hescape⟩ := hbroken "\"a\\q\"" [] 0 ['a', '\\', 'q', '"'] .start
  obtain ⟨-, hopen⟩ := hbroken "\"a\\" [] 0 ['a', '\\'] .start
  obtain ⟨htokens, hcompile⟩ := hopen _ (.openEscape hfirst)
  exact ⟨hbody, (hliterals _ _ hbody).2, (hescape _ (.escape ['"'] hfirst hno)).1, htokens,
    hcompile⟩

end LedgerRules
