import LedgerRules.Json.Printer
import LedgerRules.Proofs.Scanning

/-! What the compact text of a value tells about it. The text is that of a document: words, texts in
quotes, lists, and maps with sorted members. No two documents have one text, since every piece shows
where it ends, if something that ends a word follows. -/

namespace LedgerRules.Json
open Text

theorem hexDigit_inj : ∀ m < 16, ∀ n < 16, hexDigit m = hexDigit n → m = n := by decide

theorem hexDigits_inj {width m n : Nat} (hm : m < Nat.pow 16 width)
    (hn : n < Nat.pow 16 width) (h : hexDigits width m = hexDigits width n) : m = n := by
  induction width generalizing m n with
  | zero =>
    rw [Nat.pow_eq, Nat.pow_zero] at hm hn
    omega
  | succ width ih =>
    rw [Nat.pow_eq, Nat.pow_succ, ← Nat.pow_eq] at hm hn
    rw [hexDigits, hexDigits] at h
    obtain ⟨hinit, hlast⟩ := List.append_inj' h rfl
    have hdiv := ih (by omega) (by omega) hinit
    have hmod := hexDigit_inj _ (Nat.mod_lt m (by omega)) _ (Nat.mod_lt n (by omega))
      (List.cons.inj hlast).1
    omega

theorem unitEscape_append {m n : Nat} {r r' : List Char} (hm : m < 0x10000) (hn : n < 0x10000)
    (h : unitEscape m ++ r = unitEscape n ++ r') : m = n ∧ r = r' := by
  simp only [unitEscape, List.cons_append, List.nil_append, List.cons.injEq, true_and] at h
  obtain ⟨hd, hr⟩ := List.append_inj h (by simp [length_hexDigits])
  exact ⟨hexDigits_inj (show m < Nat.pow 16 4 from hm) hn hd, hr⟩

theorem shortEscape?_inj {c d e : Char} (hc : shortEscape? c = some e)
    (hd : shortEscape? d = some e) : c = d := by
  unfold shortEscape? at hc
  split at hc <;> try simp at hc
  all_goals
    subst hc
    unfold shortEscape? at hd
    split at hd <;> simp_all

theorem shortEscape?_ne {c : Char} : shortEscape? c ≠ some 'u' := by
  unfold shortEscape?
  split <;> simp

theorem charText_cases (c : Char) :
    (charText true c = [c] ∧ c ≠ '\\' ∧ c ≠ '"') ∨
    (∃ e, shortEscape? c = some e ∧ charText true c = ['\\', e]) ∨
    (charText true c = unitEscape c.toNat ∧ c.toNat < 0x10000) ∨
    (charText true c = unitEscape (0xD800 + (c.toNat - 0x10000) / 0x400) ++
      unitEscape (0xDC00 + (c.toNat - 0x10000) % 0x400) ∧ 0x10000 ≤ c.toNat) := by
  unfold charText
  split
  next e he => exact .inr (.inl ⟨e, he, rfl⟩)
  next hn =>
    split
    · exact .inr (.inr (.inl ⟨rfl, by omega⟩))
    · split
      · refine .inl ⟨rfl, ?_, ?_⟩
        · rintro rfl
          simp [shortEscape?] at hn
        · rintro rfl
          simp [shortEscape?] at hn
      · split
        next h => exact .inr (.inr (.inl ⟨rfl, h⟩))
        next h => exact .inr (.inr (.inr ⟨rfl, by omega⟩))

theorem toNat_cases (c : Char) :
    c.toNat < 0xD800 ∨ (0xDFFF < c.toNat ∧ c.toNat < 0x110000) := c.valid

theorem short_ne_unit {c e : Char} (he : shortEscape? c = some e) (n : Nat) (r r' : List Char) :
    ['\\', e] ++ r ≠ unitEscape n ++ r' := by
  intro h
  simp only [unitEscape, List.cons_append, List.nil_append, List.cons.injEq, true_and] at h
  exact shortEscape?_ne (h.1 ▸ he)

theorem charText_append {c d : Char} {r r' : List Char}
    (h : charText true c ++ r = charText true d ++ r') : c = d ∧ r = r' := by
  have hrange := toNat_cases c
  have hrange' := toNat_cases d
  rcases charText_cases c with ⟨hc, hb, -⟩ | ⟨e, he, hc⟩ | ⟨hc, hl⟩ | ⟨hc, hl⟩ <;>
    rcases charText_cases d with ⟨hd, hb', -⟩ | ⟨e', he', hd⟩ | ⟨hd, hl'⟩ | ⟨hd, hl'⟩ <;>
    rw [hc, hd] at h
  · simpa using h
  · simp [hb] at h
  · simp [unitEscape, hb] at h
  · simp [unitEscape, hb] at h
  · simp [Ne.symm hb'] at h
  · simp only [List.cons_append, List.nil_append, List.cons.injEq, true_and] at h
    obtain ⟨rfl, hr⟩ := h
    exact ⟨shortEscape?_inj he he', hr⟩
  · exact absurd h (short_ne_unit he _ _ _)
  · rw [List.append_assoc] at h
    exact absurd h (short_ne_unit he _ _ _)
  · simp [unitEscape, Ne.symm hb'] at h
  · exact absurd h.symm (short_ne_unit he' _ _ _)
  · obtain ⟨hn, hr⟩ := unitEscape_append hl hl' h
    exact ⟨Char.toNat_inj.mp hn, hr⟩
  · rw [List.append_assoc] at h
    obtain ⟨hn, -⟩ := unitEscape_append hl (by omega) h
    omega
  · simp [unitEscape, Ne.symm hb'] at h
  · rw [List.append_assoc] at h
    exact absurd h.symm (short_ne_unit he' _ _ _)
  · rw [List.append_assoc] at h
    obtain ⟨hn, -⟩ := unitEscape_append (by omega) hl' h
    omega
  · rw [List.append_assoc, List.append_assoc] at h
    obtain ⟨hn, h⟩ := unitEscape_append (by omega) (by omega) h
    obtain ⟨hn', hr⟩ := unitEscape_append (by omega) (by omega) h
    exact ⟨Char.toNat_inj.mp (by omega), hr⟩

theorem charText_ne_quote (c : Char) (r r' : List Char) : charText true c ++ r ≠ '"' :: r' := by
  rcases charText_cases c with ⟨hc, -, hq⟩ | ⟨e, -, hc⟩ | ⟨hc, -⟩ | ⟨hc, -⟩
  · simp [hc, hq]
  · simp [hc]
  · simp [hc, unitEscape]
  · simp [hc, unitEscape]

theorem textChars_append {cs ds r r' : List Char}
    (h : textChars true cs ++ r = textChars true ds ++ r') : cs = ds ∧ r = r' := by
  simp only [textChars, List.cons_append, List.append_assoc, List.nil_append, List.cons.injEq,
    true_and] at h
  induction cs generalizing ds with
  | nil =>
    cases ds with
    | nil => exact ⟨rfl, by simpa using h⟩
    | cons d ds =>
      rw [List.flatMap_cons, List.append_assoc] at h
      exact absurd h.symm (charText_ne_quote d _ _)
  | cons c cs ih =>
    cases ds with
    | nil =>
      rw [List.flatMap_cons, List.append_assoc] at h
      exact absurd h (charText_ne_quote c _ _)
    | cons d ds =>
      rw [List.flatMap_cons, List.flatMap_cons, List.append_assoc, List.append_assoc] at h
      obtain ⟨rfl, ht⟩ := charText_append h
      obtain ⟨rfl, hr⟩ := ih ht
      exact ⟨rfl, hr⟩

def isWordChar (c : Char) : Bool := c.isAlphanum || c = '.' || c = '+' || c = '-'

structure Word where
  chars : List Char
  ne_nil : chars ≠ []
  proper : ∀ c ∈ chars, isWordChar c = true

/-- What the compact text of a value shows of it. The members of maps are sorted. -/
inductive Doc
  | word (w : Word)
  | text (s : String)
  | list (items : List Doc)
  | map (members : List (String × Doc))

namespace Doc

mutual

def write : Doc → List Char
  | word w => w.chars
  | text s => textChars true s.toList
  | list items => '[' :: joined [','] (writeItems items) ++ [']']
  | map members => '\x7b' :: joined [','] (writeMembers members) ++ ['\x7d']

def writeItems : List Doc → List (List Char)
  | [] => []
  | d :: rest => write d :: writeItems rest

def writeMembers : List (String × Doc) → List (List Char)
  | [] => []
  | (k, d) :: rest => compactMember (k, write d) :: writeMembers rest

end

def Ends (r : List Char) : Prop := ∀ c ∈ r.head?, isWordChar c = false

theorem word_append {w w' : Word} {r r' : List Char} (h : w.chars ++ r = w'.chars ++ r')
    (hr : Ends r) (hr' : Ends r') : w = w' ∧ r = r' := by
  obtain ⟨ht, hd⟩ := Condition.takeWhile_append w.proper hr
  obtain ⟨ht', hd'⟩ := Condition.takeWhile_append w'.proper hr'
  rw [h, ht'] at ht
  rw [h, hd'] at hd
  cases w
  cases w'
  obtain rfl := ht
  exact ⟨rfl, hd.symm⟩

theorem word_ne {w : Word} {c : Char} (hc : isWordChar c = false) (r r' : List Char) :
    w.chars ++ r ≠ c :: r' := by
  intro h
  obtain ⟨d, rest, hd⟩ := List.exists_cons_of_ne_nil w.ne_nil
  have hp := w.proper d (by simp [hd])
  rw [hd] at h
  obtain rfl := (List.cons.inj h).1
  simp [hc] at hp

theorem write_ne (d : Doc) {c : Char} (hc : c = ']' ∨ c = '\x7d') (r r' : List Char) :
    d.write ++ r ≠ c :: r' := by
  cases d with
  | word w =>
    rw [write]
    rcases hc with rfl | rfl
    · exact word_ne (by decide) r r'
    · exact word_ne (by decide) r r'
  | text s => rcases hc with rfl | rfl <;> simp [write, textChars]
  | list items => rcases hc with rfl | rfl <;> simp [write]
  | map members => rcases hc with rfl | rfl <;> simp [write]

theorem joined_cons (x : List Char) (xs : List (List Char)) :
    joined [','] (x :: xs) = x ++ (if xs.isEmpty then [] else ',' :: joined [','] xs) := by
  cases xs with
  | nil => simp [joined]
  | cons y ys => simp [joined]

theorem ends_joined (xs : List (List Char)) {c : Char} (hc : c = ']' ∨ c = '\x7d')
    (r : List Char) : Ends ((if xs.isEmpty then [] else ',' :: joined [','] xs) ++ c :: r) := by
  rcases hc with rfl | rfl <;> cases xs <;> simp [Ends] <;> decide

theorem tail_append {xs ys : List (List Char)} {c : Char} {r r' : List Char} (hc : c ≠ ',')
    (h : (if xs.isEmpty then [] else ',' :: joined [','] xs) ++ c :: r =
      (if ys.isEmpty then [] else ',' :: joined [','] ys) ++ c :: r') :
    joined [','] xs ++ c :: r = joined [','] ys ++ c :: r' := by
  cases xs <;> cases ys <;> simp_all [joined, Ne.symm hc]

theorem member_ne (m : String × List Char) (r r' : List Char) :
    compactMember m ++ r ≠ '\x7d' :: r' := by
  simp [compactMember, textChars]

mutual

theorem write_append : (d d' : Doc) → {r r' : List Char} → d.write ++ r = d'.write ++ r' →
    Ends r → Ends r' → d = d' ∧ r = r'
  | word w, word w', r, r', h, hr, hr' => by
    obtain ⟨rfl, hrest⟩ := word_append h hr hr'
    exact ⟨rfl, hrest⟩
  | text s, text s', r, r', h, _, _ => by
    obtain ⟨hs, hrest⟩ := textChars_append h
    exact ⟨by rw [String.toList_inj.mp hs], hrest⟩
  | list items, list items', r, r', h, _, _ => by
    simp only [write, List.cons_append, List.append_assoc, List.nil_append, List.cons.injEq,
      true_and] at h
    obtain ⟨rfl, hrest⟩ := items_append items items' h
    exact ⟨rfl, hrest⟩
  | map members, map members', r, r', h, _, _ => by
    simp only [write, List.cons_append, List.append_assoc, List.nil_append, List.cons.injEq,
      true_and] at h
    obtain ⟨rfl, hrest⟩ := members_append members members' h
    exact ⟨rfl, hrest⟩
  | word w, text _, r, r', h, _, _ => absurd h (word_ne (by decide) _ _)
  | word w, list _, r, r', h, _, _ => absurd h (word_ne (by decide) _ _)
  | word w, map _, r, r', h, _, _ => absurd h (word_ne (by decide) _ _)
  | text _, word w, r, r', h, _, _ => absurd h.symm (word_ne (by decide) _ _)
  | list _, word w, r, r', h, _, _ => absurd h.symm (word_ne (by decide) _ _)
  | map _, word w, r, r', h, _, _ => absurd h.symm (word_ne (by decide) _ _)
  | text _, list _, _, _, h, _, _ => by simp [write, textChars] at h
  | text _, map _, _, _, h, _, _ => by simp [write, textChars] at h
  | list _, text _, _, _, h, _, _ => by simp [write, textChars] at h
  | map _, text _, _, _, h, _, _ => by simp [write, textChars] at h
  | list _, map _, _, _, h, _, _ => by simp [write] at h
  | map _, list _, _, _, h, _, _ => by simp [write] at h

theorem items_append : (ds ds' : List Doc) → {r r' : List Char} →
    joined [','] (writeItems ds) ++ ']' :: r = joined [','] (writeItems ds') ++ ']' :: r' →
    ds = ds' ∧ r = r'
  | [], [], r, r', h => ⟨rfl, by simpa using h⟩
  | [], d' :: ds', r, r', h => by
    rw [writeItems, writeItems, joined_cons, List.append_assoc] at h
    exact absurd h.symm (write_ne d' (.inl rfl) _ _)
  | d :: ds, [], r, r', h => by
    rw [writeItems, writeItems, joined_cons, List.append_assoc] at h
    exact absurd h (write_ne d (.inl rfl) _ _)
  | d :: ds, d' :: ds', r, r', h => by
    rw [writeItems, writeItems, joined_cons, joined_cons, List.append_assoc, List.append_assoc] at h
    obtain ⟨rfl, ht⟩ :=
      write_append d d' h (ends_joined _ (.inl rfl) r) (ends_joined _ (.inl rfl) r')
    obtain ⟨rfl, hr⟩ := items_append ds ds' (tail_append (by decide) ht)
    exact ⟨rfl, hr⟩

theorem members_append : (ms ms' : List (String × Doc)) → {r r' : List Char} →
    joined [','] (writeMembers ms) ++ '\x7d' :: r =
      joined [','] (writeMembers ms') ++ '\x7d' :: r' → ms = ms' ∧ r = r'
  | [], [], r, r', h => ⟨rfl, by simpa using h⟩
  | [], (k', d') :: ms', r, r', h => by
    rw [writeMembers, writeMembers, joined_cons, List.append_assoc] at h
    exact absurd h.symm (member_ne _ _ _)
  | (k, d) :: ms, [], r, r', h => by
    rw [writeMembers, writeMembers, joined_cons, List.append_assoc] at h
    exact absurd h (member_ne _ _ _)
  | (k, d) :: ms, (k', d') :: ms', r, r', h => by
    rw [writeMembers, writeMembers, joined_cons, joined_cons, List.append_assoc, List.append_assoc,
      compactMember, compactMember, List.append_assoc, List.append_assoc] at h
    obtain ⟨hk, h⟩ := textChars_append h
    obtain rfl : k = k' := String.toList_inj.mp hk
    obtain ⟨rfl, ht⟩ := write_append d d' (List.cons.inj h).2 (ends_joined _ (.inr rfl) r)
      (ends_joined _ (.inr rfl) r')
    obtain ⟨rfl, hr⟩ := members_append ms ms' (tail_append (by decide) ht)
    exact ⟨rfl, hr⟩

end

theorem write_inj {d d' : Doc} (h : d.write = d'.write) : d = d' :=
  (write_append d d' (congrArg (· ++ []) h) (by simp [Ends]) (by simp [Ends])).1

end Doc

end LedgerRules.Json
