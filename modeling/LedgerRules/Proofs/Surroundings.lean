import LedgerRules.Logging.Level
import LedgerRules.Proofs.BinaryRange
import LedgerRules.Proofs.IntegerTexts

/-! What the surroundings ask for. Every setting that cannot be read leaves the default in force, and
every number of workers is brought into its range. Two requests have no answer: a budget of so many
milliseconds that the seconds are no binary number, and a level of digits that spell no number. -/

namespace LedgerRules
open Numeric

namespace Environment
variable {env : Environment} {name : String} {n : Int}

/-- A variable that spells a whole number, with blanks around it or without. -/
def Sets (env : Environment) (name : String) (n : Int) : Prop :=
  ∃ raw, env.get? name = some raw ∧ Text.Spells (Text.trim raw.toList) n

theorem not_spells_nil : ¬Text.Spells [] n := by
  intro h
  cases h with
  | plain h => cases h

theorem integer?_eq_some_iff : env.integer? name = some n ↔ env.Sets name n := by
  rw [integer?, Option.bind_eq_some_iff]
  refine exists_congr fun raw => and_congr_right fun _ => ?_
  by_cases hblank : Text.trimmed raw = ""
  · have hnil : Text.trim raw.toList = [] := by simpa [Text.trimmed] using hblank
    rw [if_pos hblank, hnil]
    exact iff_of_false (by simp) not_spells_nil
  · rw [if_neg hblank]
    exact Text.integer?_eq_some_iff

theorem sets_digitsOf (name : String) {n : Nat} (h : n < 10 ^ Text.longestInteger) :
    Environment.Sets [(name, String.ofList (Text.digitsOf n))] name n := by
  refine ⟨_, List.lookup_cons_self, ?_⟩
  rw [String.toList_ofList]
  exact Text.spells_digitsOf h

end Environment

namespace Settings

def budgetLimit : Nat := (2 ^ 54 - 1) * 2 ^ 970 * 1000

theorem workersOf_eq {n : Int} (hlow : 1 ≤ n) (hhigh : n ≤ 32) : workersOf (some n) = n := by
  rw [workersOf, if_neg (by omega), maxWorkers]
  omega

theorem seconds_infinite_iff {n : Int} (hn : 0 ≤ n) :
    Binary64.ofRatio false n.toNat 1000 = .infinite false ↔ budgetLimit ≤ n := by
  obtain ⟨k, rfl⟩ := Int.eq_ofNat_of_zero_le hn
  -- for any exponent, as casts evaluate the powers of literals
  have hcast (e : Nat) : (((2 ^ 54 - 1) * 2 ^ e * 1000 : Nat) : ℚ) =
      (2 ^ 54 - 1) * 2 ^ (e : Int) * (1000 : Nat) := by
    rw [zpow_natCast]
    push_cast
    norm_num
  have hlimit : (budgetLimit : ℚ) = (2 ^ 54 - 1) * 2 ^ (970 : Int) * (1000 : Nat) := hcast 970
  rw [Binary64.ofRatio_infinite_iff false _ (by decide), le_div_iff₀ (by norm_num), Int.toNat_natCast,
    ← hlimit, Nat.cast_le, Int.ofNat_le]

theorem seconds_positive {n : Int} {m : Nat} {e : Int} (hn : 0 < n)
    (h : Binary64.ofRatio false n.toNat 1000 = .finite false m e) : 0 < m := by
  apply Binary64.ofRatio_positive (by decide) h
  have hone : (1 : ℚ) ≤ n.toNat := by
    have : 1 ≤ n.toNat := by omega
    exact_mod_cast this
  have hsmall : (2 : ℚ) ^ Binary64.minExponent ≤ 2 ^ (-10 : Int) :=
    zpow_le_zpow_right₀ (by norm_num) (by decide)
  have hthousandth : (2 : ℚ) ^ (-10 : Int) ≤ 1 / 1000 := by norm_num
  calc (2 : ℚ) ^ Binary64.minExponent
      ≤ 1 / 1000 := hsmall.trans hthousandth
    _ ≤ n.toNat / 1000 := div_le_div_of_nonneg_right hone (by norm_num)

theorem budgetOf_positive {n : Int} (hn : 0 < n) (hlimit : n < budgetLimit) :
    ∃ m e, budgetOf (some n) = .ok (some (.finite false m e)) ∧ 0 < m := by
  rcases Binary64.ofRatio_cases false n.toNat 1000 with h | ⟨m, e, h⟩
  · have hle := (seconds_infinite_iff hn.le).mp h
    omega
  · refine ⟨m, e, ?_, seconds_positive hn h⟩
    rw [budgetOf, if_neg (by omega), if_neg (by omega), h]

theorem budgetOf_error {n : Int} (hlimit : budgetLimit ≤ n) :
    budgetOf (some n) = .error .budgetTooLarge := by
  have hn : 0 < n := lt_of_lt_of_le (by unfold budgetLimit; positivity) hlimit
  rw [budgetOf, if_neg (by omega), if_neg (by omega), (seconds_infinite_iff hn.le).mpr hlimit]

theorem budgetOf_default {asked : Option Int} (h : ∀ n ∈ asked, n < 0) :
    budgetOf asked = .ok (some defaultBudget) := by
  cases asked with
  | none => rfl
  | some n => exact if_pos (h n rfl)

structure Follows (s : Settings) (env : Environment) : Prop where
  workers_mem : 1 ≤ s.workers ∧ s.workers ≤ 32
  workers : ∀ n, env.Sets workersVariable n → 1 ≤ n → n ≤ 32 → s.workers = n
  standard : (∀ n, env.Sets budgetVariable n → n < 0) → s.budget = some defaultBudget
  unlimited : env.Sets budgetVariable 0 → s.budget = none
  limited : ∀ n, env.Sets budgetVariable n → 0 < n →
    ∃ m e, s.budget = some (.finite false m e) ∧ 0 < m

theorem budgetOf_returns_iff {asked : Option Int} :
    (∃ budget, budgetOf asked = .ok budget) ↔ ∀ n ∈ asked, n < budgetLimit := by
  constructor
  · rintro ⟨budget, h⟩ n rfl
    by_contra hn
    rw [budgetOf_error (not_lt.mp hn)] at h
    cases h
  · intro hlimit
    by_cases hneg : ∀ n ∈ asked, n < 0
    · exact ⟨_, budgetOf_default hneg⟩
    · obtain ⟨n, rfl, hn⟩ : ∃ n, asked = some n ∧ 0 ≤ n := by simpa using hneg
      rcases hn.eq_or_lt with rfl | hpos
      · exact ⟨none, rfl⟩
      · obtain ⟨m, e, hbudget, -⟩ := budgetOf_positive hpos (hlimit n rfl)
        exact ⟨_, hbudget⟩

theorem ofEnvironment_eq_ok {env : Environment} {s : Settings} (h : ofEnvironment env = .ok s) :
    budgetOf (env.integer? budgetVariable) = .ok s.budget ∧
      s.workers = workersOf (env.integer? workersVariable) := by
  unfold ofEnvironment at h
  cases hbudget : budgetOf (env.integer? budgetVariable) with
  | error f =>
    rw [hbudget] at h
    cases h
  | ok budget =>
    rw [hbudget] at h
    cases h
    exact ⟨rfl, rfl⟩

theorem ofEnvironment_digitsOf {n : Nat} (hshort : n < 10 ^ Text.longestInteger)
    (hlimit : budgetLimit ≤ n) :
    ofEnvironment [(budgetVariable, String.ofList (Text.digitsOf n))] = .error .budgetTooLarge := by
  have hset := Environment.integer?_eq_some_iff.mpr (Environment.sets_digitsOf budgetVariable hshort)
  rw [ofEnvironment, hset, budgetOf_error (Int.ofNat_le.mpr hlimit)]
  rfl

theorem follows_of_ofEnvironment {env : Environment} {s : Settings}
    (h : ofEnvironment env = .ok s) : s.Follows env := by
  obtain ⟨hbudget, hworkers⟩ := ofEnvironment_eq_ok h
  refine ⟨?_, ?_, ?_, ?_, ?_⟩
  · exact hworkers ▸ workersOf_mem _
  · intro n hn hlow hhigh
    rw [hworkers, Environment.integer?_eq_some_iff.mpr hn, workersOf_eq hlow hhigh]
  · intro hneg
    rw [budgetOf_default fun n hn => hneg n (Environment.integer?_eq_some_iff.mp hn)] at hbudget
    exact (Except.ok.inj hbudget).symm
  · intro hzero
    rw [Environment.integer?_eq_some_iff.mpr hzero] at hbudget
    exact (Except.ok.inj hbudget).symm
  · intro n hn hpos
    rw [Environment.integer?_eq_some_iff.mpr hn] at hbudget
    have hlimit := budgetOf_returns_iff.mp ⟨_, hbudget⟩ n rfl
    obtain ⟨m, e, hfinite, hm⟩ := budgetOf_positive hpos hlimit
    rw [hfinite] at hbudget
    exact ⟨m, e, (Except.ok.inj hbudget).symm, hm⟩

theorem ofEnvironment_returns_iff {env : Environment} :
    (∃ s, ofEnvironment env = .ok s) ↔ ∀ n, env.Sets budgetVariable n → n < budgetLimit := by
  simp only [← Environment.integer?_eq_some_iff]
  refine Iff.trans ?_ budgetOf_returns_iff
  constructor
  · rintro ⟨s, h⟩
    exact ⟨_, (ofEnvironment_eq_ok h).1⟩
  · rintro ⟨budget, h⟩
    exact ⟨⟨budget, _, _⟩, by rw [ofEnvironment, h]; rfl⟩

end Settings

namespace Logging
variable {cs : List Char} {level : Level}

def OnlyDigits (cs : List Char) : Prop := cs ≠ [] ∧ ∀ c ∈ cs, Text.isDigitLike c = true

/-- Texts of which a level can be made: digits alone have to spell a number. -/
def Legible (cs : List Char) : Prop :=
  OnlyDigits cs → (∀ c ∈ cs, Text.isDecimalDigit c = true) ∧ cs.length ≤ Text.longestInteger

def Level.nameOf (cs : List Char) : String := String.ofList (Text.toUpper cs)

structure Level.Follows (level : Level) (cs : List Char) : Prop where
  digits : ∀ n, OnlyDigits cs → Text.Spells cs n → level = number n
  known : ¬OnlyDigits cs → ∀ n, (nameOf cs, n) ∈ names → level = number n
  unknown : ¬OnlyDigits cs → (∀ n, (nameOf cs, n) ∉ names) → level = standard

theorem legible_iff (honly : OnlyDigits cs) : Legible cs ↔ ∃ n, Text.Spells cs n := by
  constructor
  · intro h
    obtain ⟨hdigits, hlength⟩ := h honly
    exact ⟨_, .plain (Text.grouped_of_digits honly.1 hdigits) hlength⟩
  · rintro ⟨n, hn⟩ -
    cases hn with
    | plain hgrouped hlength =>
      obtain ⟨rfl, hdigits⟩ := hgrouped.digits honly.2
      exact ⟨hdigits, hlength⟩
    | plus | minus =>
      have hsign := List.forall_mem_cons.mp honly.2
      exact absurd hsign.1 (by decide)

theorem lookup_names {name : String} {n : Int} (h : (name, n) ∈ Level.names) :
    Level.names.lookup name = some n := by
  simp only [Level.names, List.mem_cons, Prod.mk.injEq, List.not_mem_nil, or_false] at h
  rcases h with ⟨rfl, rfl⟩ | ⟨rfl, rfl⟩ | ⟨rfl, rfl⟩ | ⟨rfl, rfl⟩ | ⟨rfl, rfl⟩ | ⟨rfl, rfl⟩ |
    ⟨rfl, rfl⟩ | ⟨rfl, rfl⟩ <;> rfl

theorem levelOfText_of_digits {s : String} (honly : OnlyDigits (Text.trim s.toList)) :
    levelOfText s = ((Text.readInteger (Text.trimmed s)).map Level.number).mapError .integer := by
  have hcond : (!(Text.trim s.toList).isEmpty &&
      (Text.trim s.toList).all Text.isDigitLike) = true := by
    simpa [OnlyDigits] using honly
  rw [levelOfText, if_pos hcond, Text.trimmed]
  cases Text.readInteger (String.ofList (Text.trim s.toList)) <;> rfl

theorem levelOfText_of_name {s : String} (hname : ¬OnlyDigits (Text.trim s.toList)) :
    levelOfText s = .ok (((Level.names.lookup (Level.nameOf (Text.trim s.toList))).map
      Level.number).getD .standard) := by
  have hcond : ¬(!(Text.trim s.toList).isEmpty &&
      (Text.trim s.toList).all Text.isDigitLike) = true := by
    simpa [OnlyDigits] using hname
  rw [levelOfText, if_neg hcond, Level.nameOf]

theorem readInteger_trimmed {s : String} {n : Int} :
    Text.readInteger (Text.trimmed s) = .ok n ↔ Text.Spells (Text.trim s.toList) n := by
  rw [Text.readInteger_eq_ok_iff, Text.trimmed, String.toList_ofList, Text.trim_trim]

theorem levelOfText_returns_iff {s : String} :
    (∃ level, levelOfText s = .ok level) ↔ Legible (Text.trim s.toList) := by
  by_cases honly : OnlyDigits (Text.trim s.toList)
  · rw [legible_iff honly, levelOfText_of_digits honly]
    simp only [← readInteger_trimmed]
    cases Text.readInteger (Text.trimmed s) <;> simp [Except.map, Except.mapError]
  · exact iff_of_true ⟨_, levelOfText_of_name honly⟩ fun h => absurd h honly

theorem follows_of_levelOfText {s : String} (h : levelOfText s = .ok level) :
    level.Follows (Text.trim s.toList) := by
  refine ⟨?_, ?_, ?_⟩
  · intro n honly hn
    rw [levelOfText_of_digits honly, readInteger_trimmed.mpr hn] at h
    exact (Except.ok.inj h).symm
  · intro hname n hn
    rw [levelOfText_of_name hname, lookup_names hn] at h
    exact (Except.ok.inj h).symm
  · intro hname hunknown
    have hlookup : Level.names.lookup (Level.nameOf (Text.trim s.toList)) = none := by
      rw [List.lookup_eq_none_iff]
      rintro ⟨name, n⟩ hmem
      have hne : Level.nameOf (Text.trim s.toList) ≠ name := by
        rintro rfl
        exact hunknown n hmem
      simpa using hne
    rw [levelOfText_of_name hname, hlookup] at h
    exact (Except.ok.inj h).symm

theorem resolveLevel_text (env : Environment) (s : String) :
    resolveLevel env (.text s) = levelOfText s := rfl

theorem levelOfText_empty : levelOfText "" = .ok .standard := by decide +kernel

theorem resolveLevel_absent (env : Environment) :
    resolveLevel env .absent = levelOfText ((env.get? levelVariable).getD "") := by
  dsimp only [resolveLevel]
  split
  next hnone => rw [hnone, Option.getD_none, levelOfText_empty]
  next hempty => rw [hempty, Option.getD_some, levelOfText_empty]
  next htext => rw [htext, Option.getD_some]

theorem legible_absent (env : Environment) :
    Legible (Text.trim ((env.get? levelVariable).getD "").toList) ↔
      ∀ set, env.get? levelVariable = some set → Legible (Text.trim set.toList) := by
  cases env.get? levelVariable with
  | none =>
    have hempty : Legible (Text.trim "".toList) := levelOfText_returns_iff.mp ⟨_, levelOfText_empty⟩
    exact iff_of_true hempty (by simp)
  | some set => simp

end Logging

/-- What is asked for is done, but for a budget beyond the binary numbers and for a level of digits
that spell no number. -/
theorem surroundings_answered (env : Environment) (text : String) :
    ((∃ s, Settings.ofEnvironment env = .ok s) ↔
        ∀ n, env.Sets Settings.budgetVariable n → n < Settings.budgetLimit) ∧
      (∀ s, Settings.ofEnvironment env = .ok s → s.Follows env) ∧
      ((∃ level, Logging.resolveLevel env (.text text) = .ok level) ↔
        Logging.Legible (Text.trim text.toList)) ∧
      (∀ level, Logging.resolveLevel env (.text text) = .ok level →
        level.Follows (Text.trim text.toList)) ∧
      ((∃ level, Logging.resolveLevel env .absent = .ok level) ↔
        ∀ set, env.get? Logging.levelVariable = some set → Logging.Legible (Text.trim set.toList)) ∧
      (∀ level, Logging.resolveLevel env .absent = .ok level →
        level.Follows (Text.trim ((env.get? Logging.levelVariable).getD "").toList)) := by
  rw [Logging.resolveLevel_text, Logging.resolveLevel_absent, ← Logging.legible_absent]
  exact ⟨Settings.ofEnvironment_returns_iff, fun _ => Settings.follows_of_ofEnvironment,
    Logging.levelOfText_returns_iff, fun _ => Logging.follows_of_levelOfText,
    Logging.levelOfText_returns_iff, fun _ => Logging.follows_of_levelOfText⟩

theorem superscript_level_stops :
    Logging.resolveLevel [] (.text "²") = .error (.integer (.malformed "²")) ∧
      Settings.ofEnvironment
          [(Settings.budgetVariable, String.ofList (Text.digitsOf Settings.budgetLimit))] =
        .error .budgetTooLarge := by
  refine ⟨by decide +kernel, ?_⟩
  have hshort : Settings.budgetLimit < 10 ^ Text.longestInteger := by decide +kernel
  exact Settings.ofEnvironment_digitsOf hshort le_rfl

end LedgerRules
