/-! Sets of characters given as spans of code points, and maps between characters given as shifts
of such spans. The tables of the other modules are written in these two forms. -/

namespace LedgerRules.Text

abbrev Spans := List (Nat × Nat)

def Spans.holds (spans : Spans) (c : Char) : Bool :=
  spans.any fun s => s.1 ≤ c.toNat && c.toNat ≤ s.2

theorem Spans.holds_iff {spans : Spans} {c : Char} :
    spans.holds c = true ↔ ∃ s ∈ spans, s.1 ≤ c.toNat ∧ c.toNat ≤ s.2 := by
  simp [Spans.holds]

structure Shift where
  first : Nat
  last : Nat
  step : Nat
  offset : Int
deriving DecidableEq

def Shift.covers (s : Shift) (n : Nat) : Bool :=
  s.first ≤ n && n ≤ s.last && (n - s.first) % s.step == 0

abbrev Shifts := List Shift

def Shifts.image (shifts : Shifts) (c : Char) : Char :=
  match shifts.find? (·.covers c.toNat) with
  | some s => Char.ofNat ((c.toNat : Int) + s.offset).toNat
  | none => c

def Shifts.sources (shifts : Shifts) (c : Char) : List Char :=
  shifts.filterMap fun s =>
    let n := ((c.toNat : Int) - s.offset).toNat
    if s.covers n then some (Char.ofNat n) else none

end LedgerRules.Text
