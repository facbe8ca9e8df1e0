import LedgerRules.Text.Spans

/-! Decimal digits of every script, and the reading and writing of natural numbers. A script's ten
digits follow each other, so its zero is enough to know them all. -/

namespace LedgerRules.Text

def digitZeros : List Nat :=
  [0x30, 0x660, 0x6F0, 0x7C0, 0x966, 0x9E6, 0xA66, 0xAE6, 0xB66, 0xBE6, 0xC66, 0xCE6, 0xD66,
   0xDE6, 0xE50, 0xED0, 0xF20, 0x1040, 0x1090, 0x17E0, 0x1810, 0x1946, 0x19D0, 0x1A80, 0x1A90,
   0x1B50, 0x1BB0, 0x1C40, 0x1C50, 0xA620, 0xA8D0, 0xA900, 0xA9D0, 0xA9F0, 0xAA50, 0xABF0, 0xFF10,
   0x104A0, 0x10D30, 0x11066, 0x110F0, 0x11136, 0x111D0, 0x112F0, 0x11450, 0x114D0, 0x11650,
   0x116C0, 0x11730, 0x118E0, 0x11950, 0x11C50, 0x11D50, 0x11DA0, 0x16A60, 0x16AC0, 0x16B50,
   0x1D7CE, 0x1D7D8, 0x1D7E2, 0x1D7EC, 0x1D7F6, 0x1E140, 0x1E2F0, 0x1E950, 0x1FBF0]

/-- Superscripts, circled digits and the like: they stand for a digit and spell no number. -/
def digitLikeSpans : Spans :=
  [(0xB2, 0xB3), (0xB9, 0xB9), (0x1369, 0x1371), (0x19DA, 0x19DA), (0x2070, 0x2070),
   (0x2074, 0x2079), (0x2080, 0x2089), (0x2460, 0x2468), (0x2474, 0x247C), (0x2488, 0x2490),
   (0x24EA, 0x24EA), (0x24F5, 0x24FD), (0x24FF, 0x24FF), (0x2776, 0x277E), (0x2780, 0x2788),
   (0x278A, 0x2792), (0x10A40, 0x10A43), (0x10E60, 0x10E68), (0x11052, 0x1105A),
   (0x1F100, 0x1F10A)]

def digitValue? (c : Char) : Option Nat :=
  if c.toNat < 0x80 then
    if 0x30 ≤ c.toNat && c.toNat ≤ 0x39 then some (c.toNat - 0x30) else none
  else (digitZeros.find? fun z => z ≤ c.toNat && c.toNat ≤ z + 9).map (c.toNat - ·)

def isDecimalDigit (c : Char) : Bool := (digitValue? c).isSome

def isDigitLike (c : Char) : Bool :=
  isDecimalDigit c || digitLikeSpans.holds c

/-- A number that digits are added to at its end, as `high * scale + low`. The low part stays short,
and `high` is touched once in a few hundred digits. -/
structure Growing where
  high : Nat
  scale : Nat
  low : Nat

namespace Growing

def value (g : Growing) : Nat := g.high * g.scale + g.low

def add (g : Growing) (digit : Nat) : Growing :=
  if g.scale < Nat.pow 10 250 then ⟨g.high, 10 * g.scale, 10 * g.low + digit⟩ else ⟨g.value, 10, digit⟩

theorem value_add (g : Growing) (digit : Nat) : (g.add digit).value = 10 * g.value + digit := by
  unfold add
  split
  · simp only [value, Nat.mul_add, Nat.mul_left_comm, Nat.add_assoc]
  · simp only [value, Nat.mul_comm]

end Growing

def digitsValue (cs : List Char) : Nat :=
  (cs.foldl (fun g c => g.add ((digitValue? c).getD 0)) (Growing.mk 0 1 0)).value

theorem digitsValue_eq_foldl (cs : List Char) :
    digitsValue cs = cs.foldl (fun n c => 10 * n + (digitValue? c).getD 0) 0 := by
  have hfold : ∀ g : Growing, (cs.foldl (fun g c => g.add ((digitValue? c).getD 0)) g).value =
      cs.foldl (fun n c => 10 * n + (digitValue? c).getD 0) g.value := by
    induction cs with
    | nil => exact fun _ => rfl
    | cons c cs ih =>
      intro g
      rw [List.foldl_cons, List.foldl_cons, ih, Growing.value_add]
  exact hfold ⟨0, 1, 0⟩

theorem digitsValue_append (cs : List Char) (c : Char) :
    digitsValue (cs ++ [c]) = 10 * digitsValue cs + (digitValue? c).getD 0 := by
  simp [digitsValue_eq_foldl]

def digitsOf (n : Nat) : List Char := Nat.toDigits 10 n

def padLeft (width : Nat) (fill : Char) (cs : List Char) : List Char :=
  List.replicate (width - cs.length) fill ++ cs

theorem length_padLeft (width : Nat) (fill : Char) (cs : List Char) :
    (padLeft width fill cs).length = max width cs.length := by
  simp [padLeft]
  omega

def hexDigit (n : Nat) : Char :=
  if n < 10 then Char.ofNat (0x30 + n) else Char.ofNat (0x61 + (n - 10))

def hexDigits : (width n : Nat) → List Char
  | 0, _ => []
  | width + 1, n => hexDigits width (n / 16) ++ [hexDigit (n % 16)]

theorem length_hexDigits (width n : Nat) : (hexDigits width n).length = width := by
  induction width generalizing n with
  | zero => rfl
  | succ width ih => simp [hexDigits, ih]

def hexValue? (c : Char) : Option Nat :=
  let n := c.toNat
  if 0x30 ≤ n && n ≤ 0x39 then some (n - 0x30)
  else if 0x41 ≤ n && n ≤ 0x46 then some (n - 0x41 + 10)
  else if 0x61 ≤ n && n ≤ 0x66 then some (n - 0x61 + 10)
  else none

def hexNumber? (cs : List Char) : Option Nat :=
  cs.foldlM (fun n c => (hexValue? c).map (16 * n + ·)) 0

end LedgerRules.Text
