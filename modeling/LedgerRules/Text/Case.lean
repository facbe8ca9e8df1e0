import LedgerRules.Text.CaseTable

/-! The capital and small forms of whole texts. Both work character by character, except that a
capital form may be several characters long and that a capital sigma at the end of a word becomes
the final small sigma. -/

namespace LedgerRules.Text

def isAsciiUpper (c : Char) : Bool := 0x41 ≤ c.toNat && c.toNat ≤ 0x5A
def isAsciiLower (c : Char) : Bool := 0x61 ≤ c.toNat && c.toNat ≤ 0x7A
def upperOf (c : Char) : List Char :=
  if c.toNat < 0x80 then [if isAsciiLower c then Char.ofNat (c.toNat - 0x20) else c]
  else match longUpper.lookup c.toNat with
    | some long => long.map Char.ofNat
    | none => [upperShifts.image c]

def toUpper (cs : List Char) : List Char := cs.flatMap upperOf

def capitalSigma : Char := Char.ofNat 0x3A3
def finalSigma : Char := Char.ofNat 0x3C2

def meetsCased (cs : List Char) : Bool :=
  match cs.dropWhile caseIgnorableSpans.holds with
  | [] => false
  | c :: _ => casedSpans.holds c

def lowerOf (before : List Char) (c : Char) (after : List Char) : List Char :=
  if c.toNat < 0x80 then [if isAsciiUpper c then Char.ofNat (c.toNat + 0x20) else c]
  else if c = capitalSigma && meetsCased before && !meetsCased after then [finalSigma]
  else if c.toNat = 0x130 then ['i', Char.ofNat 0x307]
  else [lowerShifts.image c]

def toLowerFrom (before : List Char) : List Char → List Char
  | [] => []
  | c :: after => lowerOf before c after ++ toLowerFrom (c :: before) after

def toLower (cs : List Char) : List Char := toLowerFrom [] cs

end LedgerRules.Text
