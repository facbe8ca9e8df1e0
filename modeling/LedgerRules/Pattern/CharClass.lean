import LedgerRules.Pattern.Folding
import LedgerRules.Pattern.Letters
import LedgerRules.Text.Digit

/-! Tests on a single character: one character, any character, a named class, or a set in brackets.
Each can ignore case; a set then asks for any of the variants of the character it is given. -/

namespace LedgerRules.Pattern
open Text

def furtherDigitZeros : List Nat :=
  [0x10D40, 0x116D0, 0x116DA, 0x11BF0, 0x11DE0, 0x11F50, 0x16130, 0x16D70, 0x1CCF0, 0x1E4F0,
   0x1E5F1]

inductive CharClass
  | digit
  | blank
  | word
  | letter
  | capital
  | alphabetic
  | alphanumeric
  | plainDigit
  | hexadecimal
deriving DecidableEq

def patternBlanks : Spans :=
  [(0x9, 0xD), (0x20, 0x20), (0x85, 0x85), (0xA0, 0xA0), (0x1680, 0x1680), (0x2000, 0x200A),
   (0x2028, 0x2029), (0x202F, 0x202F), (0x205F, 0x205F), (0x3000, 0x3000)]

def isPatternDigit (c : Char) : Bool :=
  isDecimalDigit c || furtherDigitZeros.any fun z => z ≤ c.toNat && c.toNat ≤ z + 9

def isPlainDigit (c : Char) : Bool := 0x30 ≤ c.toNat && c.toNat ≤ 0x39

def isPlainLetter (c : Char) : Bool :=
  (0x41 ≤ c.toNat && c.toNat ≤ 0x5A) || (0x61 ≤ c.toNat && c.toNat ≤ 0x7A)

def isWordChar (c : Char) : Bool :=
  if c.toNat < 0x80 then isPlainLetter c || isPlainDigit c || c == '_' else wordSpans.holds c

def CharClass.holds (ignoreCase : Bool) : CharClass → Char → Bool
  | digit, c => isPatternDigit c
  | blank, c => patternBlanks.holds c
  | word, c => isWordChar c
  | letter, c => letterSpans.holds c
  | capital, c => if ignoreCase then casedLetterSpans.holds c else capitalSpans.holds c
  | alphabetic, c => alphabeticSpans.holds c
  | alphanumeric, c => alphabeticSpans.holds c || isPatternDigit c
  | plainDigit, c => isPlainDigit c
  | hexadecimal, c => (hexValue? c).isSome

inductive SetItem
  | char (c : Char)
  | range (first last : Nat)
  | named (kind : CharClass) (positive : Bool)
deriving DecidableEq

def SetItem.holds (ignoreCase : Bool) : SetItem → Char → Bool
  | char c, d => c == d
  | range first last, d => first ≤ d.toNat && d.toNat ≤ last
  | named kind positive, d => kind.holds ignoreCase d == positive

inductive CharTest
  | char (c : Char) (ignoreCase : Bool)
  | any (lineEnds : Bool)
  | named (kind : CharClass) (positive ignoreCase : Bool)
  | set (items : List SetItem) (positive ignoreCase : Bool)
deriving DecidableEq

def CharTest.holds : CharTest → Char → Bool
  | char c ignoreCase, d => if ignoreCase then sameCase c d else c == d
  | any lineEnds, d => lineEnds || d != '\n'
  | named kind positive ignoreCase, d => kind.holds ignoreCase d == positive
  | set items positive ignoreCase, d =>
    let candidates := if ignoreCase then variants d else [d]
    (candidates.any fun e => items.any (·.holds ignoreCase e)) == positive

end LedgerRules.Pattern
