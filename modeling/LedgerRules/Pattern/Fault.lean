import LedgerRules.Text.Digit

/-! What can be wrong with the text of a pattern, and where. -/

namespace LedgerRules.Pattern

inductive Cause
  | nothingToRepeat
  | multipleRepeat
  | repeatTooBig
  | repeatReversed
  | missing (c : Char)
  | noGroupName
  | badGroupName
  | openGroup
  | unknownGroup
  | noSuchGroup
  | unknownExtension
  | flagsTurnedOff
  | flagOnAndOff
  | noFlagsAfterMinus
  | escapeAtEnd
  | shortEscape (letter : Char) (digits : List Char)
  | hugeEscape (letter : Char) (digits : List Char)
  | badEscape (c : Char)
  | openSet
  | reversedRange
  | unknownProperty
  | unbalanced
deriving DecidableEq

def Cause.message : Cause → String
  | nothingToRepeat => "nothing to repeat"
  | multipleRepeat => "multiple repeat"
  | repeatTooBig => "repeat count too big"
  | repeatReversed => "min repeat greater than max repeat"
  | missing c => s!"missing {c}"
  | noGroupName => "missing group name"
  | badGroupName => "bad character in group name"
  | openGroup => "cannot refer to an open group"
  | unknownGroup => "unknown group"
  | noSuchGroup => "invalid group reference"
  | unknownExtension => "unknown extension"
  | flagsTurnedOff => "bad inline flags: cannot turn flags off"
  | flagOnAndOff => "bad inline flags: flag turned on and off"
  | noFlagsAfterMinus => "bad inline flags: no flags after '-'"
  | escapeAtEnd => "bad escape (end of pattern)"
  | shortEscape letter digits => s!"incomplete escape \\{letter}{String.ofList digits}"
  | hugeEscape letter digits => s!"bad hex escape \\{letter}{String.ofList digits}"
  | badEscape c => s!"bad escape \\{c}"
  | openSet => "unterminated character set"
  | reversedRange => "bad character range"
  | unknownProperty => "unknown property"
  | unbalanced => "unbalanced parenthesis"

structure Fault where
  cause : Cause
  pos : Nat
deriving DecidableEq

def lineColumn (before : List Char) : Nat × Nat :=
  (before.count '\n' + 1, (before.reverse.takeWhile (· ≠ '\n')).length + 1)

def Fault.message (source : List Char) (f : Fault) : String :=
  let text := s!"{f.cause.message} at position {f.pos}"
  if '\n' ∈ source then
    let (line, column) := lineColumn (source.take f.pos)
    s!"{text} (line {line}, column {column})"
  else text

end LedgerRules.Pattern
