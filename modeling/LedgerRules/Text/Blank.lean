import LedgerRules.Text.Spans

/-! Blank characters and the trimming of texts. The four separators from `0x1C` to `0x1F` count as
blank here, next to the spaces and line ends. -/

namespace LedgerRules.Text

def blankSpans : Spans :=
  [(0x9, 0xD), (0x1C, 0x20), (0x85, 0x85), (0xA0, 0xA0), (0x1680, 0x1680), (0x2000, 0x200A),
   (0x2028, 0x2029), (0x202F, 0x202F), (0x205F, 0x205F), (0x3000, 0x3000)]

def isBlank (c : Char) : Bool := blankSpans.holds c

theorem isBlank_space : isBlank ' ' = true := by decide

def trimStart (cs : List Char) : List Char := cs.dropWhile isBlank

def trimEnd (cs : List Char) : List Char := (cs.reverse.dropWhile isBlank).reverse

def trim (cs : List Char) : List Char := trimEnd (trimStart cs)

def trimmed (s : String) : String := String.ofList (trim s.toList)

end LedgerRules.Text
