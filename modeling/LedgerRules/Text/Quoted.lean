import LedgerRules.Text.Digit
import LedgerRules.Text.Printable

/-! A text in quotes, as messages show it. Single quotes are used unless the text holds one and
holds no double quote; characters that cannot be shown are written by their number. -/

namespace LedgerRules.Text

def quoteFor (cs : List Char) : Char :=
  if '\'' ∈ cs ∧ '"' ∉ cs then '"' else '\''

def quotedChar (quote c : Char) : List Char :=
  if c = quote || c = '\\' then ['\\', c]
  else if c = '\t' then ['\\', 't']
  else if c = '\n' then ['\\', 'n']
  else if c = '\r' then ['\\', 'r']
  else if 0x20 ≤ c.toNat && c.toNat < 0x7F then [c]
  else if c.toNat ≥ 0x80 && isPrintable c then [c]
  else if c.toNat < 0x100 then ['\\', 'x'] ++ hexDigits 2 c.toNat
  else if c.toNat < 0x10000 then ['\\', 'u'] ++ hexDigits 4 c.toNat
  else ['\\', 'U'] ++ hexDigits 8 c.toNat

def quotedChars (cs : List Char) : List Char :=
  let quote := quoteFor cs
  quote :: cs.flatMap (quotedChar quote) ++ [quote]

def quoted (s : String) : String := String.ofList (quotedChars s.toList)

end LedgerRules.Text
