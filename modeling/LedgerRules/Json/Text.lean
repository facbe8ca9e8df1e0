import LedgerRules.Text.Digit

/-! Texts as JSON strings. Quotes, backslashes and control characters are always escaped; in plain
ASCII so is everything outside it, beyond the first plane as a pair of surrogates. -/

namespace LedgerRules.Json
open Text

def unitEscape (n : Nat) : List Char := ['\\', 'u'] ++ hexDigits 4 n

def shortEscape? : Char → Option Char
  | '"' => some '"'
  | '\\' => some '\\'
  | '\n' => some 'n'
  | '\r' => some 'r'
  | '\t' => some 't'
  | '\x08' => some 'b'
  | '\x0c' => some 'f'
  | _ => none

def charText (ascii : Bool) (c : Char) : List Char :=
  match shortEscape? c with
  | some e => ['\\', e]
  | none =>
    if c.toNat < 0x20 then unitEscape c.toNat
    else if !ascii || c.toNat < 0x7F then [c]
    else if c.toNat < 0x10000 then unitEscape c.toNat
    else
      let n := c.toNat - 0x10000
      unitEscape (0xD800 + n / 0x400) ++ unitEscape (0xDC00 + n % 0x400)

def textChars (ascii : Bool) (cs : List Char) : List Char :=
  '"' :: cs.flatMap (charText ascii) ++ ['"']

end LedgerRules.Json
