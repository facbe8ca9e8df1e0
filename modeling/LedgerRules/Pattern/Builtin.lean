import LedgerRules.Pattern.Matcher
import LedgerRules.Pattern.Parser

/-! The engine that the program runs with. It reads a pattern again for every search. -/

namespace LedgerRules.Pattern.Builtin

scoped instance engine : Engine where
  compile source flags := (parse source flags).map fun p => ⟨source, p.flags⟩
  search p text :=
    match parse p.source p.flags with
    | .ok program => program.search text
    | .error _ => false

end LedgerRules.Pattern.Builtin
