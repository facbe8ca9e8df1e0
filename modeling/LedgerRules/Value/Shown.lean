import LedgerRules.Value.Basic
import LedgerRules.Calendar.IsoText

/-! Values as texts. `shown` names a value unambiguously, with texts in quotes; `display` is what a
reader is given, where a text stands for itself. -/

namespace LedgerRules
open Numeric Calendar

namespace Value

def shownOffset (o : Int) : String :=
  if o = 0 then "datetime.timezone.utc" else "datetime.timezone(" ++ spanText o ++ ")"

def shownDate (d : Date) : String := s!"datetime.date({d.year}, {d.month}, {d.day})"

def shownMoment (t : Moment) : String :=
  let d := t.date
  let clock :=
    [d.year, d.month, d.day, t.hour, t.minute]
      ++ (if t.second = 0 && t.microsecond = 0 then [] else [t.second])
      ++ (if t.microsecond = 0 then [] else [t.microsecond])
  let zone := match t.offset with
    | none => []
    | some o => ["tzinfo=" ++ shownOffset o]
  "datetime.datetime(" ++ ", ".intercalate (clock.map toString ++ zone) ++ ")"

mutual

def shown : Value → String
  | null => "None"
  | bool b => if b then "True" else "False"
  | int i => toString i
  | float x => x.text
  | decimal d => "Decimal('" ++ d.text ++ "')"
  | text s => Text.quoted s
  | date d => shownDate d
  | moment t => shownMoment t
  | list items => "[" ++ ", ".intercalate (shownItems items) ++ "]"
  | map members => "\x7b" ++ ", ".intercalate (shownMembers members) ++ "\x7d"

def shownItems : List Value → List String
  | [] => []
  | v :: rest => shown v :: shownItems rest

def shownMembers : List (String × Value) → List String
  | [] => []
  | (k, v) :: rest => (Text.quoted k ++ ": " ++ shown v) :: shownMembers rest

end

def display : Value → String
  | decimal d => d.text
  | text s => s
  | date d => d.text
  | moment t => String.ofList (t.toChars ' ')
  | v => v.shown

end Value

end LedgerRules
