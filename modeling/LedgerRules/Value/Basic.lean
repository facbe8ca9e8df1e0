import LedgerRules.Numeric.Binary64
import LedgerRules.Calendar.Moment

/-! The values that records hold and conditions compute: what JSON can write, and besides it decimal
numbers, dates and moments. A map keeps its members in order and no key twice. -/

namespace LedgerRules
open Numeric Calendar

inductive Value
  | null
  | bool (b : Bool)
  | int (i : Int)
  | float (x : Binary64)
  | decimal (d : Decimal)
  | text (s : String)
  | date (d : Date)
  | moment (t : Moment)
  | list (items : List Value)
  | map (members : List (String × Value))

namespace Value

instance : Inhabited Value := ⟨null⟩

def kindName : Value → String
  | null => "NoneType"
  | bool _ => "bool"
  | int _ => "int"
  | float _ => "float"
  | decimal _ => "Decimal"
  | text _ => "str"
  | date _ => "date"
  | moment _ => "datetime"
  | list _ => "list"
  | map _ => "dict"

/-- The decimal number a numeric value stands for; a binary one counts as its shortest text. A
truth value is no number. -/
def number? : Value → Option Decimal
  | int i => some (.ofInt i)
  | float x => some x.toDecimal
  | decimal d => some d
  | _ => none

def isNumber (v : Value) : Bool := v.number?.isSome

def isNull : Value → Bool
  | null => true
  | _ => false

def isText : Value → Bool
  | text _ => true
  | _ => false

def isCollection : Value → Bool
  | list _ => true
  | map _ => true
  | _ => false

/-- Whether a value counts as true: texts, lists and maps when they hold something, numbers when
they are neither zero nor no number at all. -/
def truthy : Value → Bool
  | null => false
  | bool b => b
  | text s => s ≠ ""
  | list items => !items.isEmpty
  | map members => !members.isEmpty
  | date _ => true
  | moment _ => true
  | int i => i ≠ 0
  | float x => !(x.toDecimal.isNan || x.toDecimal.isZero)
  | decimal d => !(d.isNan || d.isZero)

end Value

abbrev Members := List (String × Value)

namespace Members

def get? (m : Members) (key : String) : Option Value := m.lookup key

def set : Members → String → Value → Members
  | [], key, v => [(key, v)]
  | (k, w) :: rest, key, v => if k = key then (k, v) :: rest else (k, w) :: set rest key v

theorem get?_set_self (m : Members) (key : String) (v : Value) : (m.set key v).get? key = some v := by
  induction m with
  | nil => simp [set, get?]
  | cons head rest ih =>
    obtain ⟨k, w⟩ := head
    by_cases h : k = key
    · simp [set, get?, h]
    · have h' : (key == k) = false := by simp [Ne.symm h]
      simpa [set, get?, h, List.lookup_cons, h'] using ih

theorem get?_set_other (m : Members) {key other : String} (v : Value) (h : other ≠ key) :
    (m.set key v).get? other = m.get? other := by
  induction m with
  | nil =>
    have h' : (other == key) = false := by simp [h]
    simp [set, get?, List.lookup_cons, h']
  | cons head rest ih =>
    obtain ⟨k, w⟩ := head
    by_cases hk : k = key
    · subst hk
      have h' : (other == k) = false := by simp [h]
      simp [set, get?, List.lookup_cons, h']
    · by_cases ho : other = k
      · simp [set, get?, hk, ho]
      · have h' : (other == k) = false := by simp [ho]
        simpa [set, get?, hk, List.lookup_cons, h'] using ih

/-- A later member of the same key replaces the value of an earlier one in its place. -/
def ofPairs (pairs : Members) : Members := pairs.foldl (fun m p => m.set p.1 p.2) []

end Members

end LedgerRules
