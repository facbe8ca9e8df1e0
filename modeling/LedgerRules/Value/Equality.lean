import LedgerRules.Value.Basic

/-! Equality of values. At the top two values are equal only if they are of one kind, numbers of any
sort being one kind. Inside lists and maps equality is looser: truth values count as the numbers 0
and 1, and a binary number counts as its exact value. A signaling not-a-number cannot be compared
at all. -/

namespace LedgerRules
open Numeric Calendar

inductive EqualityFault
  | signaling
deriving DecidableEq

namespace Value

def decimalEquals (a b : Decimal) : Except EqualityFault Bool :=
  if a.isSignaling || b.isSignaling then .error .signaling
  else .ok (a.order? b == some .eq)

def exactNumber? : Value → Option Decimal
  | bool b => some (.ofInt (if b then 1 else 0))
  | int i => some (.ofInt i)
  | float x => some x.exact
  | decimal d => some d
  | _ => none

mutual

def itemEquals : Value → Value → Except EqualityFault Bool
  | null, null => .ok true
  | text s, text t => .ok (s = t)
  | date d, date e => .ok (d = e)
  | moment t, moment u => .ok (t.same u)
  | list xs, list ys => if xs.length = ys.length then itemsEqual xs ys else .ok false
  | map xs, map ys => if xs.length = ys.length then membersEqual xs ys else .ok false
  | v, w =>
    match v.exactNumber?, w.exactNumber? with
    | some a, some b => decimalEquals a b
    | _, _ => .ok false

def itemsEqual : List Value → List Value → Except EqualityFault Bool
  | [], _ => .ok true
  | _ :: _, [] => .ok true
  | v :: vs, w :: ws =>
    match itemEquals v w with
    | .ok true => itemsEqual vs ws
    | other => other

def membersEqual : List (String × Value) → List (String × Value) → Except EqualityFault Bool
  | [], _ => .ok true
  | (k, v) :: rest, ys =>
    match ys.lookup k with
    | none => .ok false
    | some w =>
      match itemEquals v w with
      | .ok true => membersEqual rest ys
      | other => other

end

def strictEquals (v w : Value) : Except EqualityFault Bool :=
  match v.number?, w.number? with
  | some a, some b => decimalEquals a b
  | _, _ =>
    match v, w with
    | bool a, bool b => .ok (a = b)
    | null, null => .ok true
    | text s, text t => .ok (s = t)
    | date d, date e => .ok (d = e)
    | moment t, moment u => .ok (t.same u)
    | list xs, list ys => itemEquals (list xs) (list ys)
    | map xs, map ys => itemEquals (map xs) (map ys)
    | _, _ => .ok false

theorem strictEquals_numbers {v w : Value} {a b : Decimal} (ha : v.number? = some a)
    (hb : w.number? = some b) : v.strictEquals w = decimalEquals a b := by
  unfold strictEquals
  rw [ha, hb]

end Value

end LedgerRules
