/-! Mapping a function over items on several workers. Items are handed out in order, at most so many
at once; whenever some are done as many new ones are handed out. Which of those under way are done
next is up to a schedule. The results stand in the order of the items, and the first failure that is
seen ends the map. -/

namespace LedgerRules.ParallelMap

abbrev Schedule := Nat → List Nat → List Nat

structure Progress (α β : Type) where
  waiting : List (α × Nat)
  pending : List (α × Nat)
  results : List (Nat × β)

namespace Progress

def start {α β : Type} (items : List α) : Progress α β := ⟨items.zipIdx, [], []⟩

def handOut {α β : Type} (count : Nat) (p : Progress α β) : Progress α β :=
  { p with
    waiting := p.waiting.drop count
    pending := p.pending ++ p.waiting.take count }

def collect {α β ε : Type} (f : α → Except ε β) (position : Nat) (p : Progress α β) :
    Except ε (Progress α β) :=
  match p.pending.find? (·.2 = position) with
  | none => .ok p
  | some item =>
    match f item.1 with
    | .error e => .error e
    | .ok b =>
      .ok { p with
        pending := p.pending.filter (·.2 ≠ position)
        results := p.results ++ [(position, b)] }

def collectAll {α β ε : Type} (f : α → Except ε β) (positions : List Nat) (p : Progress α β) :
    Except ε (Progress α β) :=
  positions.foldlM (fun p position => p.collect f position) p

def ordered {α β : Type} (p : Progress α β) : List β :=
  (List.range p.results.length).filterMap fun position => p.results.lookup position

theorem handOut_zero {α β : Type} (p : Progress α β) : p.handOut 0 = p := by
  simp [handOut]

end Progress

inductive Failure (ε : Type)
  | concurrency
  | item (e : ε)
  | stalled
deriving DecidableEq

def concurrencyMessage : String := "concurrency must be a positive integer"

def rounds {α β ε : Type} (f : α → Except ε β) (schedule : Schedule) :
    (fuel : Nat) → Progress α β → Except (Failure ε) (List β)
  | 0, p => if p.pending.isEmpty then .ok p.ordered else .error .stalled
  | fuel + 1, p =>
    if p.pending.isEmpty then .ok p.ordered
    else
      let done := schedule fuel (p.pending.map (·.2))
      match p.collectAll f done with
      | .error e => .error (.item e)
      | .ok p => rounds f schedule fuel (p.handOut done.length)

def run {α β ε : Type} (f : α → Except ε β) (schedule : Schedule) (concurrency : Int)
    (items : List α) : Except (Failure ε) (List β) :=
  if concurrency < 1 then .error .concurrency
  else rounds f schedule items.length ((Progress.start items).handOut concurrency.toNat)

def inOrder : Schedule := fun _ pending => pending.take 1

end LedgerRules.ParallelMap
