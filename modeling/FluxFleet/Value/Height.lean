import FluxFleet.Value.Basic

/-!
# Heights

How deep collections are nested. A walk that keeps its place on a stack comes to its end in a value
that is too high for it, and in a part that stands inside itself. How high a value may be is up to
the interpreter, and to what is on its stack already, so it is a parameter of what is done with
documents (`Stack`).
-/

namespace FluxFleet

/-- Which collections a walk goes into. -/
inductive Walk where
  /-- sequences only -/
  | rows
  /-- sequences and mappings -/
  | whole
deriving DecidableEq, Repr

theorem roomy_default : 8 ≤ 494 ∧ 8 ≤ 985 ∧ 8 ≤ 326 := by decide

/-- How high values may be before the stack is full. An interpreter with room for a thousand calls
comes about as far as the numbers here say. -/
structure Stack where
  /-- sequences around a part when the documents of a row are made plain -/
  rows : Nat := 494
  /-- collections around a part when JSON is written -/
  json : Nat := 985
  /-- nodes on the way down when YAML is written -/
  yaml : Nat := 326
  /-- collections around a part when YAML is read -/
  reading : Nat := 482
  /-- collections around a part when variables are put in -/
  texts : Nat := 494
  /-- the documents that are made here are low enough -/
  roomy : 8 ≤ rows ∧ 8 ≤ json ∧ 8 ≤ yaml := by first | exact roomy_default | decide
deriving Repr

namespace Value

mutual

/-- The greatest number of collections around a part of a value, as far as a walk goes into it; a
scalar has none. -/
def height (walk : Walk) : Value → Nat
  | .list _ items => heightOfItems walk items + 1
  | .tuple _ items => heightOfItems walk items + 1
  | .dict _ entries =>
    match walk with
    | .rows => 0
    | .whole => heightOfEntries walk entries + 1
  | _ => 0

/-- The greatest height of items. -/
def heightOfItems (walk : Walk) : List Value → Nat
  | [] => 0
  | v :: vs => max (v.height walk) (heightOfItems walk vs)

/-- The greatest height of the values of entries. -/
def heightOfEntries (walk : Walk) : List (Value × Value) → Nat
  | [] => 0
  | (_, v) :: es => max (v.height walk) (heightOfEntries walk es)

end

mutual

/-- Whether a walk comes back to a part that it is inside of. -/
def isEndless (walk : Walk) : Value → Bool
  | .list _ items => areEndless walk items
  | .tuple _ items => areEndless walk items
  | .dict _ entries =>
    match walk with
    | .rows => false
    | .whole => areEntriesEndless walk entries
  | .again _ => true
  | _ => false

/-- Whether a walk comes back from one of the items. -/
def areEndless (walk : Walk) : List Value → Bool
  | [] => false
  | v :: vs => v.isEndless walk || areEndless walk vs

/-- Whether a walk comes back from the value of an entry. -/
def areEntriesEndless (walk : Walk) : List (Value × Value) → Bool
  | [] => false
  | (_, v) :: es => v.isEndless walk || areEntriesEndless walk es

end

/-- Whether a walk comes to its end in a value with no more than so many collections around each
other. -/
def isWithin (walk : Walk) (limit : Nat) (v : Value) : Bool :=
  !v.isEndless walk && decide (v.height walk ≤ limit)

end Value

end FluxFleet
