import FluxFleet.Value.Basic

/-!
# Numbering the parts of a value

A value that is read without marks has each part at one place. `numbered` gives every part a number
of its own, so that a part is known again wherever it is put later.
-/

namespace FluxFleet.Value

mutual

/-- A value with numbered parts, from `next` on, and the next number. -/
def numberedFrom (next : Nat) : Value → Value × Nat
  | .list _ items =>
    let (items, last) := numberedItems (next + 1) items
    (.list (.one next) items, last)
  | .tuple _ items =>
    let (items, last) := numberedItems (next + 1) items
    (.tuple (.one next) items, last)
  | .set _ items => (.set (.one next) items, next + 1)
  | .dict _ entries =>
    let (entries, last) := numberedEntries (next + 1) entries
    (.dict (.one next) entries, last)
  | .date _ d => (.date (.one next) d, next + 1)
  | .moment _ t => (.moment (.one next) t, next + 1)
  | v => (v, next)

/-- Items with numbered parts, and the next number. -/
def numberedItems (next : Nat) : List Value → List Value × Nat
  | [] => ([], next)
  | v :: vs =>
    let (v, next) := numberedFrom next v
    let (vs, next) := numberedItems next vs
    (v :: vs, next)

/-- Entries with numbered parts, and the next number. -/
def numberedEntries (next : Nat) : List (Value × Value) → List (Value × Value) × Nat
  | [] => ([], next)
  | (k, v) :: es =>
    let (v, next) := numberedFrom next v
    let (es, next) := numberedEntries next es
    ((k, v) :: es, next)

end

/-- A value with numbered parts. -/
def numbered (v : Value) : Value := (v.numberedFrom 0).1

end FluxFleet.Value
