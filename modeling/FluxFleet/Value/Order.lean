import FluxFleet.Value.Basic

/-!
# Sorting by values

Things are sorted by a value of theirs, as far as these values can be compared. Equal ones keep
their order.
-/

namespace FluxFleet.Value

/-- Put a thing behind all that are not greater. -/
def insertBy {α : Type} (key : α → Value) (a : α) : List α → Except (Value × Value) (List α)
  | [] => return [a]
  | b :: bs =>
    match (key a).less? (key b) with
    | some true => return a :: b :: bs
    | some false => do return b :: (← insertBy key a bs)
    | none => throw (key a, key b)

/-- The things in ascending order, or two values that cannot be compared. -/
def sortBy {α : Type} (key : α → Value) (items : List α) : Except (Value × Value) (List α) :=
  items.foldlM (fun acc a => insertBy key a acc) []

end FluxFleet.Value
