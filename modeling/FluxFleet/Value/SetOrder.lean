import FluxFleet.Value.Basic

/-!
# The order of a set

The members of a set stand in the places of a table, and the set is walked place by place. A number
has a residue, which says where it goes; numbers that are equal have the same residue. If the place
is taken, a few places behind it are tried, then other places that depend on more and more of the
residue.

For members that are not numbers no order is fixed; such a set keeps the order in which it is
written.
-/

namespace FluxFleet.Value

/-- The modulus of residues, a prime number. -/
def residueModulus : Nat := 2305843009213693951

/-- The residue of a magnitude with a sign; `-1` is not used for one. -/
def signedResidue (negative : Bool) (n : Nat) : Int :=
  let r : Int := n % residueModulus
  if negative then (if r == 1 then -2 else -r) else r

/-- The residue of a number. Modulo a Mersenne number a power of two depends on its exponent modulo
the length of that number. -/
def residue? : Value → Option Int
  | .bool b => some (if b then 1 else 0)
  | .int i => some (signedResidue (decide (i < 0)) i.natAbs)
  | .float x =>
    match x.parts with
    | .finite negative m e => some (signedResidue negative (m * twoTo (e % 61).toNat))
    | .infinite negative => some (signedResidue negative 314159)
    | .nan => none
  | _ => none

/-- The number of places for a set that is filled at once: a power of two. -/
def tableSize (members : Nat) : Nat :=
  if members < 5 then 8 else twoTo ((2 * members).log2 + 1)

/-- How many places behind a place are tried with it. -/
def neighbours : Nat := 9

/-- The place for a new member, found in at most `fuel` rounds of a search that is at place `i`;
`rest` is the part of the residue that has not been used yet. -/
def freePlace (table : Array (Option Value)) : Nat → Nat → Nat → Nat
  | 0, i, _ => i
  | fuel + 1, i, rest =>
    let tried := if i + neighbours < table.size then neighbours + 1 else 1
    match (List.range tried).find? fun j => (table.getD (i + j) none).isNone with
    | some j => i + j
    | none => freePlace table fuel ((5 * i + 1 + rest / 32) % table.size) (rest / 32)

/-- Put a member with its residue into a table. The search takes up all of the residue in thirteen
rounds, and from then on it comes to each place. -/
def placed (table : Array (Option Value)) (member : Value × Int) : Array (Option Value) :=
  let residue := (member.2 % (twoTo 64 : Int)).toNat
  table.setIfInBounds (freePlace table (13 + table.size) (residue % table.size) residue)
    (some member.1)

/-- Members in the order in which a set is walked. -/
def setOrder (members : List Value) : List Value :=
  match members.mapM fun v => (residue? v).map fun r => (v, r) with
  | none => members
  | some numbers =>
    let empty : Array (Option Value) := Array.replicate (tableSize members.length) none
    (numbers.foldl placed empty).toList.filterMap id

end FluxFleet.Value
