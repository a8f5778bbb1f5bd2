import FluxFleet.Calendar
import FluxFleet.Number.Double
import FluxFleet.OrderedMap
import FluxFleet.Text.CodePoint

/-!
# Values: what a document is made of

Templates and clusters come as documents: scalars, sequences and mappings, nested to any depth.
The parts of a document that the library does not interpret are kept as they were written, so
many fields of the model hold a `Value`.

A mapping keeps the order of its keys. Two scalars that are numerically equal are the same key
(`1`, `1.0` and `true`); `Value.same` is that equality, for whole documents.

A part of a document may stand at several places, and even inside itself. A `Mark` tells which parts
are one, and `again` stands where a part comes back inside itself. A value is closed if each `again`
stands inside the part that it names; looking into a value (`items?`, `entries?`) keeps it closed,
since the part is put in the place of each `again` that names it.
-/

namespace FluxFleet

/-- What makes a part of a document known again. -/
inductive Mark where
  /-- nothing: the part is new -/
  | none
  /-- all parts with this number are one -/
  | one (n : Nat)
  /-- likewise, and the part stands inside itself -/
  | loop (n : Nat)
deriving DecidableEq, Repr, Inhabited

namespace Mark

/-- The number of a mark. -/
def number? : Mark → Option Nat
  | .none => Option.none
  | .one n => some n
  | .loop n => some n

end Mark

/-- A value of a document. -/
inductive Value where
  | null
  | bool (b : Bool)
  | int (i : Int)
  | float (x : Double)
  | str (s : String)
  | bytes (bs : List UInt8)
  | date (mark : Mark) (d : Date)
  | moment (mark : Mark) (t : Moment)
  | list (mark : Mark) (items : List Value)
  | tuple (mark : Mark) (items : List Value)
  | set (mark : Mark) (items : List Value)
  | dict (mark : Mark) (entries : List (Value × Value))
  /-- the part around this place that has this number -/
  | again (n : Nat)
deriving Inhabited, Repr

namespace Value

/-- A text as a value. -/
instance : Coe String Value := ⟨Value.str⟩

/-- A new sequence. -/
def ofList (items : List Value) : Value := .list .none items

/-- A new mapping. -/
def ofEntries (entries : List (Value × Value)) : Value := .dict .none entries

/-- A new mapping with text keys. -/
def record (fields : List (String × Value)) : Value :=
  ofEntries (fields.map fun f => (.str f.1, f.2))

/-- The numbers among the scalars: a truth value counts as one or zero. -/
def asInt? : Value → Option Int
  | .bool b => some (if b then 1 else 0)
  | .int i => some i
  | _ => none

mutual

/-- Equality of values: numbers by their numeric value, moments by the time that they name, mappings
and sets without regard to order. -/
def same : Value → Value → Bool
  | .null, .null => true
  | .bool a, .bool b => a == b
  | .bool a, .int i => (if a then 1 else 0) == i
  | .int i, .bool b => i == (if b then 1 else 0)
  | .int a, .int b => a == b
  | .float x, .float y => x.same y
  | .float x, .int i => x.isInt i
  | .int i, .float x => x.isInt i
  | .float x, .bool b => x.isInt (if b then 1 else 0)
  | .bool b, .float x => x.isInt (if b then 1 else 0)
  | .str a, .str b => a == b
  | .bytes a, .bytes b => a == b
  | .date _ a, .date _ b => a == b
  | .moment _ a, .moment _ b => a.same b
  | .list _ a, .list _ b => sameItems a b
  | .tuple _ a, .tuple _ b => sameItems a b
  | .set _ a, .set _ b => a.length == b.length && allFound a b
  | .dict _ a, .dict _ b => a.length == b.length && entriesFound a b
  | .again m, .again n => m == n
  | _, _ => false
termination_by structural a => a

/-- Equality of sequences, item by item. -/
def sameItems : List Value → List Value → Bool
  | [], [] => true
  | a :: as, b :: bs => a.same b && sameItems as bs
  | _, _ => false
termination_by structural as => as

/-- Whether each item has an equal one among the others. -/
def allFound : List Value → List Value → Bool
  | [], _ => true
  | a :: as, bs => bs.any (fun b => a.same b) && allFound as bs
termination_by structural as => as

/-- Whether each entry has an equal one among the others. -/
def entriesFound : List (Value × Value) → List (Value × Value) → Bool
  | [], _ => true
  | (k, v) :: es, bs =>
    bs.any (fun e => k.same e.1 && v.same e.2) && entriesFound es bs
termination_by structural es => es

end

/-- Keys are looked up by `same`. -/
instance : BEq Value := ⟨same⟩

@[simp] theorem beq_eq_same (a b : Value) : (a == b) = a.same b := rfl

@[simp] theorem same_str (a b : String) : (Value.str a).same (Value.str b) = (a == b) := by
  simp [same]

/-- Whether the value counts as given: absent, zero and empty values do not. -/
def truthy : Value → Bool
  | .null => false
  | .bool b => b
  | .int i => i != 0
  | .float x => !x.isZero
  | .str s => !s.isEmpty
  | .bytes bs => !bs.isEmpty
  | .date _ _ => true
  | .moment _ _ => true
  | .list _ items => !items.isEmpty
  | .tuple _ items => !items.isEmpty
  | .set _ items => !items.isEmpty
  | .dict _ entries => !entries.isEmpty
  | .again _ => true

/-- The value itself, or another one when it does not count as given. -/
def orElse (v other : Value) : Value := if v.truthy then v else other

/-- Whether the value is absent. -/
def isNull : Value → Bool
  | .null => true
  | _ => false

theorem isNull_of_truthy {v : Value} (h : v.truthy = true) : v.isNull = false := by
  cases v <;> first | rfl | cases h

/-- Whether the value is a mapping. -/
def isDict : Value → Bool
  | .dict _ _ => true
  | _ => false

/-- A value, with the absent one as `none`. -/
def given? (v : Value) : Option Value := if v.isNull then none else some v

/-- The kind of a value in a message. -/
def kind : Value → String
  | .null => "NoneType"
  | .bool _ => "bool"
  | .int _ => "int"
  | .float _ => "float"
  | .str _ => "str"
  | .bytes _ => "bytes"
  | .date _ _ => "date"
  | .moment _ _ => "datetime"
  | .list _ _ => "list"
  | .tuple _ _ => "tuple"
  | .set _ _ => "set"
  | .dict _ _ => "dict"
  | .again _ => "object"

/-- The kind of a value with the family it belongs to. -/
def qualifiedKind : Value → String
  | .date _ _ => "datetime.date"
  | .moment _ _ => "datetime.datetime"
  | v => v.kind

mutual

/-- The first part of a value that cannot be a key: a sequence, a set or a mapping. -/
def unkeyable? : Value → Option String
  | .list _ _ => some "list"
  | .set _ _ => some "set"
  | .dict _ _ => some "dict"
  | .tuple _ items => unkeyableItem? items
  | _ => none

/-- The first such part among the items of a tuple. -/
def unkeyableItem? : List Value → Option String
  | [] => none
  | v :: vs =>
    match v.unkeyable? with
    | some k => some k
    | none => unkeyableItem? vs

end

/-! ## Looking into a value -/

mutual

/-- The value with `whole` in the place of each `again` that names the part `n`. Parts that do not
stand inside themselves name none but those inside them. -/
def close (n : Nat) (whole : Value) : Value → Value
  | .again k => if k = n then whole else .again k
  | .list (.loop k) items => .list (.loop k) (if k = n then items else closeItems n whole items)
  | .tuple (.loop k) items => .tuple (.loop k) (if k = n then items else closeItems n whole items)
  | .dict (.loop k) entries =>
    .dict (.loop k) (if k = n then entries else closeEntries n whole entries)
  | v => v

/-- The items of a sequence, closed likewise. -/
def closeItems (n : Nat) (whole : Value) : List Value → List Value
  | [] => []
  | v :: vs => close n whole v :: closeItems n whole vs

/-- The entries of a mapping, closed likewise; a key never stands inside itself. -/
def closeEntries (n : Nat) (whole : Value) : List (Value × Value) → List (Value × Value)
  | [] => []
  | (k, v) :: es => (k, close n whole v) :: closeEntries n whole es

end

/-- The items of a part as values by themselves. -/
def inside (whole : Value) (mark : Mark) (items : List Value) : List Value :=
  match mark with
  | .loop n => closeItems n whole items
  | _ => items

/-- The entries of a mapping. -/
def entries? : Value → Option (List (Value × Value))
  | .dict (.loop n) entries => some (closeEntries n (.dict (.loop n) entries) entries)
  | .dict _ entries => some entries
  | _ => none

/-- The items that a value runs through: the characters of a text, the keys of a mapping. -/
def items? : Value → Option (List Value)
  | .str s => some (s.toList.map fun c => .str (String.singleton c))
  | .bytes bs => some (bs.map fun b => .int b.toNat)
  | .list m items => some (inside (.list m items) m items)
  | .tuple m items => some (inside (.tuple m items) m items)
  | .set _ items => some items
  | .dict _ entries => some (entries.map (·.1))
  | _ => none

/-- A collection with the same parts that is new itself. -/
def copy? : Value → Option Value
  | .list m items => some (ofList (inside (.list m items) m items))
  | .set _ items => some (.set .none items)
  | .dict m entries => (entries? (.dict m entries)).map ofEntries
  | _ => none

/-- The order of scalars, where they have one: texts by code point, numbers by value, days and
moments by time. -/
def less? : Value → Value → Option Bool
  | .str a, .str b => some (Text.precedes a b)
  | .float x, .float y => some (x.less y)
  | .float x, v => v.asInt?.map x.lessThanInt
  | v, .float y => v.asInt?.map y.greaterThanInt
  | .bytes a, .bytes b => some (decide (a < b))
  | .date _ a, .date _ b => some (decide (a.iso < b.iso))
  | .moment _ a, .moment _ b =>
    if a.offset.isSome == b.offset.isSome then some (decide (a.instant < b.instant)) else none
  | a, b => do return decide ((← a.asInt?) < (← b.asInt?))

end Value

end FluxFleet
