import FluxFleet.Yaml.Part
import FluxFleet.Yaml.Scalar
import FluxFleet.Value.SetOrder

/-!
# From parts to values

In a mapping the last value of a key stays, and a key must be a scalar; a key `<<` takes over the
entries of another mapping, or of several ones, the first of them being the strongest, unless the
mapping has them itself. A part that stands at several places is made once and has one value.

Collections are made in the order in which they are first met (`Making`): the parts of one are met
when its turn comes, so that of several faults the one that stands less deep is found first. What is
made is a `Content`, which still names the collections in it by number. At last `Tie` puts each
collection in its places. A collection that stands inside itself is marked as a loop.
-/

namespace FluxFleet.Yaml

/-! ## Contents -/

/-- What a part becomes: a scalar has its value at once, a collection is named by its number. -/
inductive Made where
  | value (v : Value)
  | collection (n : Nat)
deriving Repr, Inhabited

/-- What a collection holds. -/
inductive Content where
  | list (items : List Made)
  /-- pairs, which are numbered from `number` on -/
  | pairs (number : Nat) (items : List (Made × Made))
  | set (members : List Value)
  | dict (entries : List (Value × Made))
deriving Repr, Inhabited

/-- What is known while the parts of a document are made. -/
structure Making where
  parts : Parts
  /-- the parts that are made, by number -/
  made : Array (Option Made)
  /-- the collections whose turn is still to come -/
  waiting : List Nat := []
  /-- what collections hold, by number -/
  contents : Array (Option Content)
  /-- the number of the first part among all parts of all documents -/
  first : Nat
  /-- the next free number -/
  next : Nat
  /-- how many keys `<<` the document has -/
  merges : Nat

/-- Making values. -/
abbrev Make := StateT Making (Except Fault)

namespace Make

/-- Refuse the document. -/
def refuse {α : Type} (reason : String) : Make α := throw (.malformed reason)

/-- The part with a number. -/
def part (n : Nat) : Make Part := do return (← get).parts.nth n

/-- Change a part. -/
def change (n : Nat) (f : Part → Part) : Make Unit :=
  modify fun s => { s with parts := s.parts.put n (f (s.parts.nth n)) }

/-- The text of a scalar; a mapping may have one under the key `=`. A mapping that leads back to
itself has none, and `fuel` runs out. -/
def scalarText : Nat → Nat → Make String
  | 0, _ => throw (.unusable .depth)
  | fuel + 1, n => do
    match ← part n with
    | .scalar _ text => return text
    | .sequence _ _ => refuse "expected a scalar"
    | .mapping _ entries =>
      match ← entries.findM? fun e => do return (← part e.1).tag == Tag.value with
      | some (_, v) => scalarText fuel v
      | none => refuse "expected a scalar"

/-- Read the keys `=` among entries as texts. -/
def retag (entries : List (Nat × Nat)) : Make Unit :=
  for (k, _) in entries do
    if (← part k).tag == Tag.value then change k (Part.withTag Tag.str)

mutual

/-- Put the entries that a mapping takes over in front of its own. Each step takes one key `<<` away
for good, so `fuel` suffices if it is greater than their number. -/
def flatten : Nat → Nat → Make Unit
  | 0, _ => return
  | fuel + 1, n => do
    let taken ← takeOver fuel n
    change n fun
      | .mapping t entries => .mapping t (taken ++ entries)
      | p => p

/-- Take the keys `<<` out of a mapping, and return the entries that they stand for. -/
def takeOver : Nat → Nat → Make (List (Nat × Nat))
  | 0, _ => return []
  | fuel + 1, n => do
    let entries := (← part n).entries
    let tags ← entries.mapM fun e => do return (← part e.1).tag
    match tags.findIdx? (· == Tag.merge) with
    | none => do
      retag entries
      return []
    | some i => do
      retag (entries.take i)
      change n fun
        | .mapping t _ => .mapping t (entries.eraseIdx i)
        | p => p
      let source := (entries.map (·.2))[i]?.getD n
      let added ← match ← part source with
        | .mapping _ _ => takeFrom fuel source
        | .sequence _ items => do
          let each ← items.mapM (takeFrom fuel)
          pure each.reverse.flatten
        | .scalar _ _ => refuse "expected a mapping to take over"
      return added ++ (← takeOver fuel n)

/-- The entries of a mapping that is taken over. -/
def takeFrom : Nat → Nat → Make (List (Nat × Nat))
  | 0, _ => return []
  | fuel + 1, n => do
    match ← part n with
    | .mapping _ _ => do
      flatten fuel n
      return (← part n).entries
    | _ => refuse "expected a mapping to take over"

end

/-- The value of a scalar. -/
def scalar (n : Nat) (p : Part) : Make Value := do
  let s ← get
  let text ← scalarText (s.parts.size + 1) n
  match p with
  | .mapping _ _ =>
    if p.tag == Tag.timestamp then throw (.unusable (.wrongArgument "expected a text"))
  | _ => pure ()
  match Scalar.value (s.first + n) p.tag text with
  | .ok v => return v
  | .error f => throw f

/-- The tags of collections. -/
def collectionTags : List Tag := [Tag.seq, Tag.map, Tag.set, Tag.omap, Tag.pairs]

/-- What a part becomes. A collection that is met for the first time waits for its turn. -/
def make (n : Nat) : Make Made := do
  match ((← get).made.getD n none) with
  | some m => return m
  | none => do
    let p ← part n
    let m ←
      if Scalar.tags.contains p.tag then Made.value <$> scalar n p
      else if collectionTags.contains p.tag then do
        modify fun s => { s with waiting := n :: s.waiting }
        pure (.collection n)
      else refuse s!"no value has the tag {p.tag}"
    modify fun s => { s with made := s.made.setIfInBounds n (some m) }
    return m

/-- The entries of a mapping. -/
def mapping (n : Nat) : Make (List (Value × Made)) := do
  let s ← get
  match s.parts.nth n with
  | .mapping _ _ => flatten (3 * s.merges + 3) n
  | _ => refuse "expected a mapping"
  (← part n).entries.foldlM (fun done e => do
    match ← make e.1 with
    | .collection _ => refuse "a collection cannot be a key"
    | .value k => return OrderedMap.put k (← make e.2) done) []

/-- What stands for a mapping with one entry in a row of pairs. -/
def pair (n : Nat) : Make (Made × Made) := do
  match ← part n with
  | .mapping _ [(k, v)] => do
    let key ← make k
    return (key, ← make v)
  | _ => refuse "expected a mapping with one entry"

/-- What a collection holds. -/
def content (n : Nat) : Make Content := do
  let p ← part n
  if p.tag == Tag.map then Content.dict <$> mapping n
  else if p.tag == Tag.set then do return .set (Value.setOrder ((← mapping n).map (·.1)))
  else match p with
    | .sequence _ items =>
      if p.tag == Tag.seq then Content.list <$> items.mapM make
      else do
        let pairs ← items.mapM pair
        let s ← get
        set { s with next := s.next + pairs.length }
        return .pairs s.next pairs
    | _ => refuse "expected a sequence"

/-- Give each of these collections its turn. -/
def turns (ns : List Nat) : Make Unit :=
  for n in ns do
    let c ← content n
    modify fun s => { s with contents := s.contents.setIfInBounds n (some c) }

/-- Give each waiting collection its turn, until none waits; `fuel` bounds the depth. -/
def rounds : Nat → Make Unit
  | 0 => return
  | fuel + 1 => do
    let waiting := (← get).waiting
    if waiting.isEmpty then return
    modify fun s => { s with waiting := [] }
    turns waiting.reverse
    rounds fuel

end Make

/-! ## Tying -/

/-- A value that is tied, and how far out the collections go that it comes back to: the least number
of collections around one of them, none if there is none around the value. -/
structure Tied where
  value : Value
  outermost : Option Nat := none
  /-- whether the value stands inside itself -/
  loops : Bool := false
deriving Repr, Inhabited

/-- What is known while collections are put in their places. -/
structure Tying where
  contents : Array (Option Content)
  first : Nat
  /-- the values of collections that do not stand inside themselves, by number -/
  closed : Array (Option Value)

/-- Putting collections in their places. -/
abbrev Tie := StateM Tying

namespace Tie

/-- The lesser of two, where absence is the greatest. -/
def least (a b : Option Nat) : Option Nat :=
  match a, b with
  | some m, some n => some (min m n)
  | none, b => b
  | a, none => a

/-- The mark of a collection: one that comes back to itself, or to something around it, stands
inside itself. -/
def markOf (number : Nat) (outermost : Option Nat) : Mark :=
  if outermost.isSome then .loop number else .one number

/-- Tie the parts of a collection in turn; `known` are those that stand inside themselves. -/
def each (tie : Nat → Tie Tied) (known : List (Nat × Tied)) : List Made → Tie (List Tied)
  | [] => return []
  | .value v :: ms => do return { value := v } :: (← each tie known ms)
  | .collection n :: ms => do
    match known.lookup n with
    | some t => return t :: (← each tie known ms)
    | none =>
      let t ← tie n
      let known := if t.loops then (n, t) :: known else known
      return t :: (← each tie known ms)

/-- How far out the collections go that values come back to. -/
def outermost (ts : List Tied) : Option Nat := ts.foldl (fun m t => least m t.outermost) none

/-- Pairs as tuples, from the keys and values in turn. -/
def tuples (number : Nat) : List Tied → List Tied
  | k :: v :: rest =>
    let far := outermost [k, v]
    let tuple : Value := .tuple (markOf number far) [k.value, v.value]
    { value := tuple, outermost := far, loops := far.isSome } :: tuples (number + 1) rest
  | _ => []

/-- The value of a collection; `around` are the numbers of the collections around it, the nearest
first. No collection comes twice in a row of nested ones, so `fuel` suffices if it is greater than
the number of parts. -/
def collection (around : List Nat) : Nat → Nat → Tie Tied
  | 0, _ => return { value := .null }
  | fuel + 1, n => do
    let number := (← get).first + n
    if around.contains n then
      return { value := .again number, loops := true
               outermost := some (around.length - 1 - around.idxOf n) }
    match (← get).closed.getD n none with
    | some v => return { value := v }
    | none =>
      let depth := around.length
      let parts (ms : List Made) : Tie (List Tied) := each (collection (n :: around) fuel) [] ms
      let finish (far : Option Nat) (make : Mark → Value) : Tie Tied := do
        let v := make (markOf number far)
        if far.isNone then modify fun s => { s with closed := s.closed.setIfInBounds n (some v) }
        return { value := v, outermost := far.filter (· < depth), loops := far.isSome }
      match ((← get).contents.getD n none).getD (.list []) with
      | .list items => do
        let ts ← parts items
        finish (outermost ts) fun m => .list m (ts.map (·.value))
      | .pairs number items => do
        let ts := tuples number (← parts (items.flatMap fun p => [p.1, p.2]))
        finish (outermost ts) fun m => .list m (ts.map (·.value))
      | .set members => finish none fun m => .set m members
      | .dict entries => do
        let ts ← parts (entries.map (·.2))
        finish (outermost ts) fun m =>
          .dict m ((entries.zip ts).map fun (e, t) => (e.1, t.value))

end Tie

/-! ## Documents -/

/-- The number of keys `<<` in a document. -/
def Parts.merges (ps : Parts) : Nat :=
  ps.foldl (fun n p =>
    n + (p.entries.filter fun e => (ps.nth e.1).tag == Tag.merge).length) 0

/-- The value of the part `root`, and the next number that no part has. -/
def Parts.value (ps : Parts) (root first : Nat) : Except Fault (Value × Nat) := do
  let start : Making :=
    { parts := ps, made := Array.replicate ps.size none, contents := Array.replicate ps.size none
      first, next := first + ps.size, merges := ps.merges }
  let make : Make Made := do
    let m ← Make.make root
    Make.rounds (ps.size + 1)
    return m
  let (m, s) ← make.run start
  match m with
  | .value v => return (v, s.next)
  | .collection n =>
    let (t, _) := (Tie.collection [] (ps.size + 1) n).run
      { contents := s.contents, first, closed := Array.replicate ps.size none }
    return (t.value, s.next)

end FluxFleet.Yaml
