import FluxFleet.Yaml.Part
import FluxFleet.Yaml.Token

/-!
# From tokens to parts

The tokens of a document become its parts. A collection in block style ends at its `blockEnd`, but a
sequence whose items stand below a key without further indentation ends at the first token that is
no item. A key or a value may be missing; an empty plain scalar stands in its place. A reference
stands for the part that bears its name as an anchor, even inside that part, and no two parts bear
the same name.
-/

namespace FluxFleet.Yaml

/-- What is left of a document, and what was read of it. -/
structure TokenSource where
  /-- the tokens ahead -/
  tokens : List Token
  /-- what is wrong with the text behind them -/
  fault : Option Fault := none
  /-- what the handles of tags stand for -/
  handles : List (String × String) := []
  /-- the parts with an anchor -/
  anchors : List (String × Nat) := []
  /-- the parts so far -/
  parts : Parts := #[]
  /-- the number of collections around the next part -/
  depth : Nat := 0
  /-- the greatest such number -/
  limit : Nat

/-- Reading parts. -/
abbrev PartReader := StateT TokenSource (Except Fault)

namespace TokenSource

/-- Refuse the tokens. -/
def refuse {α : Type} (reason : String) : PartReader α := throw (.malformed reason)

/-- The next token; a fault comes up when the tokens before it are passed. -/
def peek? : PartReader (Option Token) := do
  let s ← get
  match s.tokens, s.fault with
  | [], some f => throw f
  | ts, _ => return ts.head?

/-- Pass a token. -/
def skip : PartReader Unit := modify fun s => { s with tokens := s.tokens.drop 1 }

/-- Pass the next token if it is this one. -/
def take (t : Token) : PartReader Bool := do
  if (← peek?) == some t then
    skip
    return true
  else return false

/-- Whether the next token is one of these. -/
def isAhead (ts : List Token) : PartReader Bool := do return (← peek?).any ts.contains

/-- The handles that need no directive. -/
def defaultHandles : List (String × String) := [("!", "!"), ("!!", Tag.standard)]

/-- A tag with its handle spelled out. -/
def spelled : Option String → String → PartReader Tag
  | none, text => return text
  | some h, text => do
    match (← get).handles.lookup h with
    | some start => return start ++ text
    | none => refuse "an unknown handle"

/-- Pass an anchor, if one is ahead. -/
def anchor? : PartReader (Option String) := do
  match ← peek? with
  | some (.anchor name) => do
    skip
    return some name
  | _ => return none

/-- Pass a tag, if one is ahead. -/
def tag? : PartReader (Option (Option String × String)) := do
  match ← peek? with
  | some (.tag h text) => do
    skip
    return some (h, text)
  | _ => return none

/-- What may stand before a part: an anchor and a tag, in either order. -/
structure Properties where
  anchor : Option String
  tag : Option Tag

/-- Pass the properties of a part. -/
def properties : PartReader Properties := do
  let first ← anchor?
  let tag ← tag?
  let anchor ← if first.isNone && tag.isSome then anchor? else pure first
  match tag with
  | some (h, text) => return { anchor, tag := some (← spelled h text) }
  | none => return { anchor, tag := none }

/-- The tag of a scalar: its own one, or the tag of its text if it is plain or its own tag says
nothing. -/
def scalarTag (own : Option Tag) (text : String) (plain : Bool) : Tag :=
  match own with
  | none => if plain then Tag.ofPlain text else Tag.str
  | some t => if t == "!" then Tag.ofPlain text else t

/-- The tag of a collection: its own one unless that says nothing. -/
def collectionTag (own : Option Tag) (usual : Tag) : Tag :=
  match own with
  | none => usual
  | some t => if t == "!" then usual else t

/-- Add a part. -/
def add (p : Part) : PartReader Nat :=
  modifyGet fun s => (s.parts.size, { s with parts := s.parts.push p })

/-- Add a part with its name, if it has one. -/
def addNamed (name : Option String) (p : Part) : PartReader Nat := do
  let n ← add p
  if let some name := name then
    if ((← get).anchors.lookup name).isSome then refuse "two parts have the same anchor"
    modify fun s => { s with anchors := (name, n) :: s.anchors }
  return n

/-- The part that stands in for a missing one. -/
def missing : PartReader Nat := add (.scalar Tag.null "")

/-- Read what is inside a collection, and fill it in. -/
def fill (n : Nat) (read : PartReader Part) : PartReader Nat := do
  let s ← get
  let depth := s.depth
  if s.limit ≤ depth then throw (.unusable .depth)
  modify fun s => { s with depth := depth + 1 }
  let p ← read
  modify fun s => { s with depth, parts := s.parts.put n p }
  return n

/-- Where a part stands: which collections may start there. -/
inductive Place where
  /-- anywhere in block style -/
  | block
  /-- below a key, where items need no indentation -/
  | entry
  /-- inside brackets -/
  | flow
deriving DecidableEq, Repr

mutual

/-- A part; each call passes a token or is followed by one that does, so that `fuel` suffices if it
is greater than four times the number of tokens. -/
def part (place : Place) : Nat → PartReader Nat
  | 0 => refuse "the document is too deep"
  | fuel + 1 => do
    if let some (.reference name) ← peek? then
      skip
      match (← get).anchors.lookup name with
      | some n => return n
      | none => refuse "an unknown reference"
    let p ← properties
    let sequence (items : PartReader (List Nat)) : PartReader Nat := do
      let tag := collectionTag p.tag Tag.seq
      fill (← addNamed p.anchor (.sequence tag [])) do return .sequence tag (← items)
    let mapping (entries : PartReader (List (Nat × Nat))) : PartReader Nat := do
      let tag := collectionTag p.tag Tag.map
      fill (← addNamed p.anchor (.mapping tag [])) do return .mapping tag (← entries)
    match ← peek? with
    | some (.scalar text plain) => do
      skip
      addNamed p.anchor (.scalar (scalarTag p.tag text plain) text)
    | some .flowSequence => sequence do
      skip
      flowItems true fuel
    | some .flowMapping => mapping do
      skip
      flowEntries true fuel
    | some .blockSequence =>
      if place = .flow then bare p
      else sequence do
        skip
        blockItems fuel
    | some .blockMapping =>
      if place = .flow then bare p
      else mapping do
        skip
        blockEntries fuel
    | some .item =>
      if place = .entry then sequence (looseItems fuel) else bare p
    | _ => bare p
where
  /-- a part that consists of its properties alone -/
  bare (p : Properties) : PartReader Nat :=
    if p.anchor.isSome || p.tag.isSome then
      addNamed p.anchor (.scalar (scalarTag p.tag "" true) "")
    else refuse "expected a part"

/-- A part, or the one that stands in when one of these tokens is ahead. -/
def partUnless (ends : List Token) (place : Place) : Nat → PartReader Nat
  | 0 => refuse "the document is too deep"
  | fuel + 1 => do
    if ← isAhead ends then missing else part place fuel

/-- The items of a sequence in block style, up to its end. -/
def blockItems : Nat → PartReader (List Nat)
  | 0 => refuse "the document is too deep"
  | fuel + 1 => do
    if ← take .item then
      let n ← partUnless [.item, .blockEnd] .block fuel
      return n :: (← blockItems fuel)
    else if ← take .blockEnd then return []
    else refuse "expected the end of a sequence"

/-- The items of a sequence that is not indented further than its key. -/
def looseItems : Nat → PartReader (List Nat)
  | 0 => refuse "the document is too deep"
  | fuel + 1 => do
    if ← take .item then
      let n ← partUnless [.item, .key, .value, .blockEnd] .block fuel
      return n :: (← looseItems fuel)
    else return []

/-- The entries of a mapping in block style, up to its end. -/
def blockEntries : Nat → PartReader (List (Nat × Nat))
  | 0 => refuse "the document is too deep"
  | fuel + 1 => do
    if ← take .key then
      let k ← partUnless [.key, .value, .blockEnd] .entry fuel
      let v ← blockValue fuel
      return (k, v) :: (← blockEntries fuel)
    else if ← take .blockEnd then return []
    else refuse "expected the end of a mapping"

/-- The value of an entry in block style. -/
def blockValue : Nat → PartReader Nat
  | 0 => refuse "the document is too deep"
  | fuel + 1 => do
    if ← take .value then partUnless [.key, .value, .blockEnd] .entry fuel else missing

/-- The items of a sequence in brackets: a part, or an entry that is a mapping by itself. -/
def flowItems (first : Bool) : Nat → PartReader (List Nat)
  | 0 => refuse "the document is too deep"
  | fuel + 1 => do
    if ← take .flowSequenceEnd then return []
    if !first then
      if !(← take .comma) then refuse "expected a comma or the end of a sequence"
    if ← take .key then
      let n ← fill (← add (.mapping Tag.map [])) do
        let k ← partUnless [.value, .comma, .flowSequenceEnd] .flow fuel
        let v ← flowValue .flowSequenceEnd fuel
        return .mapping Tag.map [(k, v)]
      return n :: (← flowItems false fuel)
    else if ← take .flowSequenceEnd then return []
    else
      let n ← part .flow fuel
      return n :: (← flowItems false fuel)

/-- The entries of a mapping in brackets. -/
def flowEntries (first : Bool) : Nat → PartReader (List (Nat × Nat))
  | 0 => refuse "the document is too deep"
  | fuel + 1 => do
    if ← take .flowMappingEnd then return []
    if !first then
      if !(← take .comma) then refuse "expected a comma or the end of a mapping"
    if ← take .key then
      let k ← partUnless [.value, .comma, .flowMappingEnd] .flow fuel
      let v ← flowValue .flowMappingEnd fuel
      return (k, v) :: (← flowEntries false fuel)
    else if ← take .flowMappingEnd then return []
    else
      let k ← part .flow fuel
      let v ← missing
      return (k, v) :: (← flowEntries false fuel)

/-- The value of an entry in brackets that end with this token. -/
def flowValue (closing : Token) : Nat → PartReader Nat
  | 0 => refuse "the document is too deep"
  | fuel + 1 => do
    if ← take .value then partUnless [.comma, closing] .flow fuel else missing

end

/-! ## Documents -/

/-- Pass the directives before a document; `seen` says whether the version was among them. `fuel`
bounds their number. -/
def directives (seen : Bool) (declared : List (String × String)) :
    Nat → PartReader (List (String × String))
  | 0 => refuse "too many directives"
  | fuel + 1 => do
    match ← peek? with
    | some (.directive (.version major)) => do
      skip
      if seen then refuse "two versions"
      if major ≠ 1 then refuse "an unknown version"
      directives true declared fuel
    | some (.directive (.handle h start)) => do
      skip
      if (declared.lookup h).isSome then refuse "two directives for a handle"
      directives seen (declared ++ [(h, start)]) fuel
    | some (.directive .other) => do
      skip
      directives seen declared fuel
    | _ => return declared ++ defaultHandles

/-- Pass the directives of a document and the mark of its start. -/
def start (fuel : Nat) : PartReader Unit := do
  let handles ← directives false [] fuel
  if !(← take .documentStart) then refuse "expected the start of a document"
  modify fun s => { s with handles }

/-- Whether a token starts a document by itself. -/
def startsDocument : Token → Bool
  | .directive _ | .documentStart => true
  | _ => false

/-- Whether an empty document ends at a token. -/
def endsDocument (t : Token) : Bool := startsDocument t || t == .documentEnd

/-- Pass the marks of the end of a document. -/
def skipEnds : Nat → PartReader Unit
  | 0 => return
  | fuel + 1 => do if ← take .documentEnd then skipEnds fuel

/-- Refuse a second document. -/
def finish (fuel : Nat) : PartReader Unit := do
  skipEnds fuel
  if (← peek?).isSome then
    start fuel
    refuse "expected a single document"

/-- The root of the only document, if there is one. -/
def document? (fuel : Nat) : PartReader (Option Nat) := do
  match ← peek? with
  | none => return none
  | some t => do
    if startsDocument t then start fuel else modify fun s => { s with handles := defaultHandles }
    let root ← if startsDocument t && (← peek?).all endsDocument then missing
      else part .block fuel
    finish fuel
    return some root

end TokenSource

/-- The parts of the only document of a row of tokens with its root, if there is one; `fault` is
what is wrong with the text behind the tokens, and `limit` how many collections may stand around a
part. -/
def Parts.ofTokens? (limit : Nat) (ts : List Token) (fault : Option Fault) :
    Except Fault (Option (Parts × Nat)) := do
  let (root, s) ← (TokenSource.document? (4 * ts.length + 4)).run { tokens := ts, fault, limit }
  return root.map fun n => (s.parts, n)

end FluxFleet.Yaml
