import FluxFleet.Yaml.Cursor

/-!
# Block scalars

A block scalar is the indented lines below its header. In a literal one every line break is kept; in
a folded one a single line break between two lines of text becomes a space. The header may say how
far the lines are indented and what becomes of the line breaks at the end.
-/

namespace FluxFleet.Yaml.Block

/-- What becomes of the line breaks at the end. -/
inductive Ending where
  /-- one stays -/
  | clip
  /-- none stays -/
  | strip
  /-- all stay -/
  | keep
deriving DecidableEq, Repr

/-- The header of a block scalar. -/
structure Header where
  ending : Ending := .clip
  /-- how much further than the collection around it the lines are indented -/
  increment : Option Nat := none
deriving DecidableEq, Repr

/-- The ending that a sign asks for. -/
def endingOf? : Char → Option Ending
  | '+' => some .keep
  | '-' => some .strip
  | _ => none

/-- The sign of a header, if one is ahead. -/
def ending : Scan (Option Ending) := do
  match (← Scan.ahead).head?.bind endingOf? with
  | some e => do
    Scan.skip 1
    return some e
  | none => return none

/-- The digit of a header, if one is ahead. -/
def increment : Scan (Option Nat) := do
  match ← Scan.ahead with
  | c :: _ =>
    if c == '0' then Scan.refuse "expected an indentation from 1 to 9"
    else if c.isDigit then do
      Scan.skip 1
      return some (c.toNat - '0'.toNat)
    else return none
  | [] => return none

/-- The header, with sign and digit in either order, and the rest of its line. -/
def header : Scan Header := do
  let first ← ending
  let digit ← increment
  let second ← if first.isNone && digit.isSome then ending else pure none
  if !atWordEnd (← Scan.ahead) then Scan.refuse "expected the end of a header"
  Scan.endOfLine
  return { ending := (first.orElse fun _ => second).getD .clip, increment := digit }

/-- The empty lines at the start, and the furthest column of their spaces. -/
def leading (furthest : Nat) : Nat → Scan (List Char × Nat)
  | 0 => return ([], furthest)
  | fuel + 1 => do
    Scan.skipSpaces
    let furthest := max furthest (← get).column
    match ← Scan.lineBreak with
    | [] => return ([], furthest)
    | b =>
      let (rest, furthest) ← leading furthest fuel
      return (b ++ rest, furthest)

/-- Pass spaces up to a column. -/
def skipTo (column : Nat) : Scan Unit := do
  let spaces := (← Scan.ahead).takeWhile (· == ' ')
  Scan.skip (min spaces.length (column - (← get).column))

/-- Empty lines, and the indentation of the line behind them. -/
def breaks (column : Nat) : Nat → Scan (List Char)
  | 0 => return []
  | fuel + 1 => do
    skipTo column
    match ← Scan.lineBreak with
    | [] => return []
    | b => return b ++ (← breaks column fuel)

/-- Whether a text starts with a space or a tab. -/
def startsSpaced (text : List Char) : Bool := text.head?.any isSpacing

/-- The line break between two lines of text, as it is kept. -/
def joint (folded : Bool) (b empty : List Char) (spaced : Bool) : List Char :=
  if folded && b == ['\n'] && !spaced then (if empty.isEmpty then [' '] else []) else b

/-- The lines from here on: `acc` is the text so far, the last character first, and `empty` are the
empty lines behind it. -/
def lines (h : Header) (folded : Bool) (column : Nat) (acc last empty : List Char) :
    Nat → Scan (List Char)
  | 0 => return acc.reverse
  | fuel + 1 => do
    let text ← Scan.ahead
    if (← get).column == column && !text.isEmpty then
      let line ← Scan.takeWhile fun c => !isBreak c
      let b ← Scan.lineBreak
      let more ← breaks column (fuel + 1)
      let rest ← Scan.ahead
      let acc := (empty ++ line).reverse ++ acc
      if (← get).column == column && !rest.isEmpty then
        let spaced := startsSpaced text || startsSpaced rest
        lines h folded column ((joint folded b more spaced).reverse ++ acc) [] more fuel
      else return acc.reverse ++ tail b more
    else return acc.reverse ++ tail last empty
where
  /-- what stays of the line breaks at the end -/
  tail (last empty : List Char) : List Char :=
    match h.ending with
    | .strip => []
    | .clip => last
    | .keep => last ++ empty

/-- A block scalar below a collection whose entries stand left of the column `margin`. -/
def scalar (folded : Bool) (margin : Nat) : Scan String := do
  Scan.skip 1
  let h ← header
  let fuel := (← Scan.ahead).length + 1
  let least := max margin 1
  match h.increment with
  | none =>
    let (empty, furthest) ← leading 0 fuel
    return String.ofList (← lines h folded (max least furthest) [] [] empty fuel)
  | some n =>
    let column := least + n - 1
    let empty ← breaks column fuel
    return String.ofList (← lines h folded column [] [] empty fuel)

end FluxFleet.Yaml.Block
