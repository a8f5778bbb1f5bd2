import FluxFleet.Yaml.Quoted

/-!
# Plain scalars

A plain scalar goes on until a comment, the end of a key, or, inside brackets, an indicator of them.
Its words may stand on several lines as long as these are indented further than the collection
around it.
-/

namespace FluxFleet.Yaml.Plain

/-- The indicators that end a plain scalar inside brackets. -/
def flowIndicators : List Char := ",?[]\x7b\x7d".toList

/-- Whether a colon ends a key: what follows it separates. -/
def endsKey (flow : Bool) (rest : List Char) : Bool :=
  atGap rest || (flow && rest.head?.any (fun c => c != '?' && flowIndicators.contains c))

/-- The word at the start of a text. -/
def word (flow : Bool) : List Char → List Char
  | [] => []
  | c :: rest =>
    if isGap c || (c == ':' && endsKey flow rest) || (flow && flowIndicators.contains c) then []
    else c :: word flow rest

/-- What stands between two words. -/
structure Between where
  /-- what it adds to the text; nothing ends the scalar -/
  text : List Char
  /-- whether a line has ended -/
  newLine : Bool

/-- Empty lines and indentation; `none` at a mark between documents. -/
def breaks : Nat → Scan (Option (List Char))
  | 0 => return some []
  | fuel + 1 => do
    Scan.skipSpaces
    match ← Scan.lineBreak with
    | [] => return some []
    | b =>
      if startsWithMark (← Scan.ahead) then return none
      return (← breaks fuel).map (b ++ ·)

/-- Spaces and line breaks between two words. -/
def between (fuel : Nat) : Scan Between := do
  let spaces ← Scan.takeWhile (· == ' ')
  match ← Scan.lineBreak with
  | [] => return { text := spaces, newLine := false }
  | b =>
    if startsWithMark (← Scan.ahead) then return { text := [], newLine := true }
    match ← breaks fuel with
    | none => return { text := [], newLine := true }
    | some rest => return { text := Quoted.folded b rest, newLine := true }

/-- The words from here on, with what stands before each, and whether a key may follow on a new
line; `acc` holds the text so far, the last character first. -/
def words (flow : Bool) (margin : Nat) (acc before : List Char) (newLine : Bool) :
    Nat → Scan (List Char × Bool)
  | 0 => return (acc, newLine)
  | fuel + 1 => do
    let text ← Scan.ahead
    if text.head? == some '#' then return (acc, newLine)
    match word flow text with
    | [] => return (acc, newLine)
    | w =>
      Scan.skip w.length
      let acc := (before ++ w).reverse ++ acc
      let b ← between (fuel + 1)
      let commentAhead := (← Scan.ahead).head? == some '#'
      let outdented := !flow && decide ((← get).column < margin)
      if b.text.isEmpty || commentAhead || outdented then return (acc, b.newLine)
      words flow margin acc b.text b.newLine fuel

/-- A plain scalar, and whether a key may follow it on a new line. -/
def scalar (flow : Bool) (margin : Nat) : Scan (String × Bool) := do
  let (text, newLine) ← words flow margin [] [] false ((← Scan.ahead).length + 1)
  return (String.ofList text.reverse, newLine)

end FluxFleet.Yaml.Plain
