import FluxFleet.Text.Quoted
import FluxFleet.Yaml.Node
import FluxFleet.Yaml.Style

/-!
# Writing YAML

Documents are written in block style: entries and items stand on lines of their own, a sequence
below a key is not indented further, and only empty collections are written in brackets. A line is
broken behind the eightieth column where its scalar allows it.

A `Pen` holds the text written so far and what the next indicator or line has to know. Two
`Dialect`s differ in which keys stand on one line with their value, and in where a text between
double quotes is broken.
-/

namespace FluxFleet.Yaml

/-- The text written so far. -/
structure Pen where
  text : String := ""
  column : Nat := 0
  /-- whether the last character separates what follows -/
  spaced : Bool := true
  /-- whether the line holds only indentation and indicators -/
  fresh : Bool := true
  /-- whether the end of the document has to be marked -/
  openEnded : Bool := false
deriving Repr, Inhabited

/-- Which keys are short, and where texts are broken. -/
inductive Dialect where
  /-- keys are measured in characters along with their tag, and an empty key is not short; a text
  between double quotes is broken at any space or escape -/
  | byCharacter
  /-- keys are measured in bytes; a text between double quotes is broken at spaces only -/
  | byByte
deriving DecidableEq, Repr

namespace Pen

/-- The last column before a line is broken. -/
def width : Nat := 80

/-- Write a text without line breaks. -/
def put (p : Pen) (s : String) : Pen :=
  { p with text := p.text ++ s, column := p.column + s.length }

/-- Write a character. -/
def putChar (p : Pen) (c : Char) : Pen :=
  { p with text := p.text.push c, column := p.column + 1 }

/-- Start a new line. -/
def lineBreak (p : Pen) : Pen :=
  { p with text := p.text.push '\n', column := 0, spaced := true, fresh := true }

/-- Go to a column, on a new line unless the current one has only indentation. -/
def indent (p : Pen) (n : Nat) : Pen :=
  let p := if !p.fresh || n < p.column || (p.column == n && !p.spaced) then p.lineBreak else p
  if p.column < n then
    { p.put (String.ofList (List.replicate (n - p.column) ' ')) with spaced := true }
  else p

/-- Write an indicator, with a space before it if it needs one. -/
def indicator (p : Pen) (s : String) (needsSpace : Bool) (spaced fresh : Bool := false) : Pen :=
  let p' := p.put (if p.spaced || !needsSpace then s else " " ++ s)
  { p' with spaced, fresh := p.fresh && fresh, openEnded := false }

/-- Note that a scalar stands at the end of the line. -/
def midLine (p : Pen) : Pen := { p with spaced := false, fresh := false }

end Pen

/-! ## Scalars -/

/-- Write plain text; `split` allows line breaks in place of single spaces. -/
def writePlainChars (split : Bool) (n : Nat) : Bool → List Char → Pen → Pen
  | _, [], p => p
  | afterSpace, c :: cs, p =>
    if c == ' ' then
      if split && !afterSpace && Pen.width < p.column && cs.head? != some ' ' then
        writePlainChars split n true cs (p.indent n).midLine
      else writePlainChars split n true cs (p.putChar c)
    else writePlainChars split n false cs (p.putChar c)

/-- Write a plain scalar. -/
def writePlain (split : Bool) (n : Nat) (cs : List Char) (p : Pen) : Pen :=
  match cs with
  | [] => p
  | cs => writePlainChars split n false cs (if p.spaced then p else p.put " ").midLine

/-- What stands before a character. -/
inductive Before where
  | start
  | space
  | lineEnd
  | word
deriving DecidableEq, Repr

/-- Write the text between single quotes: a quote is doubled, a line break becomes an empty line. -/
def writeSingleChars (split : Bool) (n : Nat) : Before → List Char → Pen → Pen
  | before, [], p => if before = .lineEnd then p.indent n else p
  | before, c :: cs, p =>
    if c == ' ' then
      if split && before = .word && Pen.width < p.column && !cs.isEmpty && cs.head? != some ' ' then
        writeSingleChars split n .space cs (p.indent n)
      else writeSingleChars split n .space cs (p.putChar c)
    else if isBreak c then
      let p := if before ≠ .lineEnd then p.lineBreak else p
      writeSingleChars split n .lineEnd cs p.lineBreak
    else
      let p := if before = .lineEnd then p.indent n else p
      writeSingleChars split n .word cs (if c == '\'' then p.put "''" else p.putChar c)

/-- Write a scalar between single quotes. -/
def writeSingleQuoted (split : Bool) (n : Nat) (cs : List Char) (p : Pen) : Pen :=
  (writeSingleChars split n .start cs (p.indicator "'" true)).indicator "'" false

/-- The characters with a short escape between double quotes. -/
def escapes : List (Char × Char) :=
  [('\x00', '0'), ('\x07', 'a'), ('\x08', 'b'), ('\x09', 't'), ('\x0A', 'n'), ('\x0B', 'v'),
   ('\x0C', 'f'), ('\x0D', 'r'), ('\x1B', 'e'), ('"', '"'), ('\\', '\\'), ('\x85', 'N'),
   ('\xA0', '_'), ('\u2028', 'L'), ('\u2029', 'P')]

/-- A number in upper-case hexadecimal, padded to a width. -/
def upperHex (width n : Nat) : String := (Text.hex width n).toUpper

/-- The escape of a code point between double quotes, if it needs one. -/
def escape? (n : Nat) : Option String :=
  match escapes.find? (·.1.toNat == n) with
  | some (_, short) => some (String.ofList ['\\', short])
  | none =>
    if 0x20 ≤ n && n ≤ 0x7E then none
    else if n ≤ 0xFF then some ("\\x" ++ upperHex 2 n)
    else if n ≤ 0xFFFF then some ("\\u" ++ upperHex 4 n)
    else some ("\\U" ++ upperHex 8 n)

/-- Break a line between double quotes, with a mark before the break and before a space behind
it. -/
def breakQuoted (n : Nat) (next : Option Nat) (p : Pen) : Pen :=
  let p := ((p.put "\\").indent n).midLine
  if next = some 0x20 then p.put "\\" else p

/-- Write the text between double quotes, broken at spaces and escapes behind the last column;
`first` at the first code point, `escaped` behind an escape. -/
def writeDoublePoints (split : Bool) (n : Nat) : Bool → Bool → List Nat → Pen → Pen
  | _, _, [], p => p
  | first, escaped, c :: cs, p =>
    let inside := split && !first && !cs.isEmpty
    match escape? c with
    | some e =>
      let p := p.put e
      let p := if inside && Pen.width < p.column - 1 then breakQuoted n cs.head? p else p
      writeDoublePoints split n false true cs p
    | none =>
      let p := if inside && (c == 0x20 || escaped) && Pen.width < p.column then
          breakQuoted n (some c) p
        else p
      writeDoublePoints split n false false cs (p.putChar (Char.ofNat c))

/-- Write the text between double quotes, broken at spaces behind the last column: the space gives
way to the break, and a mark precedes a second space. -/
def writeSpacedPoints (split : Bool) (n : Nat) : Before → List Nat → Pen → Pen
  | _, [], p => p
  | before, c :: cs, p =>
    match escape? c with
    | some e => writeSpacedPoints split n .word cs (p.put e)
    | none =>
      if c == 0x20 then
        if split && before = .word && Pen.width < p.column && !cs.isEmpty then
          let p := p.indent n
          writeSpacedPoints split n .space cs (if cs.head? = some 0x20 then p.put "\\" else p)
        else writeSpacedPoints split n .space cs (p.put " ")
      else writeSpacedPoints split n .word cs (p.putChar (Char.ofNat c))

/-- Write a scalar between double quotes. -/
def writeDoubleQuoted (d : Dialect) (split : Bool) (n : Nat) (text : String) (p : Pen) : Pen :=
  let p := p.indicator "\"" true
  let p := match d with
    | .byCharacter => writeDoublePoints split n true false (Text.codePoints text) p
    | .byByte => writeSpacedPoints split n .start (Text.codePoints text) p
  p.indicator "\"" false

/-- What a block has to say about its indentation and its last line breaks. -/
def blockHints (cs : List Char) : String :=
  match cs with
  | [] => ""
  | c :: _ =>
    (if c == ' ' || isBreak c then "2" else "") ++
      (match cs.reverse with
        | z :: before =>
          if !isBreak z then "-"
          else match before with
            | [] => "+"
            | y :: _ => if isBreak y then "+" else ""
        | [] => "")

/-- Write the lines of a block; `atStart` at the start of a line. -/
def writeLiteralChars (n : Nat) : Bool → List Char → Pen → Pen
  | atStart, [], p => if atStart then p else p.lineBreak
  | atStart, c :: cs, p =>
    if isBreak c then writeLiteralChars n true cs p.lineBreak
    else
      let p := if atStart then p.indent n else p
      writeLiteralChars n false cs { p with text := p.text.push c }

/-- Write a scalar as a block that keeps its line breaks. -/
def writeLiteral (n : Nat) (cs : List Char) (p : Pen) : Pen :=
  let hints := blockHints cs
  let p := p.indicator ("|" ++ hints) true
  let p := { p with openEnded := hints.toList.contains '+' }
  writeLiteralChars n true cs p.lineBreak

/-! ## Nodes -/

/-- Where a node stands. -/
inductive Place where
  | root
  | item
  /-- a key on one line with its value -/
  | shortKey
  /-- a long key, or a value -/
  | entry
deriving DecidableEq, Repr

/-- The short form of a tag. -/
def Tag.shorthand (t : Tag) : String :=
  if standard.toList.isPrefixOf t.toList then
    "!!" ++ String.ofList (t.toList.drop standard.length)
  else "!<" ++ t ++ ">"

/-- How many characters the anchor of a node has. -/
def Document.anchorLength (doc : Document) (number : Option Nat) : Nat :=
  ((doc.anchor? number).map String.length).getD 0

/-- Whether a key stands on one line with its value. -/
def Dialect.isShort (d : Dialect) (doc : Document) (key : Node) : Bool :=
  match d, key with
  | .byCharacter, .scalar n tag text _ =>
    let shape := Shape.of text.toList
    doc.anchorLength n + tag.shorthand.length + (Text.codePoints text).length < 128 &&
      !shape.empty &&
      !shape.multiline
  | .byCharacter, .sequence n tag items =>
    doc.anchorLength n + tag.shorthand.length < 128 && items.isEmpty
  | .byCharacter, .mapping n tag entries =>
    doc.anchorLength n + tag.shorthand.length < 128 && entries.isEmpty
  | .byByte, .scalar n _ text _ =>
    doc.anchorLength n + text.utf8ByteSize ≤ 128 && !text.toList.any fun c => isBreak c || c == '\r'
  | .byByte, .sequence _ _ items => items.isEmpty
  | .byByte, .mapping _ _ entries => entries.isEmpty
  | _, .reference _ => true

/-- Write the anchor of a node that is referred to. -/
def writeAnchor (doc : Document) (number : Option Nat) (p : Pen) : Pen :=
  match doc.anchor? number with
  | some name => p.indicator ("&" ++ name) true
  | none => p

/-- Write a reference. In one dialect a space keeps it apart from the colon behind a key. -/
def writeReference (d : Dialect) (doc : Document) (place : Place) (number : Nat) (p : Pen) : Pen :=
  let p := p.indicator ("*" ++ (doc.anchor? (some number)).getD "") true
  if d = .byByte && place = .shortKey then p.put " " else p

/-- Write a tag unless it is understood. -/
def writeTag (understood : Bool) (tag : Tag) (p : Pen) : Pen :=
  if understood then p else p.indicator tag.shorthand true

/-- Write a scalar; `indent?` is the indentation around it. -/
def writeScalar (d : Dialect) (place : Place) (indent? : Option Nat) (tag : Tag) (text : String)
    (block : Bool) (p : Pen) : Pen :=
  let cs := text.toList
  let implicit := Tag.ofPlain text == tag
  let key := place = .shortKey
  let style := (Shape.of cs).style implicit block key
  let p := writeTag (if style = .plain then implicit else tag == Tag.str) tag p
  let n := match indent? with
    | some n => n + 2
    | none => 2
  let split := !key
  match style with
  | .plain => { writePlain split n cs p with openEnded := place = .root || p.openEnded }
  | .singleQuoted => writeSingleQuoted split n cs p
  | .doubleQuoted => writeDoubleQuoted d split n text p
  | .literal => writeLiteral n cs p

mutual

/-- Write a node. -/
def writeNode (d : Dialect) (doc : Document) (place : Place) (indent? : Option Nat) :
    Node → Pen → Pen
  | .reference n, p => writeReference d doc place n p
  | .scalar n tag text block, p => writeScalar d place indent? tag text block (writeAnchor doc n p)
  | .sequence n tag items, p =>
    let p := writeTag (tag == Tag.seq) tag (writeAnchor doc n p)
    if items.isEmpty then (p.indicator "[" true true).indicator "]" false
    else
      let n := match indent? with
        | none => 0
        | some n => if (place = .entry || place = .shortKey) && !p.fresh then n else n + 2
      writeItems d doc n items p
  | .mapping n tag entries, p =>
    let p := writeTag (tag == Tag.map) tag (writeAnchor doc n p)
    if entries.isEmpty then (p.indicator "\x7b" true true).indicator "\x7d" false
    else
      let n := match indent? with
        | none => 0
        | some n => n + 2
      writeEntries d doc n entries p

/-- Write the items of a sequence. -/
def writeItems (d : Dialect) (doc : Document) (n : Nat) : List Node → Pen → Pen
  | [], p => p
  | item :: items, p =>
    let p := (p.indent n).indicator "-" true false true
    writeItems d doc n items (writeNode d doc .item (some n) item p)

/-- Write the entries of a mapping. -/
def writeEntries (d : Dialect) (doc : Document) (n : Nat) : List (Node × Node) → Pen → Pen
  | [], p => p
  | (key, value) :: entries, p =>
    let p := p.indent n
    let p := if d.isShort doc key then
        (writeNode d doc .shortKey (some n) key p).indicator ":" false
      else
        let p := writeNode d doc .entry (some n) key (p.indicator "?" true false true)
        (p.indent n).indicator ":" true false true
    writeEntries d doc n entries (writeNode d doc .entry (some n) value p)

end

/-- Write a document; `marked` puts a mark before it. -/
def writeDocument (d : Dialect) (marked : Bool) (p : Pen) (doc : Document) : Pen :=
  let p := p.indent 0
  let p := if marked then p.indicator "---" true else p
  (writeNode d doc .root none doc.root p).indent 0

/-- The text of a stream of documents up to a height, each with a mark before it. -/
def stream (limit : Nat) (docs : List Document) : Except Error String :=
  match docs.findSome? (Document.fault? limit) with
  | some fault => throw fault
  | none =>
    let p := docs.foldl (writeDocument .byCharacter true) {}
    return (if p.openEnded then (p.indicator "..." true).indent 0 else p).text

/-- The text of a document of the model, without a mark. -/
def modelDocument (doc : Document) : String := (writeDocument .byByte false {} doc).text

end FluxFleet.Yaml
