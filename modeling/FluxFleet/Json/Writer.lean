import FluxFleet.Value.Text

/-!
# Writing JSON

A value is written as JSON text with ASCII characters only: every other character is escaped by
its UTF-16 units. A `Layout` says whether items stand on lines of their own. Keys that are numbers,
truth values or absent are written as text; dates, bytes and sets have no JSON form, and
neither has a part that stands inside itself.
-/

namespace FluxFleet.Json

/-- Why a value has no JSON form. -/
inductive Fault where
  /-- a value of this kind -/
  | value (kind : String)
  /-- a key of this kind -/
  | key (kind : String)
  /-- a part that stands inside itself -/
  | circular
  /-- a whole number that cannot be written -/
  | digits
  /-- a collection with too many others around it -/
  | depth
deriving DecidableEq, Repr

/-- The wording of a fault. -/
def Fault.message : Fault → String
  | .value kind => s!"Object of type {kind} is not JSON serializable"
  | .key kind => s!"keys must be str, int, float, bool or None, not {kind}"
  | .circular => "Circular reference detected"
  | .digits => DigitFault.writing.message
  | .depth => "maximum recursion depth exceeded"

/-- How items are laid out. -/
inductive Layout where
  /-- all on one line, a comma and a space between items -/
  | compact
  /-- each item on a line of its own, indented by `width` spaces a level, in up to `limit` levels -/
  | lines (width limit : Nat)
deriving DecidableEq, Repr

/-- The start of a line at a depth. -/
def Layout.fresh (layout : Layout) (depth : Nat) : String :=
  match layout with
  | .compact => ""
  | .lines width _ => "\n" ++ String.ofList (List.replicate (width * depth) ' ')

/-- The text between two items at a depth. -/
def Layout.between (layout : Layout) (depth : Nat) : String :=
  match layout with
  | .compact => ", "
  | .lines _ _ => "," ++ layout.fresh depth

/-- Whether a collection at a depth is one level too many. -/
def Layout.isFull (layout : Layout) (depth : Nat) : Bool :=
  match layout with
  | .compact => false
  | .lines _ limit => decide (limit ≤ depth)

/-- A UTF-16 unit as an escape. -/
def unitEscape (n : Nat) : String := "\\u" ++ Text.hex 4 n

/-- The characters with a short escape. -/
def escapes : List (Char × Char) :=
  [('"', '"'), ('\\', '\\'), ('\n', 'n'), ('\r', 'r'), ('\t', 't'), ('\x0c', 'f'), ('\x08', 'b')]

/-- One code point between double quotes. -/
def escapePoint (n : Nat) : String :=
  match escapes.find? (·.1.toNat == n) with
  | some (_, short) => String.ofList ['\\', short]
  | none =>
    if 0x20 ≤ n && n ≤ 0x7E then String.singleton (Char.ofNat n)
    else if n < 0x10000 then unitEscape n
    else unitEscape (0xD800 + (n - 0x10000) / 0x400) ++ unitEscape (0xDC00 + (n - 0x10000) % 0x400)

/-- A text between double quotes. -/
def quoted (s : String) : String :=
  "\"" ++ String.join ((Text.codePoints s).map escapePoint) ++ "\""

/-- Numbers are written as they are shown; infinity and non-numbers have names of their own. -/
def floatStyle : Double.DecimalStyle :=
  { Double.plainStyle with infinity := "Infinity", notANumber := "NaN" }

/-- The text of a whole number. -/
def intText (i : Int) : Except Fault String :=
  if isWritable i then return toString i else throw .digits

/-- The text of a key. -/
def keyText : Value → Except Fault String
  | .str s => return s
  | .null => return "null"
  | .bool b => return if b then "true" else "false"
  | .int i => intText i
  | .float x => return x.render floatStyle
  | v => throw (.key v.kind)

/-- Items between brackets; no items leave the brackets empty. -/
def enclosed (layout : Layout) (depth : Nat) (left right : String) : List String → String
  | [] => left ++ right
  | items =>
    left ++ layout.fresh (depth + 1) ++ (layout.between (depth + 1)).intercalate items ++
      layout.fresh depth ++ right

mutual

/-- Write a value at a depth. -/
def write (layout : Layout) (depth : Nat) : Value → Except Fault String
  | .null => return "null"
  | .bool b => return if b then "true" else "false"
  | .int i => intText i
  | .float x => return x.render floatStyle
  | .str s => return quoted s
  | .list _ items => do
    if layout.isFull depth then throw .depth
    return enclosed layout depth "[" "]" (← writeItems layout (depth + 1) items)
  | .tuple _ items => do
    if layout.isFull depth then throw .depth
    return enclosed layout depth "[" "]" (← writeItems layout (depth + 1) items)
  | .dict _ entries => do
    if layout.isFull depth then throw .depth
    return enclosed layout depth "\x7b" "\x7d" (← writeEntries layout (depth + 1) entries)
  | .bytes _ => throw (.value "bytes")
  | .date _ _ => throw (.value "date")
  | .moment _ _ => throw (.value "datetime")
  | .set _ _ => throw (.value "set")
  | .again _ => throw .circular

/-- Write the items of a sequence. -/
def writeItems (layout : Layout) (depth : Nat) : List Value → Except Fault (List String)
  | [] => return []
  | v :: vs => do
    let first ← write layout depth v
    return first :: (← writeItems layout depth vs)

/-- Write the entries of a mapping. -/
def writeEntries (layout : Layout) (depth : Nat) : List (Value × Value) → Except Fault (List String)
  | [] => return []
  | (k, v) :: es => do
    let key ← keyText k
    let item ← write layout depth v
    return (quoted key ++ ": " ++ item) :: (← writeEntries layout depth es)

end

/-- A value on one line. -/
def compact (v : Value) : Except Fault String := write .compact 0 v

/-- A value with each item on a line of its own, indented by two spaces, in up to `limit` levels. -/
def pretty (limit : Nat) (v : Value) : Except Fault String := write (.lines 2 limit) 0 v

end FluxFleet.Json
