import FluxFleet.Text.CodePoint
import FluxFleet.Text.Digit
import FluxFleet.Value.Basic

/-!
# Reading JSON

`Json.read?` reads one JSON value that fills a text. Mappings keep the order of their keys; of two
equal keys the last value stays. A number without fraction and exponent is a whole number of any
size, every other number is rounded to the nearest floating-point number. Two escaped surrogates in
a row are one character; a surrogate that stands alone stays by itself.
-/

namespace FluxFleet.Json

/-- The rest of a text behind its leading spaces and line ends. -/
def skipBlank : List Char → List Char
  | [] => []
  | c :: cs => if c == ' ' || c == '\n' || c == '\r' || c == '\t' then skipBlank cs else c :: cs

/-- The UTF-16 unit of four hexadecimal digits. -/
def unit? (a b c d : Char) : Option Nat :=
  [a, b, c, d].foldlM (fun n x => do return n * 16 + (← Text.hexValue? x)) 0

/-- The character of a short escape. -/
def shortEscape? : Char → Option Char
  | '"' => some '"'
  | '\\' => some '\\'
  | '/' => some '/'
  | 'b' => some '\x08'
  | 'f' => some '\x0c'
  | 'n' => some '\n'
  | 'r' => some '\r'
  | 't' => some '\t'
  | _ => none

/-- The code points of a text up to its closing quote, some of them as escaped units, and the rest
behind the quote. -/
def stringUnits? : List Char → Option (List Nat × List Char)
  | '"' :: rest => some ([], rest)
  | '\\' :: 'u' :: a :: b :: c :: d :: rest => do
    let n ← unit? a b c d
    let (ns, rest) ← stringUnits? rest
    return (n :: ns, rest)
  | '\\' :: c :: rest => do
    let c ← shortEscape? c
    let (ns, rest) ← stringUnits? rest
    return (c.toNat :: ns, rest)
  | c :: rest =>
    if c.toNat < 0x20 then none
    else do
      let (ns, rest) ← stringUnits? rest
      return (c.toNat :: ns, rest)
  | [] => none

/-- Join the surrogate pairs. -/
def joinUnits : List Nat → List Nat
  | [] => []
  | [n] => [n]
  | hi :: lo :: ns =>
    if Text.isHighSurrogate hi && Text.isLowSurrogate lo then
      (0x10000 + (hi - 0xD800) * 0x400 + (lo - 0xDC00)) :: joinUnits ns
    else hi :: joinUnits (lo :: ns)

/-- A text behind its opening quote. -/
def string? (cs : List Char) : Option (String × List Char) := do
  let (units, rest) ← stringUnits? cs
  return (Text.ofCodePoints (joinUnits units), rest)

/-- The value of a row of ASCII digits, `none` for an empty one. -/
def digits? (cs : List Char) : Option Nat :=
  if cs.isEmpty then none
  else cs.foldlM (fun acc c =>
    if c.isDigit then some (acc * 10 + (c.toNat - '0'.toNat)) else none) 0

/-- A whole number with an optional sign. -/
def exponent? : List Char → Option Int
  | '-' :: ds => (digits? ds).map fun n => -(n : Int)
  | '+' :: ds => (digits? ds).map Int.ofNat
  | ds => (digits? ds).map Int.ofNat

/-- A number without its sign: whole, or with a fraction or an exponent. -/
def magnitude? (negative : Bool) (cs : List Char) : Option Value :=
  let whole := cs.takeWhile Char.isDigit
  let rest := cs.dropWhile Char.isDigit
  match rest with
  | [] => (digits? whole).map fun n => .int (if negative then -(n : Int) else n)
  | '.' :: tail => do
    let fraction := tail.takeWhile Char.isDigit
    let m ← digits? (whole ++ fraction)
    if whole.isEmpty || fraction.isEmpty then none
    else
      let e ← match tail.dropWhile Char.isDigit with
        | [] => some 0
        | c :: ds => if c == 'e' || c == 'E' then exponent? ds else none
      return .float (Double.ofDecimal negative m (e - fraction.length))
  | c :: ds =>
    if c == 'e' || c == 'E' then do
      let m ← digits? whole
      return .float (Double.ofDecimal negative m (← exponent? ds))
    else none

/-- A number. -/
def number? : List Char → Option Value
  | '-' :: cs => magnitude? true cs
  | cs => magnitude? false cs

/-- Whether a character may stand in a number. -/
def isNumberChar (c : Char) : Bool := c.isDigit || "+-.eE".toList.contains c

/-- The rest of a text behind a word. -/
def afterWord? : List Char → List Char → Option (List Char)
  | [], rest => some rest
  | w :: ws, c :: cs => if w == c then afterWord? ws cs else none
  | _ :: _, [] => none

mutual

/-- Read one value; `fuel` bounds the number of values in it. -/
def readValue? : Nat → List Char → Option (Value × List Char)
  | 0, _ => none
  | fuel + 1, cs =>
    match skipBlank cs with
    | '"' :: rest => (string? rest).map fun (s, rest) => (.str s, rest)
    | '[' :: rest =>
      match skipBlank rest with
      | ']' :: rest => some (.ofList [], rest)
      | rest => (readItems? fuel rest).map fun (vs, rest) => (.ofList vs, rest)
    | '\x7b' :: rest =>
      match skipBlank rest with
      | '\x7d' :: rest => some (.ofEntries [], rest)
      | rest => (readMembers? fuel rest).map fun (es, rest) =>
        (.ofEntries (OrderedMap.ofList es).entries, rest)
    | 'n' :: rest => (afterWord? "ull".toList rest).map fun rest => (.null, rest)
    | 't' :: rest => (afterWord? "rue".toList rest).map fun rest => (.bool true, rest)
    | 'f' :: rest => (afterWord? "alse".toList rest).map fun rest => (.bool false, rest)
    | rest =>
      (number? (rest.takeWhile isNumberChar)).map fun v => (v, rest.dropWhile isNumberChar)

/-- Read the items of a sequence up to its closing bracket. -/
def readItems? : Nat → List Char → Option (List Value × List Char)
  | 0, _ => none
  | fuel + 1, cs => do
    let (v, rest) ← readValue? fuel cs
    match skipBlank rest with
    | ',' :: rest =>
      let (vs, rest) ← readItems? fuel rest
      return (v :: vs, rest)
    | ']' :: rest => return ([v], rest)
    | _ => none

/-- Read the members of a mapping up to its closing bracket. -/
def readMembers? : Nat → List Char → Option (List (Value × Value) × List Char)
  | 0, _ => none
  | fuel + 1, cs =>
    match skipBlank cs with
    | '"' :: rest => do
      let (k, rest) ← string? rest
      match skipBlank rest with
      | ':' :: rest =>
        let (v, rest) ← readValue? fuel rest
        match skipBlank rest with
        | ',' :: rest =>
          let (es, rest) ← readMembers? fuel rest
          return ((.str k, v) :: es, rest)
        | '\x7d' :: rest => return ([(.str k, v)], rest)
        | _ => none
      | _ => none
    | _ => none

end

/-- Read a text that holds one value and blanks around it. -/
def read? (s : String) : Option Value := do
  let cs := s.toList
  let (v, rest) ← readValue? (2 * cs.length + 2) cs
  if (skipBlank rest).isEmpty then some v else none

end FluxFleet.Json
