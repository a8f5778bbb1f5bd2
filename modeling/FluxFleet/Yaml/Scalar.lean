import FluxFleet.Number.Decimal
import FluxFleet.Text.Base64
import FluxFleet.Text.Lowercase
import FluxFleet.Yaml.Cursor
import FluxFleet.Yaml.Tag

/-!
# Values of scalars

The value of a scalar by its tag. Whole numbers are binary, octal, decimal, hexadecimal or of base
sixty; numbers with a fraction are decimal or of base sixty. A text that its tag has no value for
fails, in most cases because the number or the date in it does.
-/

namespace FluxFleet.Yaml.Scalar

/-- The text without its underscores. -/
def compact (s : String) : List Char := s.toList.filter (· != '_')

/-- A whole number of a base. -/
def intIn (base : Nat) (cs : List Char) : Except Error Int :=
  match Text.digitFault? base cs, Text.readIntIn? base cs with
  | some f, _ => throw (.scalar (.digits f))
  | none, some i => return i
  | none, none => throw (.scalar (.integer base (String.ofList cs)))

/-- The value of digits of base sixty, the first one highest. -/
def sexagesimal (ds : List Int) : Int := ds.foldl (fun n d => n * 60 + d) 0

/-- A whole number without its sign. -/
def magnitude (cs : List Char) : Except Error Int :=
  match cs with
  | [] => throw (.outOfRange false)
  | ['0'] => return 0
  | '0' :: 'b' :: rest => intIn 2 rest
  | '0' :: 'x' :: rest => intIn 16 rest
  | '0' :: _ => intIn 8 cs
  | cs =>
    if cs.contains ':' then do return sexagesimal (← (Plain.splitAt ':' cs).mapM (intIn 10))
    else intIn 10 cs

/-- A whole number. -/
def int (s : String) : Except Error Int :=
  match compact s with
  | '-' :: rest => do return -(← magnitude rest)
  | '+' :: rest => magnitude rest
  | cs => magnitude cs

/-- A floating-point number in decimal digits. -/
def decimal (cs : List Char) : Except Error Double :=
  match Double.read? cs with
  | some x => return x
  | none => throw (.scalar (.float (String.ofList cs)))

/-- The sum of digits of base sixty, the last one first, each times its power of sixty; a power that
is too large for a floating-point number fails. -/
def sexagesimalSum (power : Nat) (total : Double) : List Double → Except Error Double
  | [] => return total
  | d :: ds =>
    let factor := Double.ofInt power
    if factor == Double.infinity false then throw (.scalar .sixtieths)
    else sexagesimalSum (power * 60) (total.add (d.mul factor)) ds

/-- A number that is read with its sign; one that is not a number is told apart by its node. -/
def settled (node : Nat) (negative : Bool) (x : Double) : Double :=
  if x.isNotANumber then Double.notANumberOf (node + 1) else if negative then x.neg else x

/-- A number without its sign. -/
def floatMagnitude (node : Nat) (negative : Bool) (cs : List Char) : Except Error Double :=
  match String.ofList cs with
  | ".inf" => return Double.infinity negative
  | ".nan" => return Double.notANumber
  | _ =>
    if cs.contains ':' then do
      let ds ← (Plain.splitAt ':' cs).mapM decimal
      return settled node negative (← sexagesimalSum 1 (Double.zero false) ds.reverse)
    else do return settled node negative (← decimal cs)

/-- A number with a fraction. -/
def float (node : Nat) (s : String) : Except Error Double :=
  match (Text.lowered (String.ofList (compact s))).toList with
  | [] => throw (.outOfRange false)
  | '-' :: rest => floatMagnitude node true rest
  | '+' :: rest => floatMagnitude node false rest
  | cs => floatMagnitude node false cs

/-- A truth value. -/
def bool (s : String) : Except Error Bool :=
  let word := Text.lowered s
  if Plain.trueWords.contains word then return true
  else if Plain.falseWords.contains word then return false
  else throw (.scalar (.truth word))

/-- A date or a moment. -/
def timestamp (node : Nat) (s : String) : Except Error Value :=
  match Timestamp.parse? s.toList with
  | none => throw (.noAttribute "NoneType" "groupdict")
  | some t =>
    match t.clock with
    | none => (t.date.map (Value.date (.one node))).mapError fun f => .scalar (.calendar f)
    | some c =>
      ((t.moment c).map (Value.moment (.one node))).mapError fun f => .scalar (.calendar f)

/-- Bytes in base 64. -/
def binary (s : String) : Except Fault Value :=
  if s.toList.all fun c => c.toNat < 0x80 then
    match Text.Base64.decode? s.toList with
    | some bs => return .bytes bs
    | none => throw (.malformed "a binary scalar is not in base 64")
  else throw (.malformed "a binary scalar is not in base 64")

/-- The value of a scalar by its tag; `node` is the number of its node. -/
def value (node : Nat) (tag : Tag) (s : String) : Except Fault Value :=
  if tag == Tag.str then return .str s
  else if tag == Tag.null then return .null
  else if tag == Tag.bool then (.bool <$> bool s).mapError .unusable
  else if tag == Tag.int then (.int <$> int s).mapError .unusable
  else if tag == Tag.float then (.float <$> float node s).mapError .unusable
  else if tag == Tag.timestamp then (timestamp node s).mapError .unusable
  else if tag == Tag.binary then binary s
  else throw (.malformed s!"no value has the tag {tag}")

/-- The tags that scalars have. -/
def tags : List Tag :=
  [Tag.str, Tag.null, Tag.bool, Tag.int, Tag.float, Tag.timestamp, Tag.binary]

end FluxFleet.Yaml.Scalar
