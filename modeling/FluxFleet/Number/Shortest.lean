import FluxFleet.Number.Double

/-!
# The shortest decimal of a floating-point number

A floating-point number is shown with the fewest digits that read back to it, and of these with
the digits nearest to it; of two that are as near, with the even ones. The reals that round to
`m * 2 ^ e` form an interval (its ends belong to it when `m` is even). For one digit, two digits and
so on up to seventeen the two neighbours of the number on that decimal grid are tried, in exact
arithmetic.

`DecimalStyle` says how the digits are laid out: where positional notation ends, and how an
exponent looks.
-/

namespace FluxFleet.Double

/-- A decimal `digits * 10 ^ exponent`. -/
structure Decimal where
  digits : Nat
  exponent : Int
deriving DecidableEq, Repr, Inhabited

/-- The reals that round to one floating-point number, in units of `2 ^ scale`. -/
structure Interval where
  low : Nat
  value : Nat
  high : Nat
  scale : Int
  /-- whether the ends belong to the interval -/
  closed : Bool

/-- The interval of `m * 2 ^ e`; below a power of two the neighbours are closer. -/
def Interval.ofParts (m : Nat) (e : Int) : Interval :=
  let close := m == twoTo 52 && decide (-1074 < e)
  { low := 4 * m - (if close then 1 else 2), value := 4 * m, high := 4 * m + 2,
    scale := e - 2, closed := m % 2 == 0 }

/-- Whether the decimal `d * 10 ^ k` lies in the interval, in common units. -/
def Interval.holds (iv : Interval) (d : Nat) (k : Int) : Bool :=
  let two := twoTo iv.scale.toNat
  let half := twoTo (-iv.scale).toNat
  let point := d * tenTo k.toNat * half
  let ten := tenTo (-k).toNat
  let low := iv.low * two * ten
  let high := iv.high * two * ten
  if iv.closed then low ≤ point && point ≤ high else low < point && point < high

/-- The number of digits before the decimal point, negative for leading zeros behind it. -/
def Interval.magnitude (iv : Interval) : Int :=
  let shifted := iv.value * twoTo iv.scale.toNat * tenTo 340 / twoTo (-iv.scale).toNat
  ((Nat.toDigits 10 shifted).length : Int) - 340

/-- The whole number of units `10 ^ k` in the value, and whether the next one is nearer, or as near
and even. -/
def Interval.floor (iv : Interval) (k : Int) : Nat × Bool :=
  let num := iv.value * twoTo iv.scale.toNat * tenTo (-k).toNat
  let den := twoTo (-iv.scale).toNat * tenTo k.toNat
  (num / den, decide (roundHalfEven num den = num / den + 1))

/-- The nearest decimal of the interval with unit `10 ^ k`, if there is one. -/
def Interval.onGrid? (iv : Interval) (k : Int) : Option Nat :=
  let (d, up) := iv.floor k
  let first := if up then d + 1 else d
  let second := if up then d else d + 1
  if iv.holds first k then some first else if iv.holds second k then some second else none

/-- Try grids with more and more digits, at most `fuel` of them. -/
def Interval.search (iv : Interval) (magnitude : Int) : Nat → Nat → Decimal
  | _, 0 => ⟨iv.value, 0⟩
  | n, fuel + 1 =>
    let k := magnitude - n
    match iv.onGrid? k with
    | some d => ⟨d, k⟩
    | none => iv.search magnitude (n + 1) fuel

/-- The shortest decimal that rounds to `m * 2 ^ e`, for a positive `m`. -/
def shortest (m : Nat) (e : Int) : Decimal :=
  let iv := Interval.ofParts m e
  iv.search iv.magnitude 1 17

/-- How a decimal is written. -/
structure DecimalStyle where
  /-- the least position of the decimal point that is written without exponent -/
  leastPoint : Int
  /-- the greatest such position -/
  greatestPoint : Int
  /-- the fewest digits of an exponent -/
  exponentDigits : Nat
  /-- whether a whole number keeps a zero behind the point -/
  keepZero : Bool
  infinity : String
  notANumber : String

/-- Numbers from `0.0001` to below `10 ^ 16` are written without exponent, a whole number keeps
`.0`, and an exponent has a sign and at least two digits. -/
def plainStyle : DecimalStyle :=
  { leastPoint := -3, greatestPoint := 16, exponentDigits := 2, keepZero := true,
    infinity := "inf", notANumber := "nan" }

/-- An exponent with its sign, padded to a width. -/
def exponentText (width : Nat) (e : Int) : String :=
  let digits := toString e.natAbs
  let zeros := String.ofList (List.replicate (width - digits.length) '0')
  (if e < 0 then "-" else "+") ++ zeros ++ digits

/-- The decimal digits of a number without the zeros at its end, and how many were cut. -/
def significantDigits (n : Nat) : List Char × Nat :=
  let ds := Nat.toDigits 10 n
  let kept := (ds.reverse.dropWhile (· == '0')).reverse
  (kept, ds.length - kept.length)

/-- Lay out a positive decimal. -/
def Decimal.render (style : DecimalStyle) (d : Decimal) : String :=
  let (ds, cut) := significantDigits d.digits
  let point : Int := ds.length + (d.exponent + cut)
  let zeros (n : Int) := List.replicate n.toNat '0'
  if style.leastPoint ≤ point ∧ point ≤ style.greatestPoint then
    if point ≤ 0 then String.ofList ('0' :: '.' :: zeros (-point) ++ ds)
    else if (ds.length : Int) ≤ point then
      String.ofList (ds ++ zeros (point - ds.length) ++ (if style.keepZero then ['.', '0'] else []))
    else String.ofList (ds.take point.toNat ++ '.' :: ds.drop point.toNat)
  else
    let mantissa := match ds with
      | [] => []
      | [c] => [c]
      | c :: rest => c :: '.' :: rest
    String.ofList mantissa ++ "e" ++ exponentText style.exponentDigits (point - 1)

/-- The text of a floating-point number in a style. -/
def render (style : DecimalStyle) (x : Double) : String :=
  match x.parts with
  | .nan => style.notANumber
  | .infinite negative => (if negative then "-" else "") ++ style.infinity
  | .finite negative m e =>
    let sign := if negative then "-" else ""
    if m = 0 then sign ++ (if style.keepZero then "0.0" else "0")
    else sign ++ (shortest m e).render style

/-- The usual text of a floating-point number. -/
def text (x : Double) : String := x.render plainStyle

end FluxFleet.Double
