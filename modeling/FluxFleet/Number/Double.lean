/-!
# Binary floating-point numbers, exactly

A `Double` is the 64 bits of a binary floating-point number. `parts` takes it apart into sign,
significand and exponent, `ofRatio` rounds an exact quotient to the nearest number (a tie goes to
the even significand), and the arithmetic goes through exact quotients. Nothing here depends on the
machine's own floating-point unit.
-/

namespace FluxFleet

/-- A power of two. -/
def twoTo (n : Nat) : Nat := Nat.pow 2 n

/-- A power of ten. -/
def tenTo (n : Nat) : Nat := Nat.pow 10 n

/-- A floating-point number by its 64 bits. -/
structure Double where
  /-- sign, eleven bits of exponent, fifty-two bits of fraction -/
  bits : UInt64
deriving DecidableEq, Repr, Inhabited

namespace Double

/-- What the bits say. -/
inductive Parts where
  | nan
  | infinite (negative : Bool)
  /-- the number `± m * 2 ^ e` -/
  | finite (negative : Bool) (m : Nat) (e : Int)
deriving DecidableEq, Repr

/-- Take the bits apart. -/
def parts (x : Double) : Parts :=
  let n := x.bits.toNat
  let negative := decide (twoTo 63 ≤ n)
  let e : Nat := n / twoTo 52 % twoTo 11
  let f : Nat := n % twoTo 52
  if e = 2047 then (if f = 0 then .infinite negative else .nan)
  else if e = 0 then .finite negative f (-1074)
  else .finite negative (f + twoTo 52) ((e : Int) - 1075)

/-- The bits of a sign and a magnitude. -/
def ofMagnitude (negative : Bool) (magnitude : Nat) : Double :=
  ⟨UInt64.ofNat ((if negative then twoTo 63 else 0) + magnitude)⟩

/-- The magnitude of infinity; every smaller one is a finite number. -/
def infinityBits : Nat := 2047 * twoTo 52

/-- Infinity with a sign. -/
def infinity (negative : Bool) : Double := ofMagnitude negative infinityBits

/-- A number that is not a number; there are many of them, told apart by a count. -/
def notANumberOf (n : Nat) : Double := ⟨UInt64.ofNat (infinityBits + twoTo 51 + n % twoTo 51)⟩

/-- The usual number that is not a number. -/
def notANumber : Double := notANumberOf 0

/-- Zero with a sign. -/
def zero (negative : Bool) : Double := ofMagnitude negative 0

/-- A quotient rounded to the nearest whole number, a tie to the even one. -/
def roundHalfEven (num den : Nat) : Nat :=
  let q := num / den
  let r := num % den
  if 2 * r < den then q
  else if den < 2 * r then q + 1
  else if q % 2 = 0 then q else q + 1

/-- The quotient `num / den` divided by `2 ^ e` and rounded. -/
def scaled (num den : Nat) (e : Int) : Nat :=
  if 0 ≤ e then roundHalfEven num (den * twoTo e.toNat)
  else roundHalfEven (num * twoTo (-e).toNat) den

/-- The number nearest to `± num / den`; too large a quotient gives infinity. -/
def ofRatio (negative : Bool) (num den : Nat) : Double :=
  if num = 0 ∨ den = 0 then zero negative
  else
    let guess : Int := (num.log2 : Int) - den.log2 - 52
    let below : Bool :=
      if 0 ≤ guess then decide (num < den * twoTo guess.toNat * twoTo 52)
      else decide (num * twoTo (-guess).toNat < den * twoTo 52)
    let e := max (if below then guess - 1 else guess) (-1074)
    if e > 971 then infinity negative
    else
      let magnitude := (e + 1074).toNat * twoTo 52 + scaled num den e
      ofMagnitude negative (min magnitude infinityBits)

/-- The number nearest to `± m * 10 ^ e`. Exponents far outside the range are settled at once. -/
def ofDecimal (negative : Bool) (m : Nat) (e : Int) : Double :=
  if m = 0 then zero negative
  else if e > 400 then infinity negative
  else if e + ((Nat.toDigits 10 m).length : Int) < -400 then zero negative
  else if 0 ≤ e then ofRatio negative (m * tenTo e.toNat) 1
  else ofRatio negative m (tenTo (-e).toNat)

/-- The number nearest to a whole number. -/
def ofInt (i : Int) : Double := ofRatio (decide (i < 0)) i.natAbs 1

/-- The number nearest to `m * 2 ^ e`. -/
def ofDyadic (negativeZero : Bool) (m : Int) (e : Int) : Double :=
  if m = 0 then zero negativeZero
  else if 0 ≤ e then ofRatio (decide (m < 0)) (m.natAbs * twoTo e.toNat) 1
  else ofRatio (decide (m < 0)) m.natAbs (twoTo (-e).toNat)

/-- The same number with the other sign. -/
def neg (x : Double) : Double := ⟨x.bits ^^^ 0x8000000000000000⟩

/-- A significand with its sign. -/
def signed (negative : Bool) (m : Nat) : Int := if negative then -(m : Int) else m

/-- The rounded sum. -/
def add (x y : Double) : Double :=
  match x.parts, y.parts with
  | .finite sx mx ex, .finite sy my ey =>
    let e := min ex ey
    let total := signed sx mx * twoTo (ex - e).toNat + signed sy my * twoTo (ey - e).toNat
    ofDyadic (sx && sy) total e
  | .nan, _ => notANumber
  | _, .nan => notANumber
  | .infinite s, .infinite t => if s == t then infinity s else notANumber
  | .infinite s, _ => infinity s
  | _, .infinite t => infinity t

/-- The rounded product. -/
def mul (x y : Double) : Double :=
  match x.parts, y.parts with
  | .finite sx mx ex, .finite sy my ey =>
    ofDyadic (sx != sy) (signed sx mx * signed sy my) (ex + ey)
  | .nan, _ => notANumber
  | _, .nan => notANumber
  | .infinite s, .finite t m _ => if m = 0 then notANumber else infinity (s != t)
  | .finite s m _, .infinite t => if m = 0 then notANumber else infinity (s != t)
  | .infinite s, .infinite t => infinity (s != t)

/-- Whether the number is zero, of either sign. -/
def isZero (x : Double) : Bool :=
  match x.parts with
  | .finite _ 0 _ => true
  | _ => false

/-- Whether this is not a number. -/
def isNotANumber (x : Double) : Bool :=
  match x.parts with
  | .nan => true
  | _ => false

/-- Equality of numbers as keys: the zeros are equal, and a number that is not a number equals
itself alone. -/
def same (x y : Double) : Bool := x.bits == y.bits || (x.isZero && y.isZero)

/-- Whether the number is this whole number. -/
def isInt (x : Double) (i : Int) : Bool :=
  match x.parts with
  | .finite s m e =>
    if 0 ≤ e then signed s m * twoTo e.toNat == i else signed s m == i * twoTo (-e).toNat
  | _ => false

/-- The whole part, rounded towards zero; infinity and non-numbers have none. -/
def truncate? (x : Double) : Option Int :=
  match x.parts with
  | .finite s m e =>
    some (signed s (if 0 ≤ e then m * twoTo e.toNat else m / twoTo (-e).toNat))
  | _ => none

/-- The order of numbers; nothing is less than a number that is not a number. -/
def less (x y : Double) : Bool :=
  match x.parts, y.parts with
  | .nan, _ => false
  | _, .nan => false
  | .infinite s, .infinite t => s && !t
  | .infinite s, _ => s
  | _, .infinite t => !t
  | .finite sx mx ex, .finite sy my ey =>
    let e := min ex ey
    signed sx mx * twoTo (ex - e).toNat < signed sy my * twoTo (ey - e).toNat

/-- Compare with a whole number, exactly. -/
def compareInt? (x : Double) (i : Int) : Option Ordering :=
  match x.parts with
  | .nan => none
  | .infinite s => some (if s then .lt else .gt)
  | .finite s m e =>
    some (if 0 ≤ e then compare (signed s m * twoTo e.toNat) i
      else compare (signed s m) (i * twoTo (-e).toNat))

/-- Whether the number is less than a whole one. -/
def lessThanInt (x : Double) (i : Int) : Bool := x.compareInt? i == some .lt

/-- Whether a whole number is less than the number. -/
def greaterThanInt (x : Double) (i : Int) : Bool := x.compareInt? i == some .gt

end Double

end FluxFleet
