import FluxFleet.Number.Double

/-!
# How many digits a whole number may have

A whole number is neither read from decimal digits nor written in them beyond a number of digits.
Bases that are powers of two have no such limit.
-/

namespace FluxFleet

/-- The most decimal digits of a whole number. -/
def digitLimit : Nat := 4300

/-- Why a whole number has too many digits. -/
inductive DigitFault where
  /-- its text has this many -/
  | reading (digits : Nat)
  /-- its text would have too many -/
  | writing
deriving DecidableEq, Repr

/-- The wording of a fault. -/
def DigitFault.message (f : DigitFault) : String :=
  s!"Exceeds the limit ({digitLimit} digits) for integer string conversion" ++
    (match f with
      | .reading n => s!": value has {n} digits"
      | .writing => "") ++
    "; use sys.set_int_max_str_digits() to increase the limit"

/-- Whether a whole number can be written in decimal digits. -/
def isWritable (i : Int) : Bool := decide (i.natAbs < tenTo digitLimit)

end FluxFleet
