import FluxFleet.Number.Limit
import FluxFleet.Text.Blank

/-!
# Decimal digits and whole numbers in text

A decimal digit is a character of the Unicode category `Nd`; each script has its ten digits in a
row (Unicode 14.0). `readInt` reads a whole number as people write it: blank ends, a sign, digits
of any script, and single underscores between digits.
-/

namespace FluxFleet.Text

/-- The digits zero of all scripts. -/
def zeroDigits : List Nat :=
  [0x30, 0x660, 0x6F0, 0x7C0, 0x966, 0x9E6, 0xA66, 0xAE6, 0xB66, 0xBE6, 0xC66, 0xCE6, 0xD66,
   0xDE6, 0xE50, 0xED0, 0xF20, 0x1040, 0x1090, 0x17E0, 0x1810, 0x1946, 0x19D0, 0x1A80, 0x1A90,
   0x1B50, 0x1BB0, 0x1C40, 0x1C50, 0xA620, 0xA8D0, 0xA900, 0xA9D0, 0xA9F0, 0xAA50, 0xABF0,
   0xFF10, 0x104A0, 0x10D30, 0x11066, 0x110F0, 0x11136, 0x111D0, 0x112F0, 0x11450, 0x114D0,
   0x11650, 0x116C0, 0x11730, 0x118E0, 0x11950, 0x11C50, 0x11D50, 0x11DA0, 0x16A60, 0x16AC0,
   0x16B50, 0x1D7CE, 0x1D7D8, 0x1D7E2, 0x1D7EC, 0x1D7F6, 0x1E140, 0x1E2F0, 0x1E950, 0x1FBF0]

/-- The value of a decimal digit. -/
def digitValue? (c : Char) : Option Nat :=
  (zeroDigits.find? fun z => decide (z ≤ c.toNat) && decide (c.toNat ≤ z + 9)).map (c.toNat - ·)

/-- The value of a digit or an ASCII letter in the bases above ten. -/
def digitOrLetter? (c : Char) : Option Nat :=
  if 'a' ≤ c ∧ c ≤ 'z' then some (c.toNat - 'a'.toNat + 10)
  else if 'A' ≤ c ∧ c ≤ 'Z' then some (c.toNat - 'A'.toNat + 10)
  else digitValue? c

/-- The value of a digit of a base. -/
def digitIn? (base : Nat) (c : Char) : Option Nat := do
  let v ← digitOrLetter? c
  if v < base then return v else none

/-- The value of an ASCII hexadecimal digit. -/
def hexValue? (c : Char) : Option Nat := if c.toNat < 0x80 then digitIn? 16 c else none

/-- How many digits a text starts with, leaving out the underscores between them. -/
def digitCount (base : Nat) (cs : List Char) : Nat :=
  ((cs.takeWhile fun c => c == '_' || (digitIn? base c).isSome).filter (· != '_')).length

/-- Digits with single underscores between them; `acc` is the number read so far. -/
def readDigits (base acc : Nat) : List Char → Option Nat
  | [] => some acc
  | '_' :: c :: rest => do readDigits base (acc * base + (← digitIn? base c)) rest
  | c :: rest => do readDigits base (acc * base + (← digitIn? base c)) rest

/-- A number without sign: it starts with a digit. -/
def readNat? (base : Nat) : List Char → Option Nat
  | [] => none
  | c :: rest => do readDigits base (← digitIn? base c) rest

/-- The letter that marks a base behind a leading zero. -/
def baseMark? : Nat → Option Char
  | 2 => some 'b'
  | 8 => some 'o'
  | 16 => some 'x'
  | _ => none

/-- The digits behind the mark of a base, if they have one. -/
def withoutMark (base : Nat) (cs : List Char) : List Char :=
  match cs with
  | '0' :: c :: rest => if baseMark? base == some c.toLower then rest else cs
  | _ => cs

/-- A whole number of a base with blank ends and an optional sign. -/
def readIntIn? (base : Nat) (cs : List Char) : Option Int :=
  match trimChars cs with
  | '-' :: rest => (readNat? base (withoutMark base rest)).map fun n => -(n : Int)
  | '+' :: rest => (readNat? base (withoutMark base rest)).map Int.ofNat
  | rest => (readNat? base (withoutMark base rest)).map Int.ofNat

/-- The text without its blank ends and its sign. -/
def unsigned (cs : List Char) : List Char :=
  match trimChars cs with
  | '-' :: rest => rest
  | '+' :: rest => rest
  | rest => rest

/-- Why the digits at the start of a number are too many, if they are. A base that is a power of two
has no limit. -/
def digitFault? (base : Nat) (cs : List Char) : Option DigitFault :=
  let count := digitCount base (unsigned cs)
  if [2, 4, 8, 16, 32].contains base || count ≤ digitLimit then none else some (.reading count)

/-- A decimal whole number with blank ends and an optional sign. -/
def readInt? (cs : List Char) : Option Int :=
  if (digitFault? 10 cs).isSome then none else readIntIn? 10 cs

/-- Whether a character is an ASCII one other than those that separate records. -/
def isPlainChar (c : Char) : Bool := c.toNat < 0x1C || (0x20 ≤ c.toNat && c.toNat < 0x80)

/-- A decimal whole number in ASCII characters only. -/
def readPlainInt? (cs : List Char) : Option Int := if cs.all isPlainChar then readInt? cs else none

end FluxFleet.Text
