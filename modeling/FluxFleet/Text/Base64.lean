/-!
# Base 64

Bytes as text: three bytes make four characters, and the last group is filled up with `=`. Encoded
text is cut into lines of 76 characters. Reading is lenient: characters outside the alphabet are
skipped, and text behind a complete padding is ignored; a group that is cut short is refused.
-/

namespace FluxFleet.Text.Base64

/-- The sixty-four digits. -/
def alphabet : List Char :=
  "ABCDEFGHIJKLMNOPQRSTUVWXYZabcdefghijklmnopqrstuvwxyz0123456789+/".toList

/-- The digit of a value below sixty-four. -/
def digit (n : Nat) : Char := alphabet.getD (n % 64) '='

/-- The value of a digit. -/
def value? (c : Char) : Option Nat := alphabet.idxOf? c

/-- Bytes as digits, the last group filled up. -/
def digits : List UInt8 → List Char
  | a :: b :: c :: rest =>
    let n := (a.toNat * 256 + b.toNat) * 256 + c.toNat
    digit (n / 262144) :: digit (n / 4096) :: digit (n / 64) :: digit n :: digits rest
  | [a, b] =>
    let n := (a.toNat * 256 + b.toNat) * 256
    [digit (n / 262144), digit (n / 4096), digit (n / 64), '=']
  | [a] =>
    let n := a.toNat * 65536
    [digit (n / 262144), digit (n / 4096), '=', '=']
  | [] => []

/-- Cut into lines of at most 76 characters, each with a line end; `fuel` bounds the lines. -/
def lines : Nat → List Char → List Char
  | 0, _ => []
  | _, [] => []
  | fuel + 1, cs => cs.take 76 ++ '\n' :: lines fuel (cs.drop 76)

/-- Bytes as lines of digits. -/
def encode (bs : List UInt8) : String :=
  let ds := digits bs
  String.ofList (lines (ds.length + 1) ds)

/-- Read digits: `place` counts the digits of the group, `left` holds its unused bits and `pads`
the padding seen since the last digit. -/
def decodeFrom (place left pads : Nat) (acc : List UInt8) : List Char → Option (List UInt8)
  | [] => if place = 0 then some acc.reverse else none
  | c :: cs =>
    if c == '=' then
      if 2 ≤ place ∧ 4 ≤ place + (pads + 1) then some acc.reverse
      else decodeFrom place left (pads + 1) acc cs
    else
      match value? c with
      | none => decodeFrom place left pads acc cs
      | some v =>
        match place with
        | 0 => decodeFrom 1 v 0 acc cs
        | 1 => decodeFrom 2 (v % 16) 0 (UInt8.ofNat (left * 4 + v / 16) :: acc) cs
        | 2 => decodeFrom 3 (v % 4) 0 (UInt8.ofNat (left * 16 + v / 4) :: acc) cs
        | _ => decodeFrom 0 0 0 (UInt8.ofNat (left * 64 + v) :: acc) cs

/-- Text as bytes. -/
def decode? (cs : List Char) : Option (List UInt8) := decodeFrom 0 0 0 [] cs

end FluxFleet.Text.Base64
