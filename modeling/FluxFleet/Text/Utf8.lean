import FluxFleet.Error

/-!
# Text of bytes

Bytes are read as UTF-8. The first byte sequence that is no character is reported with its
position. Line ends are made uniform: a carriage return, alone or before a line feed, becomes a line
feed.
-/

namespace FluxFleet.Text

/-- The bytes of a text. -/
def bytesOf (s : String) : List UInt8 := s.toUTF8.toList

/-- How many bytes follow a first byte, and the range of the next one. -/
def lead? (b : Nat) : Option (Nat × Nat × Nat) :=
  if 0xC2 ≤ b ∧ b ≤ 0xDF then some (1, 0x80, 0xBF)
  else if b = 0xE0 then some (2, 0xA0, 0xBF)
  else if b = 0xED then some (2, 0x80, 0x9F)
  else if 0xE1 ≤ b ∧ b ≤ 0xEF then some (2, 0x80, 0xBF)
  else if b = 0xF0 then some (3, 0x90, 0xBF)
  else if 0xF1 ≤ b ∧ b ≤ 0xF3 then some (3, 0x80, 0xBF)
  else if b = 0xF4 then some (3, 0x80, 0x8F)
  else none

/-- The unfinished character while bytes are read. -/
structure Pending where
  first : UInt8
  /-- the position of its first byte -/
  start : Nat
  code : Nat
  /-- how many bytes are missing -/
  missing : Nat
  /-- the range of the next byte -/
  low : Nat
  high : Nat

/-- Read a byte that starts a character. -/
def startChar (position : Nat) (b : UInt8) : Except EncodingFault (Char ⊕ Pending) :=
  let n := b.toNat
  if n < 0x80 then return .inl (Char.ofNat n)
  else match lead? n with
    | some (missing, low, high) =>
      let bits := if missing = 1 then n % 32 else if missing = 2 then n % 16 else n % 8
      return .inr { first := b, start := position, code := bits, missing, low, high }
    | none =>
      throw { byte := b, start := position, stop := position + 1, reason := "invalid start byte" }

/-- Read bytes from a position on; `acc` holds the characters so far, the last one first. -/
def decodeFrom (acc : List Char) (position : Nat) (pending : Option Pending) :
    List UInt8 → Except EncodingFault (List Char)
  | [] =>
    match pending with
    | none => return acc.reverse
    | some p =>
      throw { byte := p.first, start := p.start, stop := position,
              reason := "unexpected end of data" }
  | b :: bs =>
    match pending with
    | none => do
      match ← startChar position b with
      | .inl c => decodeFrom (c :: acc) (position + 1) none bs
      | .inr p => decodeFrom acc (position + 1) (some p) bs
    | some p =>
      let n := b.toNat
      if p.low ≤ n ∧ n ≤ p.high then
        let code := p.code * 64 + n % 64
        if p.missing = 1 then decodeFrom (Char.ofNat code :: acc) (position + 1) none bs
        else decodeFrom acc (position + 1)
          (some { p with code, missing := p.missing - 1, low := 0x80, high := 0xBF }) bs
      else
        throw { byte := p.first, start := p.start, stop := position,
                reason := "invalid continuation byte" }

/-- The text of bytes, in which no halves stand. -/
def decode (bs : List UInt8) : Except EncodingFault (List Char) := do
  return charsFrom 0 ((← decodeFrom [] 0 none bs).map Char.toNat)

/-- The text with a line feed for each line end. -/
def uniformLines : List Char → List Char
  | '\r' :: '\n' :: cs => '\n' :: uniformLines cs
  | '\r' :: cs => '\n' :: uniformLines cs
  | c :: cs => c :: uniformLines cs
  | [] => []

end FluxFleet.Text
