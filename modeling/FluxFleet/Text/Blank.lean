/-!
# Blank characters

The characters that are white space or separators of text: the white-space property of Unicode
and the four separators `U+001C` to `U+001F`. Cutting them off both ends of a text (`trim`) is
how names are read. The zero-width space `U+200B` and the byte order mark `U+FEFF` are not blank.
-/

namespace FluxFleet.Text

/-- The blank characters, by code point. -/
def blanks : List Nat :=
  [0x09, 0x0A, 0x0B, 0x0C, 0x0D, 0x1C, 0x1D, 0x1E, 0x1F, 0x20, 0x85, 0xA0, 0x1680,
   0x2000, 0x2001, 0x2002, 0x2003, 0x2004, 0x2005, 0x2006, 0x2007, 0x2008, 0x2009, 0x200A,
   0x2028, 0x2029, 0x202F, 0x205F, 0x3000]

/-- Whether a character is blank. -/
def isBlank (c : Char) : Bool := blanks.contains c.toNat

/-- The text without the blank characters at its ends. -/
def trimChars (cs : List Char) : List Char :=
  ((cs.dropWhile isBlank).reverse.dropWhile isBlank).reverse

/-- The text without the blank characters at its ends. -/
def trim (s : String) : String := String.ofList (trimChars s.toList)

end FluxFleet.Text
