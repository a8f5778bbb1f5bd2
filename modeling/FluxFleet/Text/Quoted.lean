import FluxFleet.Text.CodePoint
import FluxFleet.Text.Printable

/-!
# Quoted text

A text inside a shown value stands between quotes: single quotes, or double quotes when the text
holds a single quote and no double one. A backslash and the enclosing quote are escaped, line feed,
carriage return and tab have short escapes, and other characters that are not printable are written
by number.
-/

namespace FluxFleet.Text

/-- A number in lower-case hexadecimal, padded with zeros to a width. -/
def hex (width n : Nat) : String :=
  let digits := Nat.toDigits 16 n
  String.ofList (List.replicate (width - digits.length) '0' ++ digits)

/-- One code point between the quotes `quote`. -/
def quotePoint (quote : Char) (n : Nat) : String :=
  let c := Char.ofNat n
  if c == quote || c == '\\' then String.ofList ['\\', c]
  else if c == '\n' then "\\n"
  else if c == '\r' then "\\r"
  else if c == '\t' then "\\t"
  else if isPrintable n then String.singleton c
  else
    if n ≤ 0xFF then "\\x" ++ hex 2 n
    else if n ≤ 0xFFFF then "\\u" ++ hex 4 n
    else "\\U" ++ hex 8 n

/-- The quote that encloses a text. -/
def quoteFor (cs : List Char) : Char :=
  if cs.contains '\'' && !cs.contains '"' then '"' else '\''

/-- A text in quotes. -/
def quoted (s : String) : String :=
  let q := quoteFor s.toList
  String.singleton q ++ String.join ((codePoints s).map (quotePoint q)) ++ String.singleton q

end FluxFleet.Text
