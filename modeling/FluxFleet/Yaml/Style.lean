import FluxFleet.Yaml.Character
import FluxFleet.Yaml.Tag

/-!
# Styles of scalars

A scalar can be written plainly, between single or double quotes, or as a block. Which styles keep
its text depends on its characters (`Shape`): a plain text must not look like the start of
something else, line breaks need quotes or a block, and characters outside printable ASCII are only
possible between double quotes.
-/

namespace FluxFleet.Yaml

/-- How a scalar is written. -/
inductive ScalarStyle where
  | plain
  | singleQuoted
  | doubleQuoted
  | literal
deriving DecidableEq, Repr

/-- Whether a character is a line feed or printable ASCII. -/
def isSimple (c : Char) : Bool := c == '\n' || (0x20 ≤ c.toNat && c.toNat ≤ 0x7E)

/-- The characters that start something other than a plain text. -/
def startIndicators : List Char := "#,[]&*!|>'\"%@`\x7b\x7d".toList

/-- Whether a text starts like something other than a plain text. -/
def startsWithIndicator (cs : List Char) : Bool :=
  "---".toList.isPrefixOf cs || "...".toList.isPrefixOf cs ||
    (match cs with
      | c :: rest =>
        startIndicators.contains c || ((c == '?' || c == ':' || c == '-') && atGap rest)
      | [] => false)

/-- Whether a text holds the end of a key or the start of a comment behind a character. -/
def holdsIndicator : Char → List Char → Bool
  | _, [] => false
  | prev, c :: rest =>
    (c == ':' && atGap rest) || (c == '#' && isGap prev) || holdsIndicator c rest

/-- Whether two characters in a row pass two tests. -/
def holdsPair (first second : Char → Bool) : List Char → Bool
  | a :: b :: rest => (first a && second b) || holdsPair first second (b :: rest)
  | _ => false

/-- What matters about a text for the choice of a style. -/
structure Shape where
  empty : Bool
  multiline : Bool
  allowsPlain : Bool
  allowsSingle : Bool
  allowsBlock : Bool
deriving DecidableEq, Repr

/-- The shape of a text. -/
def Shape.of (cs : List Char) : Shape :=
  match cs with
  | [] => { empty := true, multiline := false, allowsPlain := true, allowsSingle := true,
            allowsBlock := false }
  | c :: rest =>
    let last := (c :: rest).getLastD ' '
    let isSpace (c : Char) : Bool := c == ' '
    let multiline := (c :: rest).any isBreak
    let breakSpace := holdsPair isBreak isSpace (c :: rest)
    let awkward := holdsPair isSpace isBreak (c :: rest) || !(c :: rest).all isSimple
    let padded := isSpace c || isBreak c || isSpace last || isBreak last
    { empty := false, multiline
      allowsPlain := !padded && !breakSpace && !awkward && !multiline &&
        !startsWithIndicator (c :: rest) && !holdsIndicator c rest
      allowsSingle := !breakSpace && !awkward
      allowsBlock := !isSpace last && !awkward }

/-- The style of a scalar: `implicit` if the plain text has the scalar's tag by itself, `block` if
the block style is asked for, `key` if it stands as a key on one line. -/
def Shape.style (s : Shape) (implicit block key : Bool) : ScalarStyle :=
  if block then
    if !key && s.allowsBlock then .literal else .doubleQuoted
  else if implicit && s.allowsPlain && !(key && (s.empty || s.multiline)) then .plain
  else if s.allowsSingle && !(key && s.multiline) then .singleQuoted
  else .doubleQuoted

end FluxFleet.Yaml
