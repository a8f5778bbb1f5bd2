import FluxFleet.Error
import FluxFleet.Yaml.Character

/-!
# Moving through a text

A `Cursor` is a place in a text: the characters ahead with the line, the column and the number of
characters behind. A `Scan` reads from a cursor and leaves it further on, or fails. A byte order
mark takes no column.
-/

namespace FluxFleet.Yaml

/-- Why a text cannot be read. -/
inductive Fault where
  /-- the text is no document -/
  | malformed (reason : String)
  /-- a scalar has no value -/
  | unusable (cause : Error)
deriving Repr

/-- A place in a text. -/
structure Cursor where
  /-- the characters ahead -/
  ahead : List Char
  line : Nat := 0
  column : Nat := 0
  /-- the number of characters behind -/
  index : Nat := 0
deriving Repr, Inhabited

namespace Cursor

/-- The place behind the next character. -/
def next (c : Cursor) : Cursor :=
  match c.ahead with
  | [] => c
  | x :: rest =>
    if isBreak x then { ahead := rest, line := c.line + 1, column := 0, index := c.index + 1 }
    else
      { c with ahead := rest, index := c.index + 1
               column := if x == '\uFEFF' then c.column else c.column + 1 }

/-- The place behind a number of characters. -/
def skip : Nat → Cursor → Cursor
  | 0, c => c
  | n + 1, c => skip n c.next

end Cursor

/-- Reading from a cursor. -/
abbrev Scan := StateT Cursor (Except Fault)

namespace Scan

/-- Refuse the text. -/
def refuse {α : Type} (reason : String) : Scan α := throw (.malformed reason)

/-- The characters ahead. -/
def ahead : Scan (List Char) := do return (← get).ahead

/-- Pass a number of characters. -/
def skip (n : Nat) : Scan Unit := modify (Cursor.skip n)

/-- Pass characters as long as they pass a test, and return them. -/
def takeWhile (test : Char → Bool) : Scan (List Char) := do
  let taken := (← ahead).takeWhile test
  skip taken.length
  return taken

/-- Pass characters as long as they pass a test. -/
def skipWhile (test : Char → Bool) : Scan Unit := do
  skip ((← ahead).takeWhile test).length

/-- Pass spaces. -/
def skipSpaces : Scan Unit := skipWhile (· == ' ')

/-- Pass the end of a line, if it is ahead; it is kept as a line feed unless it is one of the two
separators of lines and paragraphs. -/
def lineBreak : Scan (List Char) := do
  match ← ahead with
  | c :: _ =>
    if isBreak c then
      skip 1
      return [if c == '\x85' then '\n' else c]
    else return []
  | [] => return []

/-- Pass a comment, if one is ahead. -/
def skipComment : Scan Unit := do
  if (← ahead).head? == some '#' then skipWhile fun c => !isBreak c

/-- Pass the rest of a line, which holds nothing but a comment. -/
def endOfLine : Scan Unit := do
  skipSpaces
  skipComment
  if !atLineEnd (← ahead) then refuse "expected a comment or the end of the line"
  let _ ← lineBreak

end Scan

end FluxFleet.Yaml
