import FluxFleet.Text.CodePoint
import FluxFleet.Text.Digit
import FluxFleet.Yaml.Cursor

/-!
# Scalars between quotes

Between single quotes a doubled quote stands for one; between double quotes a backslash starts an
escape. A single line break inside becomes a space, and of several line breaks the first is dropped,
with the spacing around them.
-/

namespace FluxFleet.Yaml.Quoted

/-- The character of a short escape. -/
def shortEscape? : Char → Option Char
  | '0' => some '\x00'
  | 'a' => some '\x07'
  | 'b' => some '\x08'
  | 't' => some '\t'
  | '\t' => some '\t'
  | 'n' => some '\n'
  | 'v' => some '\x0b'
  | 'f' => some '\x0c'
  | 'r' => some '\r'
  | 'e' => some '\x1b'
  | ' ' => some ' '
  | '"' => some '"'
  | '\\' => some '\\'
  | '/' => some '/'
  | 'N' => some '\x85'
  | '_' => some '\xa0'
  | 'L' => some '\u2028'
  | 'P' => some '\u2029'
  | _ => none

/-- The number of hexadecimal digits of an escape by number. -/
def escapeLength? : Char → Option Nat
  | 'x' => some 2
  | 'u' => some 4
  | 'U' => some 8
  | _ => none

/-- The characters of a code point. -/
def charsOf (code : Nat) : Scan (List Char) :=
  if code < 0x110000 then return Text.charsFrom 0 [code]
  else throw (.unusable (.scalar (if code < 0x80000000 then .codePoint else .codeSize)))

/-- An escape by number, behind its letter. -/
def numbered (length : Nat) : Scan (List Char) := do
  let digits := (← Scan.ahead).take length
  if digits.length < length then Scan.refuse "expected a hexadecimal number"
  match digits.foldlM (fun n c => do return n * 16 + (← Text.hexValue? c)) 0 with
  | some code => do
    let cs ← charsOf code
    Scan.skip length
    return cs
  | none => Scan.refuse "expected a hexadecimal number"

/-- Line breaks and the spacing at the start of the lines; `fuel` bounds their number. -/
def breaks : Nat → Scan (List Char)
  | 0 => return []
  | fuel + 1 => do
    if startsWithMark (← Scan.ahead) then Scan.refuse "a document ends inside quotes"
    Scan.skipWhile isSpacing
    match ← Scan.lineBreak with
    | [] => return []
    | b => return b ++ (← breaks fuel)

/-- Line breaks in a row as text: the first is dropped, and a single one becomes a space. -/
def folded (first rest : List Char) : List Char :=
  (if first != ['\n'] then first else if rest.isEmpty then [' '] else []) ++ rest

/-- Spacing and line breaks. -/
def spacing (fuel : Nat) : Scan (List Char) := do
  let spaces ← Scan.takeWhile isSpacing
  match ← Scan.lineBreak with
  | [] => return spaces
  | b => return folded b (← breaks fuel)

/-- An escape, behind its backslash. -/
def escape (fuel : Nat) : Scan (List Char) := do
  match ← Scan.ahead with
  | [] => Scan.refuse "an escape is cut short"
  | c :: _ =>
    match shortEscape? c, escapeLength? c with
    | some x, _ => do
      Scan.skip 1
      return [x]
    | none, some length => do
      Scan.skip 1
      numbered length
    | none, none =>
      if isBreak c then do
        let _ ← Scan.lineBreak
        breaks fuel
      else Scan.refuse "an unknown escape"

/-- The text up to the closing quote; `acc` holds what was read, the last character first. -/
def text (double : Bool) (acc : List Char) : Nat → Scan (List Char)
  | 0 => return acc.reverse
  | fuel + 1 => do
    match ← Scan.ahead with
    | [] => Scan.refuse "quotes are not closed"
    | c :: rest =>
      if isSpacing c || isBreak c then
        text double ((← spacing (fuel + 1)).reverse ++ acc) fuel
      else if double && c == '"' then do
        Scan.skip 1
        return acc.reverse
      else if double && c == '\\' then do
        Scan.skip 1
        text double ((← escape (fuel + 1)).reverse ++ acc) fuel
      else if !double && c == '\'' then
        if rest.head? == some '\'' then do
          Scan.skip 2
          text double (c :: acc) fuel
        else do
          Scan.skip 1
          return acc.reverse
      else do
        Scan.skip 1
        text double (c :: acc) fuel

/-- A scalar between quotes. -/
def scalar (double : Bool) : Scan String := do
  Scan.skip 1
  return String.ofList (← text double [] ((← Scan.ahead).length + 1))

end FluxFleet.Yaml.Quoted
