import FluxFleet.Text.Digit
import FluxFleet.Text.Utf8
import FluxFleet.Yaml.Cursor

/-!
# Tokens

A document is read in two steps: its text becomes a row of tokens, and these become its tree. The
start and the end of a collection in block style are tokens too, although the text shows them by
indentation alone.
-/

namespace FluxFleet.Yaml

/-- A line before a document that says how to read it. -/
inductive Directive where
  /-- the version of the language -/
  | version (major : Nat)
  /-- what a handle stands for at the start of a tag -/
  | handle (handle start : String)
  /-- any other directive, which is passed over -/
  | other
deriving DecidableEq, Repr

/-- A token. -/
inductive Token where
  | directive (d : Directive)
  | documentStart
  | documentEnd
  | blockSequence
  | blockMapping
  | blockEnd
  | flowSequence
  | flowSequenceEnd
  | flowMapping
  | flowMappingEnd
  /-- the dash before an item -/
  | item
  /-- the comma between entries -/
  | comma
  | key
  | value
  /-- a name in place of the node that bears it -/
  | reference (name : String)
  | anchor (name : String)
  /-- a tag; without handle its text is complete -/
  | tag (handle : Option String) (text : String)
  | scalar (text : String) (plain : Bool)
deriving DecidableEq, Repr

namespace Token

/-- The name behind an anchor or a reference. -/
def name : Scan String := do
  Scan.skip 1
  let cs ← Scan.takeWhile isNameChar
  if cs.isEmpty then Scan.refuse "expected a name"
  match ← Scan.ahead with
  | c :: rest =>
    if !atGap (c :: rest) && !"?:,]\x7d%@`".toList.contains c then Scan.refuse "expected a space"
  | [] => pure ()
  return String.ofList cs

/-- Bytes in a row, each written as a percent sign and two hexadecimal digits. -/
def escapedBytes : Nat → Scan (List UInt8)
  | 0 => return []
  | fuel + 1 => do
    match ← Scan.ahead with
    | '%' :: a :: b :: _ =>
      match Text.hexValue? a, Text.hexValue? b with
      | some x, some y => do
        Scan.skip 3
        return UInt8.ofNat (x * 16 + y) :: (← escapedBytes fuel)
      | _, _ => Scan.refuse "expected two hexadecimal digits"
    | '%' :: _ => Scan.refuse "expected two hexadecimal digits"
    | _ => return []

/-- The text of a tag from here on; `fuel` bounds its parts. -/
def tagParts : Nat → Scan (List Char)
  | 0 => return []
  | fuel + 1 => do
    let cs ← Scan.takeWhile fun c => isTagChar c && c != '%'
    match (← Scan.ahead).head? with
    | some '%' =>
      match Text.decode (← escapedBytes (fuel + 1)) with
      | .ok decoded => return cs ++ decoded ++ (← tagParts fuel)
      | .error _ => Scan.refuse "a tag is no text"
    | _ => return cs

/-- The text of a tag. -/
def tagText : Scan String := do
  let cs ← tagParts ((← Scan.ahead).length + 1)
  if cs.isEmpty then Scan.refuse "expected a tag"
  return String.ofList cs

/-- The handle of a tag: an exclamation mark, or a name between two of them. -/
def handle : Scan String := do
  match ← Scan.ahead with
  | '!' :: ' ' :: _ => do
    Scan.skip 1
    return "!"
  | '!' :: rest =>
    let word := rest.takeWhile isNameChar
    if rest[word.length]? == some '!' then do
      Scan.skip (word.length + 2)
      return String.ofList ('!' :: word ++ ['!'])
    else Scan.refuse "expected a handle"
  | _ => Scan.refuse "expected a handle"

/-- Whether a handle stands before the text of a tag, behind its exclamation mark. -/
def hasHandle (cs : List Char) : Bool :=
  (cs.dropWhile fun c => !(isBreak c || c == ' ' || c == '!')).head? == some '!'

/-- A tag. -/
def tagToken : Scan Token := do
  let token ← match ← Scan.ahead with
    | _ :: '<' :: _ => do
      Scan.skip 2
      let text ← tagText
      if (← Scan.ahead).head? != some '>' then Scan.refuse "a tag is not closed"
      Scan.skip 1
      pure (Token.tag none text)
    | _ :: rest =>
      if atGap rest then do
        Scan.skip 1
        pure (Token.tag none "!")
      else if hasHandle rest then do
        let h ← handle
        pure (Token.tag (some h) (← tagText))
      else do
        Scan.skip 1
        pure (Token.tag (some "!") (← tagText))
    | [] => Scan.refuse "expected a tag"
  if !atWordEnd (← Scan.ahead) then Scan.refuse "expected a space"
  return token

/-- A whole number. -/
def number : Scan Nat := do
  let digits ← Scan.takeWhile Char.isDigit
  if digits.isEmpty then Scan.refuse "expected a number"
  if let some f := Text.digitFault? 10 digits then throw (.unusable (.scalar (.digits f)))
  return digits.foldl (fun n c => n * 10 + (c.toNat - '0'.toNat)) 0

/-- The version behind its directive. -/
def version : Scan Directive := do
  Scan.skipSpaces
  let major ← number
  if (← Scan.ahead).head? != some '.' then Scan.refuse "expected a version"
  Scan.skip 1
  let _ ← number
  if !atWordEnd (← Scan.ahead) then Scan.refuse "expected a version"
  return .version major

/-- The handle behind its directive, and what it stands for. -/
def declaredHandle : Scan Directive := do
  Scan.skipSpaces
  let h ← handle
  if (← Scan.ahead).head? != some ' ' then Scan.refuse "expected a space"
  Scan.skipSpaces
  let start ← tagText
  if !atWordEnd (← Scan.ahead) then Scan.refuse "expected a space"
  return .handle h start

/-- A directive. -/
def directiveToken : Scan Token := do
  Scan.skip 1
  let word ← Scan.takeWhile isNameChar
  if word.isEmpty || !atWordEnd (← Scan.ahead) then Scan.refuse "expected a directive"
  let d ← match String.ofList word with
    | "YAML" => version
    | "TAG" => declaredHandle
    | _ => do
      Scan.skipWhile fun c => !isBreak c
      pure .other
  Scan.endOfLine
  return .directive d

end Token

end FluxFleet.Yaml
