import FluxFleet.Yaml.Block
import FluxFleet.Yaml.Plain
import FluxFleet.Yaml.Token

/-!
# From text to tokens

Most tokens are known by their first characters. A key is not: a scalar or a collection in brackets
turns out to be one only at the colon behind it. So the lexer remembers where such a `Candidate`
started (one for each depth of brackets), and puts the token of the key, and that of a new mapping,
in front of it once the colon is met. A candidate ends with its line and after 1024 characters. The
tokens of a faulty text are those up to the fault, so that what is wrong with them is found first.

Outside brackets the columns decide which collections are open: `margin` is one more than the
column of the innermost one.
-/

namespace FluxFleet.Yaml

/-- A token that may turn out to start a key. -/
structure Candidate where
  /-- the number of tokens before it -/
  position : Nat
  /-- whether nothing but a key can stand here -/
  required : Bool
  index : Nat
  line : Nat
  column : Nat
deriving Repr

/-- The state between two tokens. -/
structure Lexer where
  cursor : Cursor
  /-- the depth of brackets -/
  depth : Nat := 0
  /-- one more than the column of the innermost block collection, zero outside of any -/
  margin : Nat := 0
  /-- the margins around it -/
  outer : List Nat := []
  /-- whether a key or an item may start here -/
  keyAllowed : Bool := true
  /-- the candidates with their depths -/
  candidates : List (Nat × Candidate) := []
  /-- the tokens so far, the last one first -/
  tokens : List Token := []
  /-- how many there are -/
  count : Nat := 0
deriving Repr

/-- Reading tokens. -/
abbrev Lex := StateT Lexer (Except Fault)

namespace Lexer

/-- Refuse the text. -/
def refuse {α : Type} (reason : String) : Lex α := throw (.malformed reason)

/-- Read from the cursor. -/
def scan {α : Type} (action : Scan α) : Lex α := do
  let s ← get
  let (a, cursor) ← action s.cursor
  set { s with cursor }
  return a

/-- Add a token. -/
def emit (t : Token) : Lex Unit :=
  modify fun s => { s with tokens := t :: s.tokens, count := s.count + 1 }

/-- Put a token in front of the one at a position. -/
def emitAt (position : Nat) (t : Token) : Lex Unit :=
  modify fun s =>
    { s with tokens := s.tokens.insertIdx (s.count - position) t, count := s.count + 1 }

/-- Whether keys and items are possible from here on. -/
def allowKeys (allowed : Bool) : Lex Unit := modify fun s => { s with keyAllowed := allowed }

/-- Whether a candidate is out of reach. -/
def isStale (c : Cursor) (k : Candidate) : Bool :=
  k.line != c.line || decide (k.index + 1024 < c.index)

/-- Drop the candidates that are out of reach. -/
def dropStale : Lex Unit := do
  let s ← get
  if s.candidates.any fun k => k.2.required && isStale s.cursor k.2 then refuse "expected a colon"
  set { s with candidates := s.candidates.filter fun k => !isStale s.cursor k.2 }

/-- Drop the candidate of this depth. -/
def dropCandidate : Lex Unit := do
  let s ← get
  if s.candidates.any fun k => k.1 == s.depth && k.2.required then refuse "expected a colon"
  set { s with candidates := s.candidates.filter fun k => k.1 != s.depth }

/-- Remember that the next token may start a key. -/
def addCandidate : Lex Unit := do
  if (← get).keyAllowed then
    dropCandidate
    modify fun s =>
      let k : Candidate :=
        { position := s.count, required := s.depth == 0 && s.margin == s.cursor.column + 1
          index := s.cursor.index, line := s.cursor.line, column := s.cursor.column }
      { s with candidates := (s.depth, k) :: s.candidates }

/-- The state with one block collection less, and the token of its end. -/
def closed (s : Lexer) (outer : List Nat) (margin : Nat) : Lexer :=
  { s with margin, outer, tokens := .blockEnd :: s.tokens, count := s.count + 1 }

/-- The state with all block collections closed whose margin is greater than a bound. -/
def closedTo (bound : Nat) (s : Lexer) : List Nat → Lexer
  | [] => s
  | m :: ms => if bound < s.margin then closedTo bound (s.closed ms m) ms else s

/-- Close all block collections whose margin is greater than a bound; inside brackets columns do not
matter. -/
def unwind (bound : Nat) : Lex Unit :=
  modify fun s => if s.depth = 0 then closedTo bound s s.outer else s

/-- Open a block collection at a column unless it is open, and say whether that was done. -/
def openBlock (column : Nat) : Lex Bool := do
  let s ← get
  if s.margin < column + 1 then
    set { s with outer := s.margin :: s.outer, margin := column + 1 }
    return true
  else return false

/-- Pass spaces, comments and ends of lines; `fuel` bounds the lines. -/
def skipToToken : Nat → Lex Unit
  | 0 => return
  | fuel + 1 => do
    scan do
      Scan.skipSpaces
      Scan.skipComment
    match ← scan Scan.lineBreak with
    | [] => return
    | _ => do
      if (← get).depth = 0 then allowKeys true
      skipToToken fuel

/-- Close everything before a mark or a directive. -/
def closeAll : Lex Unit := do
  unwind 0
  dropCandidate
  allowKeys false

/-- A mark between documents. -/
def mark (t : Token) : Lex Unit := do
  closeAll
  scan (Scan.skip 3)
  emit t

/-- An opening bracket. -/
def openFlow (t : Token) : Lex Unit := do
  addCandidate
  modify fun s => { s with depth := s.depth + 1 }
  allowKeys true
  scan (Scan.skip 1)
  emit t

/-- A closing bracket. -/
def closeFlow (t : Token) : Lex Unit := do
  dropCandidate
  if (← get).depth = 0 then refuse "a bracket is closed that was not opened"
  modify fun s => { s with depth := s.depth - 1 }
  allowKeys false
  scan (Scan.skip 1)
  emit t

/-- A comma. -/
def comma : Lex Unit := do
  allowKeys true
  dropCandidate
  scan (Scan.skip 1)
  emit .comma

/-- The start of an item. -/
def item : Lex Unit := do
  let s ← get
  if s.depth = 0 then
    if !s.keyAllowed then refuse "an item cannot stand here"
    if ← openBlock s.cursor.column then emit .blockSequence
  allowKeys true
  dropCandidate
  scan (Scan.skip 1)
  emit .item

/-- The mark of a key. -/
def key : Lex Unit := do
  let s ← get
  if s.depth = 0 then
    if !s.keyAllowed then refuse "a key cannot stand here"
    if ← openBlock s.cursor.column then emit .blockMapping
  allowKeys (s.depth = 0)
  dropCandidate
  scan (Scan.skip 1)
  emit .key

/-- The colon behind a key. -/
def value : Lex Unit := do
  let s ← get
  match s.candidates.find? fun k => k.1 == s.depth with
  | some (_, k) => do
    modify fun s => { s with candidates := s.candidates.filter fun k => k.1 != s.depth }
    emitAt k.position .key
    if s.depth = 0 then
      if ← openBlock k.column then emitAt k.position .blockMapping
    allowKeys false
  | none => do
    if s.depth = 0 then
      if !s.keyAllowed then refuse "a value cannot stand here"
      if ← openBlock s.cursor.column then emit .blockMapping
    allowKeys (s.depth = 0)
    dropCandidate
  scan (Scan.skip 1)
  emit .value

/-- A token that may start a key. -/
def keyLike (token : Scan Token) : Lex Unit := do
  addCandidate
  allowKeys false
  emit (← scan token)

/-- A scalar as a block. -/
def block (folded : Bool) : Lex Unit := do
  allowKeys true
  dropCandidate
  let margin := (← get).margin
  emit (.scalar (← scan (Block.scalar folded margin)) false)

/-- A scalar between quotes. -/
def quoted (double : Bool) : Lex Unit :=
  keyLike do return .scalar (← Quoted.scalar double) false

/-- A plain scalar. -/
def plain : Lex Unit := do
  addCandidate
  let s ← get
  let (text, newLine) ← scan (Plain.scalar (s.depth != 0) s.margin)
  allowKeys newLine
  emit (.scalar text true)

/-- The characters that no plain scalar starts with. -/
def indicators : List Char := "-?:,[]\x7b\x7d#&*!|>'\"%@`".toList

/-- Whether a plain scalar starts here. -/
def startsPlain (inFlow : Bool) : List Char → Bool
  | [] => false
  | c :: rest =>
    (!isGap c && !indicators.contains c) ||
      (!atGap rest && (c == '-' || (!inFlow && (c == '?' || c == ':'))))

/-- The next token, by the characters ahead. -/
def token (text : List Char) (column : Nat) (inFlow : Bool) : Lex Unit :=
  let lineStart := column == 0
  match text with
  | [] => return
  | c :: rest =>
    if lineStart && c == '%' then do
      closeAll
      emit (← scan Token.directiveToken)
    else if lineStart && startsWithMark text then
      mark (if c == '-' then .documentStart else .documentEnd)
    else if c == '[' then openFlow .flowSequence
    else if c == '\x7b' then openFlow .flowMapping
    else if c == ']' then closeFlow .flowSequenceEnd
    else if c == '\x7d' then closeFlow .flowMappingEnd
    else if c == ',' then comma
    else if c == '-' && atGap rest then item
    else if c == '?' && (inFlow || atGap rest) then key
    else if c == ':' && (inFlow || atGap rest) then value
    else if c == '*' then keyLike do return .reference (← Token.name)
    else if c == '&' then keyLike do return .anchor (← Token.name)
    else if c == '!' then keyLike Token.tagToken
    else if c == '|' && !inFlow then block false
    else if c == '>' && !inFlow then block true
    else if c == '\'' then quoted false
    else if c == '"' then quoted true
    else if startsPlain inFlow text then plain
    else refuse "no token starts with this character"

/-- Go on to the next token and read it; `false` at the end of the text. There are fewer than `fuel`
characters ahead. -/
def step (fuel : Nat) : Lex Bool := do
  skipToToken fuel
  dropStale
  unwind ((← get).cursor.column + 1)
  let s ← get
  if s.cursor.ahead.isEmpty then
    unwind 0
    dropCandidate
    return false
  token s.cursor.ahead s.cursor.column (s.depth != 0)
  return true

/-- The tokens that no later text can change: those before the first candidate. -/
def settled (s : Lexer) : List Token :=
  let pending := (s.candidates.filter fun k => !isStale s.cursor k.2).map (·.2.position)
  s.tokens.reverse.take (pending.foldl min s.count)

/-- Read all tokens; each step passes at least one character, so `fuel` suffices if it is greater
than the number of characters ahead. A fault comes with the tokens that are settled before it. -/
def steps (s : Lexer) : Nat → List Token × Option Fault
  | 0 => (s.settled, none)
  | fuel + 1 =>
    match step (fuel + 1) s with
    | .error f => (s.settled, some f)
    | .ok (true, s) => steps s fuel
    | .ok (false, s) => (s.tokens.reverse, none)

end Lexer

/-- The tokens of a text, and the fault behind them if the text has more. -/
def tokens (text : List Char) : List Token × Option Fault :=
  let text := if text.head? == some '\uFEFF' then text.drop 1 else text
  Lexer.steps { cursor := { ahead := text } } (text.length + 1)

end FluxFleet.Yaml
