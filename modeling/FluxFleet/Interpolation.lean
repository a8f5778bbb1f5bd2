import FluxFleet.Document
import FluxFleet.Value.Height

/-!
# Interpolation: variables in texts

A variable is put into a text where `$`, an opening brace, its name and a closing brace stand; a
name is an ASCII letter or underscore, then letters, digits and underscores. A text is read into
pieces (`pieces`): plain characters and tokens. Tokens do not overlap, and the pieces written one
after another are the text (`written_pieces`).

`substitute` replaces the tokens that have a value, and `variableNames` lists the names of all
tokens. `interpolate` is the substitution of values that a document gives, which may be no texts, in
a value that may be too high for the stack.
-/

namespace FluxFleet.Interpolation

/-- Whether a character may start a name. -/
def isNameStart (c : Char) : Bool := c.isAlpha || c == '_'

/-- Whether a character may stand in a name. -/
def isNameChar (c : Char) : Bool := c.isAlphanum || c == '_'

/-- A part of a text. -/
inductive Piece where
  | plain (c : Char)
  /-- the name of a variable in its braces -/
  | token (name : List Char)
deriving DecidableEq, Repr

/-- A part of a text as it stands there. -/
def Piece.written : Piece → List Char
  | .plain c => [c]
  | .token name => '$' :: '\x7b' :: name ++ ['\x7d']

/-- A name that is closed by a brace, and the rest behind the brace. -/
def closedName? (cs : List Char) : Option (List Char × List Char) :=
  match cs.takeWhile isNameChar, cs.dropWhile isNameChar with
  | c :: name, '\x7d' :: rest => if isNameStart c then some (c :: name, rest) else none
  | _, _ => none

/-- The token at the start of a text, and the rest behind it. -/
def token? : List Char → Option (List Char × List Char)
  | '$' :: '\x7b' :: cs => closedName? cs
  | _ => none

theorem closedName?_eq {cs name rest : List Char} (h : closedName? cs = some (name, rest)) :
    cs = name ++ '\x7d' :: rest := by
  unfold closedName? at h
  split at h
  · next c n r h1 h2 =>
    split at h
    · obtain ⟨rfl, rfl⟩ := Prod.mk.inj (Option.some.inj h)
      rw [← List.takeWhile_append_dropWhile (p := isNameChar) (l := cs), h1, h2]
    · exact absurd h (by simp)
  · exact absurd h (by simp)

theorem token?_eq {cs name rest : List Char} (h : token? cs = some (name, rest)) :
    cs = (Piece.token name).written ++ rest := by
  unfold token? at h
  split at h
  · rw [closedName?_eq h]; simp [Piece.written]
  · exact absurd h (by simp)

/-- The pieces of a text. -/
def pieces (cs : List Char) : List Piece :=
  match h : token? cs with
  | some (name, rest) =>
    have : rest.length < cs.length := by
      rw [token?_eq h]; simp [Piece.written]; omega
    .token name :: pieces rest
  | none =>
    match cs with
    | [] => []
    | c :: rest => .plain c :: pieces rest
termination_by cs.length

/-- The pieces of a text written one after another are the text. -/
theorem written_pieces (cs : List Char) : (pieces cs).flatMap Piece.written = cs := by
  fun_induction pieces cs with
  | case1 cs name rest h _ ih => rw [List.flatMap_cons, ih, ← token?_eq h]
  | case2 => rfl
  | case3 c rest _ ih => simp [Piece.written, ih]

/-- A piece with the value of its variable in place of a token; a token without value stays. -/
def Piece.filled (values : OrderedMap String String) : Piece → List Char
  | .plain c => [c]
  | .token name =>
    match values.get? (String.ofList name) with
    | some v => v.toList
    | none => (Piece.token name).written

/-- A text with the values of its variables. -/
def fill (values : OrderedMap String String) (s : String) : String :=
  String.ofList ((pieces s.toList).flatMap (Piece.filled values))

/-- The name of a token. -/
def Piece.name? : Piece → Option String
  | .plain _ => none
  | .token name => some (String.ofList name)

/-- The names of the tokens of a text, in order and with repetitions. -/
def tokens (s : String) : List String := (pieces s.toList).filterMap Piece.name?

/-- The variables of a text in the order of their first occurrence. -/
def variableNames (s : String) : List String := (tokens s).eraseDups

mutual

/-- A value with the values of variables put into all its texts, but not into the keys of
mappings. -/
def substitute (values : OrderedMap String String) : Value → Value
  | .str s => .str (fill values s)
  | .list _ items => .ofList (substituteItems values items)
  | .tuple _ items => .ofList (substituteItems values items)
  | .dict _ entries => .ofEntries (substituteEntries values entries)
  | v => v

/-- The items of a sequence with the values of variables. -/
def substituteItems (values : OrderedMap String String) : List Value → List Value
  | [] => []
  | v :: vs => substitute values v :: substituteItems values vs

/-- The entries of a mapping with the values of variables. -/
def substituteEntries (values : OrderedMap String String) :
    List (Value × Value) → List (Value × Value)
  | [] => []
  | (k, v) :: es => (k, substitute values v) :: substituteEntries values es

end

mutual

/-- The tokens in all texts of a value, but not in the keys of mappings. -/
def tokensOf : Value → List String
  | .str s => tokens s
  | .list _ items => tokensOfItems items
  | .tuple _ items => tokensOfItems items
  | .dict _ entries => tokensOfEntries entries
  | _ => []

/-- The tokens in the items of a sequence. -/
def tokensOfItems : List Value → List String
  | [] => []
  | v :: vs => tokensOf v ++ tokensOfItems vs

/-- The tokens in the values of a mapping. -/
def tokensOfEntries : List (Value × Value) → List String
  | [] => []
  | (_, v) :: es => tokensOf v ++ tokensOfEntries es

end

/-- The values that the tokens of a value need, as texts: an absent value is empty, any other one
that is not a text fails. -/
def neededTexts (values : OrderedMap String Value) (v : Value) :
    Except Error (OrderedMap String String) := do
  let names := (tokensOf v).eraseDups
  let entries ← names.mapM fun name =>
    match values.get? name with
    | none => pure none
    | some (.str s) => pure (some (name, s))
    | some .null => pure (some (name, ""))
    | some other =>
      throw (.wrongArgument s!"sequence item 0: expected str instance, {other.kind} found")
  return ⟨entries.filterMap id⟩

/-- A value with given values put into it. A value that is too high to be walked fails. -/
def interpolate (stack : Stack) (values : OrderedMap String Value) (v : Value) :
    Except Error Value := do
  if !v.isWithin .whole stack.texts then throw .depth
  return substitute (← neededTexts values v) v

end FluxFleet.Interpolation
