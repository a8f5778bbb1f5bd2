import FluxFleet.Yaml.Lexer
import FluxFleet.Yaml.Part.Tokens
import FluxFleet.Yaml.Part.Values

/-!
# Reading YAML

`Yaml.read` reads the single document of a text: its tokens become parts, and the parts a value. A
text without a document gives the absent value. The parts of several texts are told apart by their
numbers, so reading goes from the first number that is free to the next one.
-/

namespace FluxFleet.Yaml

/-- The value of the document in a text with at most so many collections around each other, and the
next free number. -/
def read (limit first : Nat) (text : List Char) : Except Fault (Value × Nat) := do
  let text := Text.uniformLines text
  if !text.all isAllowed then throw (.malformed "a character that no document may hold")
  let (ts, fault) := tokens text
  match ← Parts.ofTokens? limit ts fault with
  | some (parts, root) => parts.value root first
  | none => return (.null, first)

end FluxFleet.Yaml
