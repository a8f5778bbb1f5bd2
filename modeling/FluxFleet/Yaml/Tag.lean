import FluxFleet.Yaml.Timestamp

/-!
# Tags, and what a plain scalar stands for

Every node of a YAML document has a tag. A scalar that is written plainly, without quotes and
without a tag, gets its tag from its text (`Tag.ofPlain`), by the rules of YAML 1.1: the words for
truth values, numbers in several bases and in base sixty, timestamps, and the empty text for the
absent value. Any other text is a string.
-/

namespace FluxFleet.Yaml

/-- The tag of a node. -/
abbrev Tag := String

namespace Tag

/-- What the tags of the standard types start with. -/
def standard : String := "tag:yaml.org,2002:"

/-- A standard tag. -/
def ofWord (word : String) : Tag := standard ++ word

def str : Tag := ofWord "str"
def null : Tag := ofWord "null"
def bool : Tag := ofWord "bool"
def int : Tag := ofWord "int"
def float : Tag := ofWord "float"
def timestamp : Tag := ofWord "timestamp"
def binary : Tag := ofWord "binary"
def merge : Tag := ofWord "merge"
def value : Tag := ofWord "value"
def yaml : Tag := ofWord "yaml"
def seq : Tag := ofWord "seq"
def map : Tag := ofWord "map"
def set : Tag := ofWord "set"
def omap : Tag := ofWord "omap"
def pairs : Tag := ofWord "pairs"

end Tag

namespace Plain

/-- The words for a truth value. -/
def trueWords : List String :=
  ["yes", "Yes", "YES", "true", "True", "TRUE", "on", "On", "ON"]

/-- The words for a false one. -/
def falseWords : List String :=
  ["no", "No", "NO", "false", "False", "FALSE", "off", "Off", "OFF"]

/-- The words for the absent value. -/
def nullWords : List String := ["~", "null", "Null", "NULL", ""]

/-- Infinity without its sign. -/
def infinityWords : List String := [".inf", ".Inf", ".INF"]

/-- The words for a number that is not a number. -/
def notANumberWords : List String := [".nan", ".NaN", ".NAN"]

/-- Whether a character is a digit or an underscore between digits. -/
def isDigitOrGap (c : Char) : Bool := c.isDigit || c == '_'

/-- Whether a character is a hexadecimal digit. -/
def isHexDigit (c : Char) : Bool :=
  c.isDigit || (decide ('a' ≤ c) && decide (c ≤ 'f')) || (decide ('A' ≤ c) && decide (c ≤ 'F'))

/-- The text without a sign. -/
def unsigned : List Char → List Char
  | '+' :: rest => rest
  | '-' :: rest => rest
  | cs => cs

/-- Whether a text is not empty and all its characters pass a test or are underscores. -/
def allDigits (test : Char → Bool) (cs : List Char) : Bool :=
  !cs.isEmpty && cs.all fun c => test c || c == '_'

/-- Cut a text at a character. -/
def splitAt (sep : Char) : List Char → List (List Char)
  | [] => [[]]
  | c :: cs =>
    if c == sep then [] :: splitAt sep cs
    else match splitAt sep cs with
      | part :: parts => (c :: part) :: parts
      | [] => [[c]]

/-- Whether a text is a digit of base sixty. -/
def isSixtieth : List Char → Bool
  | [a] => a.isDigit
  | [a, b] => decide ('0' ≤ a) && decide (a ≤ '5') && b.isDigit
  | _ => false

/-- Whether a text is a colon and a digit of base sixty, once or more. -/
def areSixtieths (cs : List Char) : Bool :=
  match splitAt ':' cs with
  | [] :: part :: parts => (part :: parts).all isSixtieth
  | _ => false

/-- Whether a text is a whole number. -/
def isInt (cs : List Char) : Bool :=
  match unsigned cs with
  | '0' :: 'b' :: rest => allDigits (fun c => c == '0' || c == '1') rest
  | '0' :: 'x' :: rest => allDigits isHexDigit rest
  | ['0'] => true
  | '0' :: rest => allDigits (fun c => decide ('0' ≤ c) && decide (c ≤ '7')) rest
  | c :: rest =>
    c.isDigit && (match rest.dropWhile isDigitOrGap with
      | [] => true
      | tail => areSixtieths tail)
  | [] => false

/-- Whether a text is empty or an exponent with a sign. -/
def isExponent : List Char → Bool
  | [] => true
  | e :: sign :: c :: ds =>
    (e == 'e' || e == 'E') && (sign == '+' || sign == '-') && (c :: ds).all Char.isDigit
  | _ => false

/-- Whether a text that starts with a digit is a number with a decimal point. -/
def isFractional (cs : List Char) : Bool :=
  match cs.dropWhile isDigitOrGap with
  | '.' :: rest => isExponent (rest.dropWhile isDigitOrGap)
  | tail =>
    areSixtieths (tail.takeWhile (· != '.')) &&
      (match tail.dropWhile (· != '.') with
        | '.' :: rest => rest.all isDigitOrGap
        | _ => false)

/-- Whether a text is a number with a decimal point, infinity, or not a number. -/
def isFloat (cs : List Char) : Bool :=
  notANumberWords.contains (String.ofList cs) ||
    infinityWords.contains (String.ofList (unsigned cs)) ||
    (match cs with
      | '.' :: c :: rest => c.isDigit && isExponent (rest.dropWhile isDigitOrGap)
      | _ => false) ||
    (match unsigned cs with
      | c :: rest => c.isDigit && isFractional (c :: rest)
      | [] => false)

end Plain

/-- The text without a line break at its end, unless it has nothing else. -/
def Plain.withoutBreak (cs : List Char) : List Char :=
  match cs.reverse with
  | '\n' :: c :: before => (c :: before).reverse
  | _ => cs

/-- The tag of a scalar that is written plainly. One line break at the end makes no difference. -/
def Tag.ofPlain (text : String) : Tag :=
  let cs := Plain.withoutBreak text.toList
  let s := String.ofList cs
  if Plain.trueWords.contains s || Plain.falseWords.contains s then bool
  else if Plain.isFloat cs then float
  else if Plain.isInt cs then int
  else if s == "<<" then merge
  else if Plain.nullWords.contains s then null
  else if Timestamp.isPlain cs then timestamp
  else if s == "=" then value
  else if s == "!" || s == "&" || s == "*" then yaml
  else str

end FluxFleet.Yaml
