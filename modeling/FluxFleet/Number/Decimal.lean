import FluxFleet.Number.Double
import FluxFleet.Text.Digit

/-!
# Floating-point numbers in text

`Double.read?` reads a number with blank ends: an optional sign, then digits with an optional
decimal point and exponent, or one of the names for infinity and for a number that is not a number.
Single underscores may stand between digits.
-/

namespace FluxFleet.Double

/-- Digits at the start of a text, without the single underscores between them, and the rest;
`inside` says whether a digit stands before the text. -/
def digitRun (inside : Bool) : List Char → List Nat × List Char
  | [] => ([], [])
  | c :: rest =>
    match Text.digitValue? c with
    | some d =>
      let (ds, tail) := digitRun true rest
      (d :: ds, tail)
    | none =>
      if inside && c == '_' && (rest.head?.bind Text.digitValue?).isSome then digitRun false rest
      else ([], c :: rest)

/-- The value of digits. -/
def valueOf (ds : List Nat) : Nat := ds.foldl (fun n d => n * 10 + d) 0

/-- An exponent that fills the text. -/
def exponent? (cs : List Char) : Option Int :=
  match cs with
  | [] => some 0
  | c :: rest =>
    if c == 'e' || c == 'E' then
      let (negative, rest) := match rest with
        | '-' :: rest => (true, rest)
        | '+' :: rest => (false, rest)
        | rest => (false, rest)
      match digitRun false rest with
      | ([], _) => none
      | (ds, []) => some (if negative then -(valueOf ds : Int) else valueOf ds)
      | _ => none
    else none

/-- A number without sign. -/
def magnitude? (negative : Bool) (cs : List Char) : Option Double :=
  match (String.ofList cs).toLower with
  | "inf" => some (infinity negative)
  | "infinity" => some (infinity negative)
  | "nan" => some notANumber
  | _ =>
    let (whole, rest) := digitRun false cs
    let (fraction, rest) := match rest with
      | '.' :: rest => digitRun false rest
      | rest => ([], rest)
    if whole.isEmpty && fraction.isEmpty then none
    else (exponent? rest).map fun e =>
      ofDecimal negative (valueOf (whole ++ fraction)) (e - fraction.length)

/-- A number with blank ends and an optional sign. -/
def read? (cs : List Char) : Option Double :=
  match Text.trimChars cs with
  | '-' :: rest => magnitude? true rest
  | '+' :: rest => magnitude? false rest
  | rest => magnitude? false rest

end FluxFleet.Double
