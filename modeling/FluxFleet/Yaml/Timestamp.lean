import FluxFleet.Calendar

/-!
# Timestamps

A timestamp is a day `2024-01-31`, or a day and a time of day with an optional fraction and an
optional offset from universal time. `Timestamp.parse?` takes the text apart; whether the numbers
are a day of the calendar is decided later (`Timestamp.date`, `Timestamp.moment`).
-/

namespace FluxFleet.Yaml

/-- The time of day of a timestamp. -/
structure Timestamp.Clock where
  hour : Nat
  minute : Nat
  second : Nat
  /-- the digits behind the decimal point -/
  fraction : List Char
  /-- the seconds of the offset from universal time -/
  offset : Option Int
deriving Repr

/-- A timestamp taken apart. -/
structure Timestamp where
  year : Nat
  month : Nat
  day : Nat
  /-- whether month and day have two digits each -/
  fullDay : Bool
  clock : Option Timestamp.Clock
deriving Repr

namespace Timestamp

/-- The value of ASCII digits. -/
def number (ds : List Char) : Nat := ds.foldl (fun n c => n * 10 + (c.toNat - '0'.toNat)) 0

/-- Digits at the start of a text, at least `least` and at most `most` of them, and the rest. -/
def digits? (least most : Nat) (cs : List Char) : Option (List Char × List Char) :=
  let ds := (cs.take most).takeWhile Char.isDigit
  if least ≤ ds.length then some (ds, cs.drop ds.length) else none

/-- The rest of a text behind a character. -/
def after? (c : Char) : List Char → Option (List Char)
  | d :: rest => if c == d then some rest else none
  | [] => none

/-- Whether a character separates the parts of a timestamp. -/
def isGap (c : Char) : Bool := c == ' ' || c == '\t'

/-- The rest behind the separator of day and time. -/
def afterGap? : List Char → Option (List Char)
  | c :: rest =>
    if c == 'T' || c == 't' then some rest
    else if isGap c then some (rest.dropWhile isGap)
    else none
  | [] => none

/-- A signed offset in hours and minutes that fills the text. -/
def signedOffset? (sign : Int) (cs : List Char) : Option Int := do
  let (hours, rest) ← digits? 1 2 cs
  match rest with
  | [] => return sign * (number hours * 3600)
  | ':' :: rest =>
    let (minutes, rest) ← digits? 2 2 rest
    if rest.isEmpty then return sign * (number hours * 3600 + number minutes * 60 : Nat) else none
  | _ => none

/-- The offset that fills the text: none, `Z`, or hours and minutes. -/
def offset? (cs : List Char) : Option (Option Int) :=
  match cs with
  | [] => some none
  | cs =>
    match cs.dropWhile isGap with
    | ['Z'] => some (some 0)
    | '+' :: rest => (signedOffset? 1 rest).map some
    | '-' :: rest => (signedOffset? (-1) rest).map some
    | _ => none

/-- A time of day that fills the text. -/
def clock? (cs : List Char) : Option Clock := do
  let (hour, rest) ← digits? 1 2 cs
  let (minute, rest) ← digits? 2 2 (← after? ':' rest)
  let (second, rest) ← digits? 2 2 (← after? ':' rest)
  let (fraction, rest) := match rest with
    | '.' :: rest => (rest.takeWhile Char.isDigit, rest.dropWhile Char.isDigit)
    | rest => ([], rest)
  return { hour := number hour, minute := number minute, second := number second, fraction,
           offset := ← offset? rest }

/-- The text without a line break at its end. -/
def withoutBreak (cs : List Char) : List Char :=
  match cs.reverse with
  | '\n' :: before => before.reverse
  | _ => cs

/-- A text as a timestamp; a line break may follow it. -/
def parse? (text : List Char) : Option Timestamp := do
  let cs := withoutBreak text
  let (year, rest) ← digits? 4 4 cs
  let (month, rest) ← digits? 1 2 (← after? '-' rest)
  let (day, rest) ← digits? 1 2 (← after? '-' rest)
  let clock ← match rest with
    | [] => some none
    | rest => do some <$> clock? (← afterGap? rest)
  return { year := number year, month := number month, day := number day,
           fullDay := month.length == 2 && day.length == 2, clock }

/-- Whether a plain text is read as a timestamp: a day alone needs all its digits. -/
def isPlain (cs : List Char) : Bool :=
  match parse? cs with
  | some t => t.clock.isSome || t.fullDay
  | none => false

/-- The day of a timestamp. -/
def date (t : Timestamp) : Except CalendarFault Date := Date.ofNumbers t.year t.month t.day

/-- The moment of a timestamp with a time of day; digits behind the sixth are cut off. -/
def moment (t : Timestamp) (c : Clock) : Except CalendarFault Moment :=
  let micro := (c.fraction ++ List.replicate 6 '0').take 6
  Moment.ofNumbers t.year t.month t.day c.hour c.minute c.second (number micro) c.offset

end Timestamp

end FluxFleet.Yaml
