import FluxFleet.Number.Limit
import FluxFleet.Number.Shortest
import FluxFleet.Text.Quoted
import FluxFleet.Value.Basic

/-!
# The text of a value

`Value.text` is a value as it is written into another text: a string stands for itself.
`Value.literal` is a value as it is shown in a message: strings are quoted and nested values are
shown in brackets.
-/

namespace FluxFleet.Value

/-- One byte between the quotes `quote`. -/
def byteText (quote : Char) (b : UInt8) : String :=
  let c := Char.ofNat b.toNat
  if c == quote || c == '\\' then String.ofList ['\\', c]
  else if c == '\n' then "\\n"
  else if c == '\r' then "\\r"
  else if c == '\t' then "\\t"
  else if 0x20 ≤ b.toNat && b.toNat < 0x7F then String.singleton c
  else "\\x" ++ Text.hex 2 b.toNat

/-- Bytes in quotes. -/
def bytesText (bs : List UInt8) : String :=
  let q := Text.quoteFor (bs.map fun b => Char.ofNat b.toNat)
  "b" ++ String.singleton q ++ String.join (bs.map (byteText q)) ++ String.singleton q

/-- An offset from universal time as it is shown in a message. -/
def offsetLiteral (seconds : Int) : String :=
  if seconds = 0 then "datetime.timezone.utc"
  else s!"datetime.timezone(datetime.timedelta({Moment.span seconds}))"

/-- A moment as it is shown in a message. -/
def momentLiteral (t : Moment) : String :=
  s!"datetime.datetime({t.numbers}" ++
    (match t.offset with | some o => s!", tzinfo={offsetLiteral o}" | none => "") ++ ")"

/-- The parts around a place, by number, each with what stands for it inside itself. -/
abbrev Around := List (Nat × String)

/-- What is around the items of a part. -/
def Around.within (around : Around) (mark : Mark) (short : String) : Around :=
  match mark with
  | .loop n => (n, short) :: around
  | _ => around

/-- What stands for a part that is around the place already. -/
def Around.find? (around : Around) (mark : Mark) : Option String :=
  match mark with
  | .loop n => around.lookup n
  | _ => none

/-- The items of a tuple between brackets; a comma follows a single one. -/
def tupleText : List String → String
  | [single] => "(" ++ single ++ ",)"
  | texts => "(" ++ ", ".intercalate texts ++ ")"

/-- The members of a set between braces. -/
def setText : List String → String
  | [] => "set()"
  | texts => "\x7b" ++ ", ".intercalate texts ++ "\x7d"

mutual

/-- A value as it is shown in a message, below the parts that are around it. A part that comes back
inside itself is cut short. -/
def shown (around : Around) : Value → String
  | .null => "None"
  | .bool b => if b then "True" else "False"
  | .int i => toString i
  | .float x => x.text
  | .str s => Text.quoted s
  | .bytes bs => bytesText bs
  | .date _ d => s!"datetime.date({d.numbers})"
  | .moment _ t => momentLiteral t
  | .list m items =>
    (around.find? m).getD
      ("[" ++ ", ".intercalate (shownItems (around.within m "[...]") items) ++ "]")
  | .tuple m items =>
    (around.find? m).getD (tupleText (shownItems (around.within m "(...)") items))
  | .set _ items => setText (shownItems around items)
  | .dict m entries =>
    (around.find? m).getD ("\x7b" ++ ", ".intercalate
      (shownEntries (around.within m "\x7b...\x7d") entries) ++ "\x7d")
  | .again n => (around.lookup n).getD "..."

/-- The items of a sequence as they are shown. -/
def shownItems (around : Around) : List Value → List String
  | [] => []
  | v :: vs => shown around v :: shownItems around vs

/-- The entries of a mapping as they are shown. -/
def shownEntries (around : Around) : List (Value × Value) → List String
  | [] => []
  | (k, v) :: es => (shown around k ++ ": " ++ shown around v) :: shownEntries around es

end

/-- A value as it is shown in a message. -/
def literal (v : Value) : String := v.shown []

/-- A value as it is written into another text. -/
def text : Value → String
  | .str s => s
  | .date _ d => d.iso
  | .moment _ t => t.iso " "
  | v => v.literal

mutual

/-- Whether a value can be written: each whole number in it has a text. -/
def isWritable : Value → Bool
  | .int i => FluxFleet.isWritable i
  | .list _ items => areWritable items
  | .tuple _ items => areWritable items
  | .set _ items => areWritable items
  | .dict _ entries => areEntriesWritable entries
  | _ => true

/-- Whether all items can be written. -/
def areWritable : List Value → Bool
  | [] => true
  | v :: vs => isWritable v && areWritable vs

/-- Whether all entries can be written. -/
def areEntriesWritable : List (Value × Value) → Bool
  | [] => true
  | (k, v) :: es => isWritable k && isWritable v && areEntriesWritable es

end

@[simp] theorem text_str (s : String) : (Value.str s).text = s := rfl

/-- The arguments of a failure as its text: none is empty, one is itself, more are a tuple. -/
def argumentsText : List Value → String
  | [] => ""
  | [v] => v.text
  | vs => (Value.tuple .none vs).literal

end FluxFleet.Value
