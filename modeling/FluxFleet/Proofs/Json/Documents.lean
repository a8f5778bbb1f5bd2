import FluxFleet.Proofs.Json.RoundTrip
import FluxFleet.Proofs.Serialization
import FluxFleet.Proofs.Value.Part

/-!
# Documents that read back from a JSON file

A document of data (`Value.Data`) has a JSON text exactly if each of its whole numbers can be
written and there is room for its collections (`Json.settles_write`). What is read from the text is
the document made anew (`Value.renewed`): JSON has one kind of sequence, and does not tell which
parts of a document are one. Before the text is made, the rows of a content are walked one inside
the other, which comes to an end in rows that are too high (`Output.serialize_json`).
-/

namespace FluxFleet

namespace Value

/-- A value of data: nothing, truth values, whole numbers, texts, sequences, and mappings whose keys
are different texts. -/
inductive Data : Value → Prop
  | null : Data .null
  | bool (b : Bool) : Data (.bool b)
  | int (i : Int) : Data (.int i)
  | text {s : String} (unpaired : Text.Unpaired s) : Data (.str s)
  | list {mark : Mark} {items : List Value} (data : ∀ v ∈ items, Data v) : Data (.list mark items)
  | tuple {mark : Mark} {items : List Value} (data : ∀ v ∈ items, Data v) : Data (.tuple mark items)
  | dict {mark : Mark} {entries : List (Value × Value)}
      (keys : ∀ e ∈ entries, ∃ key, e.1 = .str key ∧ Text.Unpaired key)
      (different : (entries.map (·.1)).Nodup) (data : ∀ e ∈ entries, Data e.2) :
      Data (.dict mark entries)

mutual

/-- The value with a new sequence for each sequence, and a new mapping for each mapping. -/
def renewed : Value → Value
  | .list _ items => .ofList (renewedItems items)
  | .tuple _ items => .ofList (renewedItems items)
  | .dict _ entries => .ofEntries (renewedEntries entries)
  | v => v

/-- The items, each made anew. -/
def renewedItems : List Value → List Value
  | [] => []
  | v :: vs => v.renewed :: renewedItems vs

/-- The entries with their keys, each value made anew. -/
def renewedEntries : List (Value × Value) → List (Value × Value)
  | [] => []
  | (k, v) :: es => (k, v.renewed) :: renewedEntries es

end

variable {v : Value} {items : List Value} {entries : List (Value × Value)}

theorem renewedItems_eq_map : renewedItems items = items.map renewed := by
  induction items with
  | nil => rfl
  | cons v items ih => rw [renewedItems, ih, List.map_cons]

theorem renewedEntries_eq_map :
    renewedEntries entries = entries.map fun e => (e.1, e.2.renewed) := by
  induction entries with
  | nil => rfl
  | cons e entries ih => rw [renewedEntries, ih, List.map_cons]

/-- Data that is made anew has a form of its own in JSON. -/
theorem Data.readable_renewed (h : v.Data) : Json.Readable v.renewed := by
  have hitems : ∀ {items : List Value}, (∀ v ∈ items, Json.Readable v.renewed) →
      Json.Readable (.ofList (renewedItems items)) := by
    intro items ih
    rw [renewedItems_eq_map]
    exact .list (List.forall_mem_map.mpr ih)
  induction h with
  | null => exact .null
  | bool b => exact .bool b
  | int i => exact .int i
  | text unpaired => exact .text unpaired
  | list _ ih => exact hitems ih
  | tuple _ ih => exact hitems ih
  | dict keys different _ ih =>
    rw [renewed, renewedEntries_eq_map]
    refine .dict (List.forall_mem_map.mpr keys) ?_ (List.forall_mem_map.mpr ih)
    rwa [List.map_map]

theorem Data.isEndless_eq_false (walk : Walk) (h : v.Data) : v.isEndless walk = false := by
  induction h with
  | list _ ih => exact areEndless_eq_false ih
  | tuple _ ih => exact areEndless_eq_false ih
  | dict _ _ _ ih =>
    cases walk with
    | rows => rfl
    | whole => exact areEntriesEndless_eq_false ih
  | _ => rfl

end Value

namespace Json

variable {layout : Layout} {depth : Nat}

mutual

/-- A value is written like the one that is made anew. -/
theorem write_renewed (layout : Layout) (depth : Nat) (v : Value) :
    write layout depth v.renewed = write layout depth v := by
  cases v with
  | list mark items => rw [Value.renewed, Value.ofList, write, write, writeItems_renewed]
  | tuple mark items => rw [Value.renewed, Value.ofList, write, write, writeItems_renewed]
  | dict mark entries => rw [Value.renewed, Value.ofEntries, write, write, writeEntries_renewed]
  | _ => rfl

theorem writeItems_renewed (layout : Layout) (depth : Nat) (items : List Value) :
    writeItems layout depth (Value.renewedItems items) = writeItems layout depth items := by
  cases items with
  | nil => rfl
  | cons v items =>
    rw [Value.renewedItems, writeItems, writeItems, write_renewed, writeItems_renewed]

theorem writeEntries_renewed (layout : Layout) (depth : Nat) (entries : List (Value × Value)) :
    writeEntries layout depth (Value.renewedEntries entries) =
      writeEntries layout depth entries := by
  cases entries with
  | nil => rfl
  | cons e entries =>
    rw [Value.renewedEntries, writeEntries, writeEntries, write_renewed, writeEntries_renewed]

end

/-! ## What becomes of writing -/

/-- Writing gives a result if there are levels enough and all numbers can be written. Otherwise it
fails for one of these reasons. -/
inductive Settles {α : Type} (low writable : Prop) : Except Fault α → Prop
  | written (a : α) (fits : low) (short : writable) : Settles low writable (.ok a)
  | tooHigh (high : ¬ low) : Settles low writable (.error .depth)
  | tooLong (long : ¬ writable) : Settles low writable (.error .digits)

variable {α β : Type} {low low' writable writable' : Prop} {x : Except Fault α}

theorem Settles.bind {f : α → Except Fault β} (hx : Settles low writable x)
    (hf : ∀ a, Settles low' writable' (f a)) :
    Settles (low ∧ low') (writable ∧ writable') (x >>= f) := by
  cases hx with
  | written a hlow hwritable =>
    have hfirst : Except.ok a >>= f = f a := rfl
    have hrest := hf a
    rw [hfirst]
    generalize f a = y at hrest ⊢
    cases hrest with
    | written b hlow' hwritable' => exact .written b ⟨hlow, hlow'⟩ ⟨hwritable, hwritable'⟩
    | tooHigh high => exact .tooHigh fun h => high h.2
    | tooLong long => exact .tooLong fun h => long h.2
  | tooHigh high => exact .tooHigh fun h => high h.1
  | tooLong long => exact .tooLong fun h => long h.1

theorem Settles.map (hx : Settles low writable x) (f : α → β) :
    Settles low writable (x >>= fun a => .ok (f a)) := by
  cases hx with
  | written a hlow hwritable => exact .written (f a) hlow hwritable
  | tooHigh high => exact .tooHigh high
  | tooLong long => exact .tooLong long

theorem Settles.congr (hx : Settles low writable x) (hlow : low ↔ low')
    (hwritable : writable ↔ writable') : Settles low' writable' x := by
  rwa [← propext hlow, ← propext hwritable]

variable {width limit : Nat}

theorem settles_writeItems {items : List Value}
    (h : ∀ v ∈ items, Settles (v.height .whole ≤ limit - depth) (v.isWritable = true)
      (write (.lines width limit) depth v)) :
    Settles (Value.heightOfItems .whole items ≤ limit - depth) (Value.areWritable items = true)
      (writeItems (.lines width limit) depth items) := by
  induction items with
  | nil => exact .written [] (Nat.zero_le _) rfl
  | cons v items ih =>
    obtain ⟨hv, hitems⟩ := List.forall_mem_cons.mp h
    exact (hv.bind fun text => (ih hitems).map (text :: ·)).congr Nat.max_le.symm
      Bool.and_eq_true_iff.symm

theorem settles_writeEntries {entries : List (Value × Value)}
    (hkeys : ∀ e ∈ entries, ∃ key, e.1 = .str key)
    (h : ∀ e ∈ entries, Settles (e.2.height .whole ≤ limit - depth) (e.2.isWritable = true)
      (write (.lines width limit) depth e.2)) :
    Settles (Value.heightOfEntries .whole entries ≤ limit - depth)
      (Value.areEntriesWritable entries = true)
      (writeEntries (.lines width limit) depth entries) := by
  induction entries with
  | nil => exact .written [] (Nat.zero_le _) rfl
  | cons e entries ih =>
    obtain ⟨⟨key, hkey⟩, hothers⟩ := List.forall_mem_cons.mp hkeys
    obtain ⟨hv, hentries⟩ := List.forall_mem_cons.mp h
    obtain ⟨k, v⟩ := e
    cases hkey
    have htexts := hv.bind fun text =>
      (ih hothers hentries).map fun texts => (quoted key ++ ": " ++ text) :: texts
    exact htexts.congr Nat.max_le.symm Bool.and_eq_true_iff.symm

/-- A collection is one level more than what stands in it. -/
theorem Settles.level {γ : Type} {height : Nat} {y : Except Fault γ} {f : γ → String}
    (h : Settles (height ≤ limit - (depth + 1)) writable y) :
    Settles (height + 1 ≤ limit - depth) writable (do
      if (Layout.lines width limit).isFull depth then throw .depth
      return f (← y)) := by
  rw [Layout.isFull]
  by_cases hfull : limit ≤ depth
  · rw [if_pos (decide_eq_true hfull)]
    exact .tooHigh (by omega)
  · rw [if_neg (by rwa [decide_eq_true_iff])]
    exact (h.map f).congr (by omega) Iff.rfl

/-- Data has a text if there are levels enough and its whole numbers can be written, and none
otherwise. -/
theorem settles_write {v : Value} (h : v.Data) (depth : Nat) :
    Settles (v.height .whole ≤ limit - depth) (v.isWritable = true)
      (write (.lines width limit) depth v) := by
  induction h generalizing depth with
  | null => exact .written _ (Nat.zero_le _) rfl
  | bool b => exact .written _ (Nat.zero_le _) rfl
  | int i =>
    rw [Value.isWritable, write, intText]
    cases isWritable i with
    | true => exact .written _ (Nat.zero_le _) rfl
    | false => exact .tooLong Bool.false_ne_true
  | text _ => exact .written _ (Nat.zero_le _) rfl
  | list _ ih => exact (settles_writeItems fun v hv => ih v hv (depth + 1)).level
  | tuple _ ih => exact (settles_writeItems fun v hv => ih v hv (depth + 1)).level
  | dict keys _ _ ih =>
    have htexts := settles_writeEntries (fun e he => (keys e he).imp fun _ hkey => hkey.1)
      fun e he => ih e he (depth + 1)
    exact htexts.level

/-! ## What is read -/

/-- A written value starts at once, and nothing stands behind it. -/
theorem readValue?_write {v : Value} {text : String} (h : Readable v)
    (hwrite : write layout depth v = .ok text) : skipBlank text.toList = text.toList ∧
      readValue? (2 * text.toList.length) text.toList = some (v, []) := by
  obtain ⟨c, ds, hlist, hc⟩ := exists_head h hwrite
  refine ⟨by rw [hlist, skipBlank_cons hc], ?_⟩
  have hread := readsBack h hwrite (2 * text.toList.length) [] (Nat.le_refl _) nofun
  rwa [List.append_nil] at hread

/-- A line end behind it is no part of the value. -/
theorem read?_write_newline {v : Value} {text : String} (h : Readable v)
    (hwrite : write layout depth v = .ok text) : read? (text ++ "\n") = some v := by
  have hlist : (text ++ "\n").toList = text.toList ++ ['\n'] := String.toList_append
  have hhead : ∀ c ∈ ['\n'].head?, isNumberChar c = false := by
    rintro c hc
    cases hc
    rfl
  have hread := readsBack h hwrite (2 * (text ++ "\n").toList.length + 2) ['\n']
    (by rw [hlist, List.length_append]; omega) hhead
  rw [← hlist] at hread
  rw [read?, hread]
  rfl

end Json

namespace Output

/-- Rows that are too high fail before the text is made. -/
theorem serialize_json {form : Yaml.Node.Form} {content : Content} (hdata : content.value.Data) :
    serialize form content "json" =
      if content.value.height .rows ≤ form.stack.rows then
        match Json.pretty form.stack.json content.value with
        | .ok text => .ok (text ++ "\n")
        | .error fault => .error (.json fault)
      else .error .depth := by
  have hwithin : content.value.isWithin .rows form.stack.rows =
      decide (content.value.height .rows ≤ form.stack.rows) := by
    rw [Value.isWithin, hdata.isEndless_eq_false, Bool.not_false, Bool.true_and]
  rw [serialize, hwithin]
  split
  · next h =>
    rw [Bool.not_eq_true', decide_eq_false_iff_not] at h
    rw [if_neg h]
    rfl
  · next h =>
    rw [Bool.not_eq_true', decide_eq_false_iff_not, not_not] at h
    rw [if_pos h]
    rfl

/-- What a reader makes of a content: the document, or the row of the documents in their order. -/
def Content.decoded : Content → Value
  | .single document => document.renewed
  | .many documents => .ofList (documents.map Value.renewed)

theorem Content.renewed_value (content : Content) : content.value.renewed = content.decoded := by
  cases content with
  | single document => rfl
  | many documents =>
    rw [decoded, ← Value.renewedItems_eq_map]
    rfl

/-- Two code points that are 0x100000 above the halves of a pair. -/
def stamp : String := Text.ofCodePoints [0x10D800, 0x10DC00]

/-- A row of two documents, with texts that need escapes. -/
def shelf : Content :=
  .many [.record [("name", .str "a \"ü\" 😀"), ("items", .ofList [.int 3, .null, .ofList []])],
    .record [("stamp", .str stamp)]]

theorem unpaired_stamp : Text.Unpaired stamp := by
  refine Text.unpaired_of_isSurrogate ?_
  rw [stamp, Text.codePoints_ofCodePoints (by decide)]
  decide

theorem data_shelf : shelf.value.Data := by
  have hitems : (Value.ofList [.int 3, .null, .ofList []]).Data := by
    refine .list fun v hv => ?_
    simp only [List.mem_cons, List.not_mem_nil, or_false] at hv
    rcases hv with rfl | rfl | rfl
    · exact .int 3
    · exact .null
    · exact .list fun v hv => absurd hv List.not_mem_nil
  refine .list fun v hv => ?_
  rcases List.mem_pair.mp hv with rfl | rfl
  · refine .dict (fun e he => ?_) (by simp) (fun e he => ?_)
    · rcases List.mem_pair.mp he with rfl | rfl
      · exact ⟨_, rfl, by decide⟩
      · exact ⟨_, rfl, by decide⟩
    · rcases List.mem_pair.mp he with rfl | rfl
      · exact .text (by decide)
      · exact hitems
  · refine .dict (fun e he => ?_) (by simp) (fun e he => ?_)
    · obtain rfl := List.mem_singleton.mp he
      exact ⟨_, rfl, by decide⟩
    · obtain rfl := List.mem_singleton.mp he
      exact .text unpaired_stamp

theorem isWritable_shelf : shelf.value.isWritable = true := by
  have hthree : isWritable 3 = true := Value.isWritable_byte 3
  simp [shelf, Content.value, Value.record, Value.ofList, Value.ofEntries, Value.isWritable,
    Value.areWritable, Value.areEntriesWritable, hthree]

/-- So many sequences around each other. -/
def tower : Nat → Value
  | 0 => .null
  | n + 1 => .ofList [tower n]

theorem data_tower (n : Nat) : (tower n).Data := by
  induction n with
  | zero => exact .null
  | succ n ih => exact .list fun v hv => List.mem_singleton.mp hv ▸ ih

theorem height_tower (walk : Walk) (n : Nat) : (tower n).height walk = n := by
  induction n with
  | zero => rfl
  | succ n ih =>
    rw [tower, Value.ofList, Value.height, Value.heightOfItems, Value.heightOfItems, ih,
      Nat.max_zero]

end Output

end FluxFleet
