import FluxFleet.Document

/-!
# Parts of a value

What is read from a mapping are its parts: a field (`part`), an item or an entry. A value can be
written exactly if each whole number in it can, so what is inside a value that can be written can be
written too, also where a part that comes back inside itself is put in place.
-/

namespace FluxFleet.Value

/-! ## Fields -/

/-- The value of a field; it is absent if there is no such field, or no mapping. -/
def part (doc : Value) (key : String) : Value :=
  (doc.entries?.bind (OrderedMap.find? (.str key))).getD .null

theorem entries?_isSome (v : Value) : v.entries?.isSome = v.isDict := by
  cases v with
  | dict mark entries => cases mark <;> rfl
  | _ => rfl

theorem exists_entries?_of_isDict {v : Value} (h : v.isDict = true) :
    ∃ entries, v.entries? = some entries :=
  Option.isSome_iff_exists.mp (v.entries?_isSome.trans h)

theorem entries?_eq_none {v : Value} (h : v.isDict = false) : v.entries? = none := by
  rw [← Option.isNone_iff_eq_none, ← Option.not_isSome, entries?_isSome, h, Bool.not_false]

/-- The fields of a mapping are its parts. -/
theorem field_of_isDict {doc : Value} (h : doc.isDict = true) (key : String) :
    doc.field key = pure (doc.part key) := by
  obtain ⟨entries, hentries⟩ := exists_entries?_of_isDict h
  simp only [field, part, hentries, Option.bind_some]

theorem field_of_not_isDict {doc : Value} (h : doc.isDict = false) (key : String) :
    doc.field key = .error (.noAttribute doc.qualifiedKind "get") := by
  rw [field, entries?_eq_none h]
  rfl

theorem eq_of_given? {v w : Value} (h : v.given? = some w) : w = v := by
  rw [given?] at h
  split at h
  · cases h
  · exact (Option.some.inj h).symm

/-! ## Writing -/

theorem tenTo_le_tenTo {m n : Nat} (h : m ≤ n) : tenTo m ≤ tenTo n :=
  Nat.pow_le_pow_right (by decide) h

/-- A byte has few digits. -/
theorem isWritable_byte (b : UInt8) : (Value.int b.toNat).isWritable = true := by
  have hpower : 1000 ≤ tenTo digitLimit := @tenTo_le_tenTo 3 digitLimit (by decide)
  have hbyte : b.toNat < 256 := b.toNat_lt
  rw [isWritable, FluxFleet.isWritable, decide_eq_true_iff, Int.natAbs_natCast]
  omega

theorem isWritable_of_mem {items : List Value} (h : areWritable items = true) {v : Value}
    (hv : v ∈ items) : v.isWritable = true := by
  induction items with
  | nil => cases hv
  | cons w ws ih =>
    rw [areWritable, Bool.and_eq_true] at h
    rcases List.mem_cons.mp hv with rfl | hv
    · exact h.1
    · exact ih h.2 hv

theorem isWritable_of_mem_entries {entries : List (Value × Value)}
    (h : areEntriesWritable entries = true) {e : Value × Value} (he : e ∈ entries) :
    e.1.isWritable = true ∧ e.2.isWritable = true := by
  induction entries with
  | nil => cases he
  | cons e' es ih =>
    obtain ⟨k, v⟩ := e'
    rw [areEntriesWritable, Bool.and_eq_true, Bool.and_eq_true] at h
    rcases List.mem_cons.mp he with rfl | he
    · exact h.1
    · exact ih h.2 he

section Close

variable {n : Nat} {whole : Value}

mutual

/-- A value that can be written is put in place inside of one. -/
theorem isWritable_close (hwhole : whole.isWritable = true) (v : Value)
    (h : v.isWritable = true) : (close n whole v).isWritable = true := by
  cases v with
  | again k =>
    rw [close]
    split
    · exact hwhole
    · exact h
  | list mark items =>
    cases mark with
    | loop k =>
      rw [close, isWritable]
      split
      · exact h
      · exact areWritable_close hwhole items h
    | _ => exact h
  | tuple mark items =>
    cases mark with
    | loop k =>
      rw [close, isWritable]
      split
      · exact h
      · exact areWritable_close hwhole items h
    | _ => exact h
  | dict mark entries =>
    cases mark with
    | loop k =>
      rw [close, isWritable]
      split
      · exact h
      · exact areEntriesWritable_close hwhole entries h
    | _ => exact h
  | _ => exact h

theorem areWritable_close (hwhole : whole.isWritable = true) (items : List Value)
    (h : areWritable items = true) : areWritable (closeItems n whole items) = true := by
  cases items with
  | nil => rfl
  | cons v vs =>
    rw [areWritable, Bool.and_eq_true] at h
    rw [closeItems, areWritable, Bool.and_eq_true]
    exact ⟨isWritable_close hwhole v h.1, areWritable_close hwhole vs h.2⟩

theorem areEntriesWritable_close (hwhole : whole.isWritable = true)
    (entries : List (Value × Value)) (h : areEntriesWritable entries = true) :
    areEntriesWritable (closeEntries n whole entries) = true := by
  cases entries with
  | nil => rfl
  | cons e es =>
    obtain ⟨k, v⟩ := e
    rw [areEntriesWritable, Bool.and_eq_true, Bool.and_eq_true] at h
    rw [closeEntries, areEntriesWritable, Bool.and_eq_true, Bool.and_eq_true]
    exact ⟨⟨h.1.1, isWritable_close hwhole v h.1.2⟩, areEntriesWritable_close hwhole es h.2⟩

end

end Close

variable {v : Value}

/-- The entries of a mapping that can be written can be written. -/
theorem isWritable_of_entries? (h : v.isWritable = true) {entries : List (Value × Value)}
    (hentries : v.entries? = some entries) {e : Value × Value} (he : e ∈ entries) :
    e.1.isWritable = true ∧ e.2.isWritable = true := by
  cases v with
  | dict mark inner =>
    refine isWritable_of_mem_entries ?_ he
    cases mark with
    | loop n =>
      cases hentries
      exact areEntriesWritable_close h inner h
    | _ =>
      cases hentries
      exact h
  | _ => cases hentries

theorem areWritable_inside {mark : Mark} {items : List Value} (h : v.isWritable = true)
    (hitems : areWritable items = true) : areWritable (inside v mark items) = true := by
  cases mark with
  | loop n => exact areWritable_close h items hitems
  | _ => exact hitems

/-- The items of a value that can be written can be written: texts and bytes have no others. -/
theorem isWritable_of_items? (h : v.isWritable = true) {items : List Value}
    (hitems : v.items? = some items) {x : Value} (hx : x ∈ items) : x.isWritable = true := by
  cases v with
  | str s =>
    cases hitems
    obtain ⟨c, -, rfl⟩ := List.mem_map.mp hx
    rfl
  | bytes bs =>
    cases hitems
    obtain ⟨b, -, rfl⟩ := List.mem_map.mp hx
    exact isWritable_byte b
  | list mark inner =>
    cases hitems
    exact isWritable_of_mem (areWritable_inside h h) hx
  | tuple mark inner =>
    cases hitems
    exact isWritable_of_mem (areWritable_inside h h) hx
  | set mark inner =>
    cases hitems
    exact isWritable_of_mem h hx
  | dict mark entries =>
    cases hitems
    obtain ⟨e, he, rfl⟩ := List.mem_map.mp hx
    exact (isWritable_of_mem_entries h he).1
  | _ => cases hitems

theorem isWritable_of_find? (h : v.isWritable = true) {entries : List (Value × Value)}
    (hentries : v.entries? = some entries) {key found : Value}
    (hfound : OrderedMap.find? key entries = some found) : found.isWritable = true := by
  obtain ⟨k, hk⟩ := OrderedMap.exists_mem_of_get?_eq_some (m := ⟨entries⟩) hfound
  exact (isWritable_of_entries? h hentries hk).2

/-- A field of a value that can be written can be written. -/
theorem isWritable_part (h : v.isWritable = true) (key : String) :
    (v.part key).isWritable = true := by
  rcases hfound : v.entries?.bind (OrderedMap.find? (.str key)) with _ | found
  · rw [part, hfound]
    rfl
  · rw [part, hfound, Option.getD_some]
    obtain ⟨entries, hentries, hfound⟩ := Option.bind_eq_some_iff.mp hfound
    exact isWritable_of_find? h hentries hfound

/-- A field of a mapping can be read with another value for an absent one. -/
theorem exists_fieldOr (hdict : v.isDict = true) (key : String) (other : Value)
    (hother : other.isWritable = true) :
    ∃ found, v.fieldOr key other = pure found ∧
      (v.isWritable = true → found.isWritable = true) := by
  obtain ⟨entries, hentries⟩ := exists_entries?_of_isDict hdict
  refine ⟨(OrderedMap.find? (.str key) entries).getD other, by rw [fieldOr, hentries], fun h => ?_⟩
  cases hfound : OrderedMap.find? (.str key) entries with
  | none => exact hother
  | some found => exact isWritable_of_find? h hentries hfound

end FluxFleet.Value
