import FluxFleet.Proofs.Failure
import FluxFleet.Proofs.Value.Part

/-!
# What can come of reading a document

A document is accepted, or refused with an input error that says what is wrong with it. It is meant
to end so, but it can end otherwise: a whole number may be too long for the message, and a value may
be used as something it is not, before anything has checked what it is. `Reading` says which of
these can come of a document, by whether its numbers can be written and whether it has the shape
that its reader relies on. An accepted document has that shape; so the shape is what the reader
needs, and not more.

The lemmas follow the readers step by step, from a field (`Reading.field`) to a row of parts
(`Reading.row`).
-/

namespace FluxFleet

variable {α β : Type} {escapes : List ErrorFamily} {W W' S T : Prop}

/-- What can come of reading a document, whose numbers can be written if `writable`, and which has
the shape that the reader relies on if `shaped`. Failures of the families `escapes` are no input
errors. -/
inductive Reading (escapes : List ErrorFamily) (writable shaped : Prop) : Except Error α → Prop
  | accepted (a : α) (h : shaped) : Reading escapes writable shaped (.ok a)
  | refused (fault : InputFault) : Reading escapes writable shaped (.error (.input fault))
  /-- a whole number cannot be written -/
  | unwritable {e : Error} (he : e.family = .value) (h : ¬ writable) :
    Reading escapes writable shaped (.error e)
  /-- a value is used as something it is not -/
  | misused {e : Error} (he : e.family ∈ escapes) (h : ¬ shaped) :
    Reading escapes writable shaped (.error e)

namespace Reading

variable {x : Except Error α} {f : α → Except Error β}

/-! ## What is read from it -/

theorem shaped_of_eq_ok {a : α} (h : Reading escapes W S x) (hx : x = .ok a) : S := by
  subst hx
  cases h with
  | accepted _ h => exact h

/-- A document that has the shape, and that can be written, is accepted or refused. -/
theorem eq_input (h : Reading escapes W S x) (hW : W) (hS : S) {e : Error} (hx : x = .error e) :
    ∃ fault, e = .input fault := by
  subst hx
  cases h with
  | refused fault => exact ⟨fault, rfl⟩
  | unwritable _ hnot => exact absurd hW hnot
  | misused _ hnot => exact absurd hS hnot

/-- An error that is no input error has one of two reasons. -/
theorem reason (h : Reading escapes W S x) {e : Error} (hx : x = .error e) :
    (∃ fault, e = .input fault) ∨ (e.family = .value ∧ ¬ W) ∨ (e.family ∈ escapes ∧ ¬ S) := by
  subst hx
  cases h with
  | refused fault => exact Or.inl ⟨fault, rfl⟩
  | unwritable he hW => exact Or.inr (Or.inl ⟨he, hW⟩)
  | misused he hS => exact Or.inr (Or.inr ⟨he, hS⟩)

/-! ## Steps -/

/-- What can come of a part can come of the whole, which can be written only with its parts. -/
theorem ofPart (h : Reading escapes W' S x) (hW : W → W') : Reading escapes W S x := by
  cases h with
  | accepted a h => exact .accepted a h
  | refused fault => exact .refused fault
  | unwritable he h => exact .unwritable he fun hw => h (hW hw)
  | misused he h => exact .misused he h

theorem congr (h : Reading escapes W S x) (hST : S ↔ T) : Reading escapes W T x := by
  cases h with
  | accepted a h => exact .accepted a (hST.mp h)
  | refused fault => exact .refused fault
  | unwritable he h => exact .unwritable he h
  | misused he h => exact .misused he fun ht => h (hST.mpr ht)

/-- A sequence relies on what both parts rely on. -/
theorem bind (hx : Reading escapes W S x) (hf : ∀ a, x = .ok a → Reading escapes W T (f a)) :
    Reading escapes W (S ∧ T) (x >>= f) := by
  cases hx with
  | accepted a hS =>
    change Reading escapes W (S ∧ T) (f a)
    exact (hf a rfl).congr ⟨fun h => ⟨hS, h⟩, And.right⟩
  | refused fault => exact .refused fault
  | unwritable he h => exact .unwritable he h
  | misused he h => exact .misused he fun hST => h hST.1

/-- A first part that relies on nothing adds nothing. -/
theorem andThen (hx : Reading escapes W True x) (hf : ∀ a, x = .ok a → Reading escapes W S (f a)) :
    Reading escapes W S (x >>= f) := (hx.bind hf).congr (true_and S).to_iff

theorem map (h : Reading escapes W S x) (g : α → β) : Reading escapes W S (g <$> x) := by
  cases h with
  | accepted a h => exact .accepted _ h
  | refused fault => exact .refused fault
  | unwritable he h => exact .unwritable he h
  | misused he h => exact .misused he h

/-- A document is refused, if the values in the message can be written. -/
theorem ofInput {fault : InputFault} (h : W → ∀ v ∈ fault.values, v.isWritable = true) :
    Reading escapes W S (.error (.ofInput fault) : Except Error α) := by
  rw [Error.ofInput]
  split
  · exact .refused fault
  · next hnot => exact .unwritable rfl fun hw => hnot (List.all_eq_true.mpr (h hw))

/-- A check refuses the document, or lets its reader go on. -/
theorem check {c : Bool} {fault : InputFault} {f : PUnit → Except Error α}
    (hfault : W → ∀ v ∈ fault.values, v.isWritable = true)
    (h : c = false → Reading escapes W S (f ⟨⟩)) :
    Reading escapes W S (if c = true then throw (.ofInput fault) >>= f else f ⟨⟩) := by
  split
  · exact ofInput hfault
  · next hc => exact h (Bool.eq_false_iff.mpr hc)

theorem mapM {f : α → Except Error β} {P : α → Prop} {xs : List α}
    (h : ∀ x ∈ xs, Reading escapes W (P x) (f x)) :
    Reading escapes W (∀ x ∈ xs, P x) (xs.mapM f) := by
  induction xs with
  | nil => exact .accepted [] fun _ hx => by cases hx
  | cons x xs ih =>
    rw [List.mapM_cons]
    have hrest := ih fun y hy => h y (List.mem_cons_of_mem _ hy)
    refine (bind (h x List.mem_cons_self) fun y _ => hrest.map (y :: ·)).congr ?_
    rw [List.forall_mem_cons]

/-! ## Fields and rows -/

variable {doc v : Value} {key : String}

/-- Only a mapping has fields. -/
theorem field {f : Value → Except Error β} (hescapes : .attribute ∈ escapes)
    (hS : S → doc.isDict = true) (h : doc.isDict = true → Reading escapes W S (f (doc.part key))) :
    Reading escapes W S (doc.field key >>= f) := by
  by_cases hdoc : doc.isDict = true
  · rw [Value.field_of_isDict hdoc, pure_bind]
    exact h hdoc
  · rw [Value.field_of_not_isDict (Bool.eq_false_iff.mpr hdoc)]
    exact .misused hescapes fun hs => hdoc (hS hs)

/-- A mapping has all its fields. -/
theorem part {f : Value → Except Error β} (hdoc : doc.isDict = true)
    (h : Reading escapes W S (f (doc.part key))) : Reading escapes W S (doc.field key >>= f) := by
  rw [Value.field_of_isDict hdoc, pure_bind]
  exact h

/-- A field of a mapping may be given another value for an absent one. -/
theorem fieldOr {f : Value → Except Error β} {other : Value} (hdoc : doc.isDict = true)
    (hother : other.isWritable = true)
    (h : ∀ v, (doc.isWritable = true → v.isWritable = true) → Reading escapes W S (f v)) :
    Reading escapes W S (doc.fieldOr key other >>= f) := by
  obtain ⟨v, hv, hwritable⟩ := Value.exists_fieldOr hdoc key other hother
  rw [hv, pure_bind]
  exact h v hwritable

theorem written (h : W → v.isWritable = true) : Reading escapes W True v.written := by
  rw [Value.written]
  split
  · exact .accepted _ trivial
  · next hnot => exact .unwritable rfl fun hw => hnot (h hw)

theorem optionalText (hdoc : doc.isDict = true) (h : W → doc.isWritable = true) :
    Reading escapes W True (doc.optionalText key) := by
  rw [Value.optionalText, Value.field_of_isDict hdoc, pure_bind]
  split
  · next w hw =>
    obtain rfl := Value.eq_of_given? hw
    exact (written fun hW => Value.isWritable_part (h hW) key).map some
  · exact .accepted none trivial

end Reading

variable {v : Value}

namespace Value

/-- A value that counts as given runs through items, and each of them is so. -/
def Row (P : Value → Prop) (v : Value) : Prop :=
  v.truthy = true → ∃ items, v.items? = some items ∧ ∀ x ∈ items, P x

/-- Each item that a value runs through is so, if it counts as given and runs through any. -/
def EachItem (P : Value → Prop) (v : Value) : Prop :=
  v.truthy = true → ∀ items, v.items? = some items → ∀ x ∈ items, P x

variable {P Q : Value → Prop} {items : List Value}

theorem row_iff (hgiven : v.truthy = true) :
    v.Row P ↔ ∃ items, v.items? = some items ∧ ∀ x ∈ items, P x :=
  ⟨fun h => h hgiven, fun h _ => h⟩

theorem eachItem_iff (hgiven : v.truthy = true) (hitems : v.items? = some items) :
    v.EachItem P ↔ ∀ x ∈ items, P x := by
  simp only [EachItem, hgiven, hitems, forall_true_left, Option.some.injEq, forall_eq']

theorem row_and_eachItem : v.Row P ∧ v.EachItem Q ↔ v.Row fun x => P x ∧ Q x := by
  constructor
  · rintro ⟨hrow, heach⟩ hgiven
    obtain ⟨items, hitems, hall⟩ := hrow hgiven
    exact ⟨items, hitems, fun x hx => ⟨hall x hx, heach hgiven items hitems x hx⟩⟩
  · intro hrow
    refine ⟨fun hgiven => ?_, fun hgiven items hitems => ?_⟩
    · obtain ⟨items, hitems, hall⟩ := hrow hgiven
      exact ⟨items, hitems, fun x hx => (hall x hx).1⟩
    · obtain ⟨items', hitems', hall⟩ := hrow hgiven
      cases hitems.symm.trans hitems'
      exact fun x hx => (hall x hx).2

end Value

/-- A row of parts is read part by part; only some values run through items. -/
theorem Reading.each {P : Value → Prop} {f : Value → Except Error α}
    {k : List α → Except Error β} (hescapes : .type ∈ escapes) (hW : W → v.isWritable = true)
    (hf : ∀ x, (W → x.isWritable = true) → Reading escapes W (P x) (f x))
    (hgiven : v.truthy = true)
    (hk : ∀ items ys, v.items? = some items → items.mapM f = .ok ys → Reading escapes W S (k ys)) :
    Reading escapes W (v.Row P ∧ S) (v.each >>= fun items => items.mapM f >>= k) := by
  rw [Value.each, Value.row_iff hgiven]
  rcases hitems : v.items? with _ | items
  · refine .misused hescapes ?_
    rintro ⟨⟨_, hnone, -⟩, -⟩
    cases hnone
  · refine (bind (mapM fun x hx => hf x fun h => ?_) fun ys hys => hk items ys hitems hys).congr
      (and_congr_left' ?_)
    · exact Value.isWritable_of_items? (hW h) hitems hx
    · simp only [Option.some.injEq, exists_eq_left']

/-- Likewise, if the value need not be given. -/
theorem Reading.row {P : Value → Prop} {f : Value → Except Error α}
    {k : List α → Except Error β} (hescapes : .type ∈ escapes) (hW : W → v.isWritable = true)
    (hf : ∀ x, (W → x.isWritable = true) → Reading escapes W (P x) (f x))
    (hk : ∀ ys, Reading escapes W S (k ys)) :
    Reading escapes W (v.Row P ∧ S) (v.eachGiven >>= fun items => items.mapM f >>= k) := by
  rw [Value.eachGiven]
  split
  · next hgiven => exact each hescapes hW hf hgiven fun _ ys _ _ => hk ys
  · next hgiven => exact (hk []).congr ⟨fun h => ⟨fun hv => absurd hv hgiven, h⟩, And.right⟩

/-- A value that counts as given has entries, and each of them is so. -/
def Value.Table (P : Value × Value → Prop) (v : Value) : Prop :=
  v.truthy = true → ∃ entries, v.entries? = some entries ∧ ∀ e ∈ entries, P e

/-- A table is read entry by entry; only a mapping has entries. -/
theorem Reading.table {P : Value × Value → Prop} {f : Value × Value → Except Error α}
    {k : List α → Except Error β} (hescapes : .attribute ∈ escapes)
    (hW : W → v.isWritable = true)
    (hf : ∀ e : Value × Value, (W → e.1.isWritable = true ∧ e.2.isWritable = true) →
      Reading escapes W (P e) (f e))
    (hk : ∀ ys, Reading escapes W S (k ys)) :
    Reading escapes W (v.Table P ∧ S)
      (v.entriesGiven >>= fun entries => entries.mapM f >>= k) := by
  rw [Value.entriesGiven]
  split
  · next hgiven =>
    rcases hentries : v.entries? with _ | entries
    · refine .misused hescapes fun h => ?_
      obtain ⟨entries, hsome, -⟩ := h.1 hgiven
      rw [hentries] at hsome
      cases hsome
    · refine (bind (mapM fun e he => hf e fun h => ?_) fun ys _ => hk ys).congr
        (and_congr_left' ?_)
      · exact Value.isWritable_of_entries? (hW h) hentries he
      · simp only [Value.Table, hgiven, hentries, forall_true_left, Option.some.injEq,
          exists_eq_left']
  · next hgiven => exact (hk []).congr ⟨fun h => ⟨fun hv => absurd hv hgiven, h⟩, And.right⟩

end FluxFleet
