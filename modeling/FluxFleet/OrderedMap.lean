/-!
# Ordered maps: key and value pairs in the order of first insertion

A mapping of a document keeps the order in which its keys were written, and that order is seen
wherever the mapping is shown. An `OrderedMap` is the list of its entries. Setting a key that is
present keeps its place; a new key goes to the end.

The lemmas say what each operation does to the look-up (`get?_insert_self`, `get?_insert_of_ne`)
and to the keys (`keys_insert_of_contains`, `keys_insert_of_not_contains`). Equal keys need not be
the same; it is enough for the look-up that a key stands for its equals (`Steady`, `find?_put`).
-/

namespace FluxFleet

universe u v w

/-- An insertion-ordered map, kept as the list of its entries. -/
structure OrderedMap (κ : Type u) (ν : Type v) where
  /-- the entries, oldest key first -/
  entries : List (κ × ν) := []
deriving Repr

namespace OrderedMap

variable {κ : Type u} {ν : Type v}

/-- The map without entries. -/
def empty : OrderedMap κ ν := ⟨[]⟩

instance : Inhabited (OrderedMap κ ν) := ⟨empty⟩

/-- The keys in insertion order. -/
def keys (m : OrderedMap κ ν) : List κ := m.entries.map (·.1)

/-- The values in insertion order of their keys. -/
def values (m : OrderedMap κ ν) : List ν := m.entries.map (·.2)

/-- Whether the map has no entry. -/
def isEmpty (m : OrderedMap κ ν) : Bool := m.entries.isEmpty

section Lookup

variable [BEq κ]

/-- The value of the first entry with this key. -/
def find? (k : κ) : List (κ × ν) → Option ν
  | [] => none
  | (k', v) :: es => if k' == k then some v else find? k es

/-- Replace the value of the first entry with this key, or add an entry at the end. -/
def put (k : κ) (v : ν) : List (κ × ν) → List (κ × ν)
  | [] => [(k, v)]
  | (k', v') :: es => if k' == k then (k', v) :: es else (k', v') :: put k v es

/-- Remove the first entry with this key. -/
def drop (k : κ) : List (κ × ν) → List (κ × ν)
  | [] => []
  | (k', v') :: es => if k' == k then es else (k', v') :: drop k es

/-- The value of a key, if it is present. -/
def get? (m : OrderedMap κ ν) (k : κ) : Option ν := find? k m.entries

/-- Whether a key is present. -/
def contains (m : OrderedMap κ ν) (k : κ) : Bool := (m.get? k).isSome

/-- Set the value of a key. -/
def insert (m : OrderedMap κ ν) (k : κ) (v : ν) : OrderedMap κ ν := ⟨put k v m.entries⟩

/-- Set the value of a key unless the key is present. -/
def insertIfNew (m : OrderedMap κ ν) (k : κ) (v : ν) : OrderedMap κ ν :=
  if m.contains k then m else m.insert k v

/-- Change the value of a key that is present. -/
def modify (m : OrderedMap κ ν) (k : κ) (f : ν → ν) : OrderedMap κ ν :=
  match m.get? k with
  | some v => m.insert k (f v)
  | none => m

/-- Remove a key; a map without it is left as it is. -/
def erase (m : OrderedMap κ ν) (k : κ) : OrderedMap κ ν := ⟨drop k m.entries⟩

/-- Set each key of a list of entries in turn, so that the last value of a key stays. -/
def insertAll (m : OrderedMap κ ν) (es : List (κ × ν)) : OrderedMap κ ν :=
  es.foldl (fun acc e => acc.insert e.1 e.2) m

/-- The map of a list of entries: of equal keys the first gives the place, the last the value. -/
def ofList (es : List (κ × ν)) : OrderedMap κ ν := empty.insertAll es

end Lookup

section Lemmas

variable [BEq κ]

/-- What is found stands among the entries, under an equal key. -/
theorem exists_mem_of_get?_eq_some {m : OrderedMap κ ν} {k : κ} {v : ν} (h : m.get? k = some v) :
    ∃ k', (k', v) ∈ m.entries := by
  obtain ⟨es⟩ := m
  simp only [get?] at h
  induction es with
  | nil => cases h
  | cons e es ih =>
    rw [find?] at h
    by_cases hk : e.1 == k
    · rw [if_pos hk] at h
      cases h
      exact ⟨e.1, List.mem_cons_self⟩
    · rw [if_neg hk] at h
      obtain ⟨k', hk'⟩ := ih h
      exact ⟨k', List.mem_cons_of_mem _ hk'⟩

/-- A key is present exactly when an equal one is among the keys. -/
theorem contains_eq_any (m : OrderedMap κ ν) (k : κ) : m.contains k = m.keys.any (· == k) := by
  obtain ⟨es⟩ := m
  simp only [contains, get?, keys]
  induction es with
  | nil => rfl
  | cons e es ih =>
    rw [find?, List.map_cons, List.any_cons, ← ih]
    split
    · next h => rw [h, Bool.true_or, Option.isSome_some]
    · next h => rw [Bool.eq_false_iff.mpr h, Bool.false_or]

/-- What is looked up among more entries is found among the first ones, or behind them. -/
theorem find?_append (k : κ) (es es' : List (κ × ν)) :
    find? k (es ++ es') = (find? k es).or (find? k es') := by
  induction es with
  | nil => rfl
  | cons e es ih =>
    rw [List.cons_append, find?, find?, ih]
    split <;> rfl

/-- What makes a key stand for its equals: they are equal both ways, and to the same keys. -/
structure Steady (k : κ) : Prop where
  refl : (k == k) = true
  symm : ∀ a, (a == k) = (k == a)
  trans : ∀ {a}, (a == k) = true → ∀ b, (a == b) = (k == b)
  congr : ∀ {a}, (k == a) = true → ∀ b, (b == a) = (b == k)

theorem find?_put {k : κ} (hk : Steady k) (n : κ) (v : ν) (es : List (κ × ν)) :
    find? n (put k v es) = if k == n then some v else find? n es := by
  induction es with
  | nil => rfl
  | cons e es ih =>
    by_cases he : e.1 == k
    · simp only [put, if_pos he, find?, hk.trans he n]
      split <;> rfl
    · simp only [put, if_neg he, find?, ih]
      by_cases hn : k == n
      · -- an equal of `k` is not the key of this entry
        rw [if_neg (by rwa [hk.congr hn]), if_pos hn, if_pos hn]
      · rw [if_neg hn, if_neg hn]

/-- Removing a key leaves the values of all keys that are not equal to it. -/
theorem get?_erase_of_steady (m : OrderedMap κ ν) {k : κ} (hk : Steady k) {n : κ}
    (hn : ¬ (k == n) = true) : (m.erase k).get? n = m.get? n := by
  obtain ⟨es⟩ := m
  simp only [erase, get?]
  induction es with
  | nil => rfl
  | cons e es ih =>
    rw [drop]
    split
    · next he => rw [find?, hk.trans he n, if_neg hn]
    · rw [find?, find?, ih]

/-- Equal keys find the same. -/
theorem find?_congr {k n : κ} (hk : Steady k) (h : k == n) (es : List (κ × ν)) :
    find? n es = find? k es := by
  induction es with
  | nil => rfl
  | cons e es ih => rw [find?, find?, hk.congr h, ih]

theorem get?_insert_of_steady (m : OrderedMap κ ν) {k : κ} (hk : Steady k) (n : κ) (v : ν) :
    (m.insert k v).get? n = if k == n then some v else m.get? n := find?_put hk n v m.entries

theorem get?_insertIfNew (m : OrderedMap κ ν) {k : κ} (hk : Steady k) (n : κ) (v : ν) :
    (m.insertIfNew k v).get? n = (m.get? n).or (if k == n then some v else none) := by
  rw [insertIfNew, contains]
  by_cases hn : k == n
  · have hsame : m.get? n = m.get? k := find?_congr hk hn m.entries
    rw [if_pos hn, hsame]
    rcases hold : m.get? k with _ | old
    · rw [Option.isSome_none, if_neg Bool.false_ne_true, get?_insert_of_steady m hk, if_pos hn]
      rfl
    · rw [Option.isSome_some, if_pos rfl, hsame, hold]
      rfl
  · rw [if_neg hn, Option.or_none]
    split
    · rfl
    · rw [get?_insert_of_steady m hk, if_neg hn]

/-- Set each of these keys that another map has to its value there. -/
def override (source : OrderedMap κ ν) (keys : List κ) (m : OrderedMap κ ν) : OrderedMap κ ν :=
  keys.foldl (fun m k =>
    match source.get? k with
    | some v => m.insert k v
    | none => m) m

/-- What the other map has for one of the keys goes before what was there. -/
theorem get?_override (source : OrderedMap κ ν) (n : κ) {keys : List κ} :
    (∀ k ∈ keys, Steady k) → ∀ m : OrderedMap κ ν,
      (override source keys m).get? n =
        if keys.any (· == n) then (source.get? n).or (m.get? n) else m.get? n := by
  induction keys with
  | nil =>
    intro _ m
    rfl
  | cons k keys ih =>
    intro hkeys m
    have hk := hkeys k List.mem_cons_self
    have hstep : (override source [k] m).get? n =
        if k == n then (source.get? n).or (m.get? n) else m.get? n := by
      by_cases hn : k == n
      · have hsame : source.get? n = source.get? k := find?_congr hk hn source.entries
        rw [if_pos hn, hsame]
        rcases hv : source.get? k with _ | v
        · simp only [override, List.foldl_cons, List.foldl_nil, hv]
          rfl
        · simp only [override, List.foldl_cons, List.foldl_nil, hv]
          rw [get?_insert_of_steady m hk, if_pos hn]
          rfl
      · rw [if_neg hn]
        simp only [override, List.foldl_cons, List.foldl_nil]
        split
        · rw [get?_insert_of_steady m hk, if_neg hn]
        · rfl
    have hcons : override source (k :: keys) m = override source keys (override source [k] m) := rfl
    rw [hcons, ih (fun k' hk' => hkeys k' (List.mem_cons_of_mem k hk')), hstep, List.any_cons]
    cases hn : k == n <;> cases hrest : keys.any (· == n) <;> cases source.get? n <;> simp

section Lawful

variable [LawfulBEq κ]

/-- Where equality says what it means, every key stands for itself alone. -/
theorem steady_of_lawful (k : κ) : Steady k := by
  refine ⟨BEq.rfl, fun a => BEq.comm, fun {a} ha b => ?_, fun {a} ha b => ?_⟩
  · rw [eq_of_beq ha]
  · rw [eq_of_beq ha]

theorem find?_put_self (k : κ) (v : ν) (es : List (κ × ν)) : find? k (put k v es) = some v := by
  rw [find?_put (steady_of_lawful k), if_pos BEq.rfl]

theorem find?_put_of_ne {k k' : κ} (h : k' ≠ k) (v : ν) (es : List (κ × ν)) :
    find? k' (put k v es) = find? k' es := by
  rw [find?_put (steady_of_lawful k), if_neg (by simpa using h.symm)]

@[simp] theorem get?_insert_self (m : OrderedMap κ ν) (k : κ) (v : ν) :
    (m.insert k v).get? k = some v := find?_put_self k v m.entries

theorem get?_insert_of_ne (m : OrderedMap κ ν) {k k' : κ} (h : k' ≠ k) (v : ν) :
    (m.insert k v).get? k' = m.get? k' := find?_put_of_ne h v m.entries

theorem get?_insert (m : OrderedMap κ ν) (k k' : κ) (v : ν) :
    (m.insert k v).get? k' = if k' == k then some v else m.get? k' := by
  by_cases h : k' = k
  · subst h
    simp
  · rw [get?_insert_of_ne m h, if_neg (by simpa using h)]

theorem find?_isSome_iff_mem (k : κ) (es : List (κ × ν)) :
    (find? k es).isSome ↔ k ∈ es.map (·.1) := by
  induction es with
  | nil => simp [find?]
  | cons e es ih =>
    by_cases h : e.1 == k
    · have hk : e.1 = k := eq_of_beq h
      simp [find?, hk]
    · have hk : ¬ k = e.1 := fun hc => h (by simp [hc])
      simp only [find?, h, List.map_cons, List.mem_cons, hk, false_or]
      exact ih

/-- A key is present exactly when it is among the keys. -/
theorem contains_iff_mem_keys (m : OrderedMap κ ν) (k : κ) :
    m.contains k = true ↔ k ∈ m.keys := find?_isSome_iff_mem k m.entries

theorem mem_keys_insert (m : OrderedMap κ ν) (k k' : κ) (v : ν) :
    k' ∈ (m.insert k v).keys ↔ k' = k ∨ k' ∈ m.keys := by
  rw [← contains_iff_mem_keys, ← contains_iff_mem_keys, contains, contains, get?_insert]
  by_cases h : k' = k <;> simp [h]

/-- Setting a list of entries gives no other keys. -/
theorem mem_keys_insertAll (es : List (κ × ν)) (k : κ) :
    ∀ m : OrderedMap κ ν, k ∈ (m.insertAll es).keys ↔ k ∈ m.keys ∨ k ∈ es.map (·.1) := by
  induction es with
  | nil =>
    intro m
    simp [insertAll]
  | cons e es ih =>
    intro m
    have hcons : m.insertAll (e :: es) = (m.insert e.1 e.2).insertAll es := rfl
    rw [hcons, ih, mem_keys_insert, List.map_cons, List.mem_cons, or_comm (a := k = e.1), or_assoc]

/-- Setting a list of entries leaves all other keys alone. -/
theorem get?_insertAll_of_not_mem (es : List (κ × ν)) {k : κ} (h : k ∉ es.map (·.1)) :
    ∀ m : OrderedMap κ ν, (m.insertAll es).get? k = m.get? k := by
  induction es with
  | nil =>
    intro m
    rfl
  | cons e es ih =>
    intro m
    rw [List.map_cons, List.mem_cons, not_or] at h
    have hcons : m.insertAll (e :: es) = (m.insert e.1 e.2).insertAll es := rfl
    rw [hcons, ih h.2, get?_insert_of_ne m h.1]

/-- Setting entries of different keys sets each of them. -/
theorem get?_insertAll_of_mem (es : List (κ × ν)) {k : κ} {v : ν}
    (hnodup : (es.map (·.1)).Nodup) (h : (k, v) ∈ es) :
    ∀ m : OrderedMap κ ν, (m.insertAll es).get? k = some v := by
  induction es with
  | nil => cases h
  | cons e es ih =>
    intro m
    have hcons : m.insertAll (e :: es) = (m.insert e.1 e.2).insertAll es := rfl
    obtain ⟨hnot, hrest⟩ := List.nodup_cons.mp hnodup
    rw [hcons]
    cases h with
    | head => rw [get?_insertAll_of_not_mem es hnot, get?_insert_self]
    | tail _ h => exact ih hrest h _

/-- What a map holds after setting a list of entries is old or one of them. -/
theorem mem_of_get?_insertAll (es : List (κ × ν)) {k : κ} {v : ν} :
    ∀ m : OrderedMap κ ν, (m.insertAll es).get? k = some v → m.get? k = some v ∨ (k, v) ∈ es := by
  induction es with
  | nil =>
    intro m h
    exact Or.inl h
  | cons e es ih =>
    intro m h
    rcases ih (m.insert e.1 e.2) h with hold | hmem
    · rw [get?_insert] at hold
      by_cases hk : k = e.1
      · subst hk
        simp only [BEq.rfl, if_true, Option.some.injEq] at hold
        subst hold
        exact Or.inr List.mem_cons_self
      · rw [if_neg (by simpa using hk)] at hold
        exact Or.inl hold
    · exact Or.inr (List.mem_cons_of_mem _ hmem)

theorem mem_keys_ofList (es : List (κ × ν)) (k : κ) : k ∈ (ofList es).keys ↔ k ∈ es.map (·.1) := by
  rw [ofList, mem_keys_insertAll]
  simp [keys, empty]

/-- What a map of entries holds is one of them. -/
theorem mem_of_get?_ofList {es : List (κ × ν)} {k : κ} {v : ν} (h : (ofList es).get? k = some v) :
    (k, v) ∈ es := by
  rcases mem_of_get?_insertAll es empty h with hold | hmem
  · cases hold
  · exact hmem

/-- The map of entries of different keys holds each of them. -/
theorem get?_ofList_of_mem {es : List (κ × ν)} {k : κ} {v : ν} (hnodup : (es.map (·.1)).Nodup)
    (h : (k, v) ∈ es) : (ofList es).get? k = some v := get?_insertAll_of_mem es hnodup h empty

end Lawful

/-- Setting a key that is present keeps the keys and their order. -/
theorem keys_insert_of_contains (m : OrderedMap κ ν) {k : κ} (v : ν)
    (h : m.contains k = true) : (m.insert k v).keys = m.keys := by
  obtain ⟨es⟩ := m
  simp only [contains, get?] at h
  simp only [keys, insert]
  induction es with
  | nil => simp [find?] at h
  | cons e es ih =>
    by_cases he : e.1 == k
    · simp [put, he]
    · simp only [find?, he] at h
      simp only [put, he, Bool.false_eq_true, if_false, List.map_cons, ih h]

/-- Setting a new key adds its entry at the end. -/
theorem entries_insert_of_not_contains (m : OrderedMap κ ν) {k : κ} (v : ν)
    (h : m.contains k = false) : (m.insert k v).entries = m.entries ++ [(k, v)] := by
  obtain ⟨es⟩ := m
  simp only [contains, get?, insert] at h ⊢
  induction es with
  | nil => rfl
  | cons e es ih =>
    obtain ⟨k', v'⟩ := e
    rw [find?] at h
    split at h
    · cases h
    · next hk => rw [put, if_neg hk, ih h, List.cons_append]

/-- The map of entries with different keys holds these entries, in order. -/
theorem entries_ofList_of_pairwise {es : List (κ × ν)}
    (h : es.Pairwise fun a b => (a.1 == b.1) = false) : (ofList es).entries = es := by
  have hall : ∀ m : OrderedMap κ ν, (m.entries ++ es).Pairwise (fun a b => (a.1 == b.1) = false) →
      (m.insertAll es).entries = m.entries ++ es := by
    clear h
    induction es with
    | nil => exact fun m _ => (List.append_nil _).symm
    | cons e es ih =>
      intro m h
      have hnew : m.contains e.1 = false := by
        rw [contains_eq_any, keys, List.any_map, List.any_eq_false]
        exact fun a ha => Bool.eq_false_iff.mp
          ((List.pairwise_append.mp h).2.2 a ha e List.mem_cons_self)
      have hentries := entries_insert_of_not_contains m e.2 hnew
      have hcons : m.insertAll (e :: es) = (m.insert e.1 e.2).insertAll es := rfl
      rw [List.append_cons] at h ⊢
      rw [hcons, ih _ (by rwa [hentries]), hentries]
  exact hall empty h

/-- Setting a new key adds it behind the others. -/
theorem keys_insert_of_not_contains (m : OrderedMap κ ν) {k : κ} (v : ν)
    (h : m.contains k = false) : (m.insert k v).keys = m.keys ++ [k] := by
  rw [keys, entries_insert_of_not_contains m v h, List.map_append]
  rfl

/-- An entry after setting a key is an entry from before or the new one. -/
theorem mem_entries_insert [LawfulBEq κ] {m : OrderedMap κ ν} {k : κ} {v : ν} {e : κ × ν}
    (h : e ∈ (m.insert k v).entries) : e ∈ m.entries ∨ e = (k, v) := by
  obtain ⟨es⟩ := m
  simp only [insert] at h ⊢
  induction es with
  | nil => exact Or.inr (List.mem_singleton.mp h)
  | cons e' es ih =>
    obtain ⟨k', v'⟩ := e'
    rw [put] at h
    split at h
    · next hk =>
      rcases List.mem_cons.mp h with rfl | h
      · exact Or.inr (by rw [eq_of_beq hk])
      · exact Or.inl (List.mem_cons_of_mem _ h)
    · rcases List.mem_cons.mp h with rfl | h
      · exact Or.inl List.mem_cons_self
      · exact (ih h).imp (List.mem_cons_of_mem _) id

theorem keys_nodup_insert [LawfulBEq κ] {m : OrderedMap κ ν} (h : m.keys.Nodup) (k : κ) (v : ν) :
    (m.insert k v).keys.Nodup := by
  rcases hk : m.contains k with _ | _
  · rw [keys_insert_of_not_contains m v hk]
    have hnew : k ∉ m.keys := fun hmem => by
      rw [(contains_iff_mem_keys m k).mpr hmem] at hk
      cases hk
    exact List.nodup_append.mpr ⟨h, List.pairwise_singleton _ _, fun a ha b hb heq =>
      hnew (List.mem_singleton.mp hb ▸ heq ▸ ha)⟩
  · rwa [keys_insert_of_contains m v hk]

/-- No key of a map of entries is there twice. -/
theorem keys_nodup_ofList [LawfulBEq κ] (es : List (κ × ν)) : (ofList es).keys.Nodup := by
  have hall : ∀ m : OrderedMap κ ν, m.keys.Nodup → (m.insertAll es).keys.Nodup := by
    induction es with
    | nil =>
      intro m h
      exact h
    | cons e es ih =>
      intro m h
      exact ih _ (keys_nodup_insert h e.1 e.2)
  exact hall empty List.nodup_nil

/-- The keys of a map of entries of different keys are theirs, in order. -/
theorem keys_ofList_of_nodup [LawfulBEq κ] {es : List (κ × ν)} (h : (es.map (·.1)).Nodup) :
    (ofList es).keys = es.map (·.1) := by
  have hall : ∀ m : OrderedMap κ ν, (m.keys ++ es.map (·.1)).Nodup →
      (m.insertAll es).keys = m.keys ++ es.map (·.1) := by
    clear h
    induction es with
    | nil =>
      intro m _
      rw [List.map_nil, List.append_nil]
      rfl
    | cons e es ih =>
      intro m hnodup
      rw [List.map_cons, List.append_cons] at hnodup
      have hnew : m.contains e.1 = false := by
        rw [Bool.eq_false_iff, Ne, contains_iff_mem_keys]
        intro hmem
        have hkeys := (List.nodup_append.mp hnodup).1
        exact (List.nodup_append.mp hkeys).2.2 e.1 hmem e.1 (List.mem_singleton_self _) rfl
      have hkeys := keys_insert_of_not_contains m e.2 hnew
      have hcons : m.insertAll (e :: es) = (m.insert e.1 e.2).insertAll es := rfl
      rw [hcons, ih _ (by rwa [hkeys]), hkeys, List.map_cons, List.append_assoc]
      rfl
  rw [ofList, hall empty (by simpa [keys, empty] using h)]
  rfl

/-- Among entries with different keys each one is found. -/
theorem find?_of_mem {es : List (κ × ν)} (hdifferent : es.Pairwise fun a b => (a.1 == b.1) = false)
    {e : κ × ν} (he : e ∈ es) (hrefl : (e.1 == e.1) = true) : find? e.1 es = some e.2 := by
  induction es with
  | nil => cases he
  | cons e' es ih =>
    obtain ⟨hfirst, hothers⟩ := List.pairwise_cons.mp hdifferent
    rw [find?]
    rcases List.mem_cons.mp he with rfl | he
    · rw [if_pos hrefl]
    · rw [if_neg (Bool.eq_false_iff.mp (hfirst e he)), ih hothers he]

theorem get?_of_mem [LawfulBEq κ] {m : OrderedMap κ ν} (hkeys : m.keys.Nodup) {e : κ × ν}
    (he : e ∈ m.entries) : m.get? e.1 = some e.2 :=
  find?_of_mem ((List.pairwise_map.mp hkeys).imp fun hne => by simpa using hne) he BEq.rfl

/-- The entries of a map are known from its keys, if all are different, and the value of each. -/
theorem entries_eq_of_get? [LawfulBEq κ] {α : Type w} {m : OrderedMap κ ν} {key : α → κ}
    {val : α → ν} {xs : List α} (hkeys : m.keys = xs.map key) (hnodup : (xs.map key).Nodup)
    (hget : ∀ x ∈ xs, m.get? (key x) = some (val x)) :
    m.entries = xs.map fun x => (key x, val x) := by
  obtain ⟨es⟩ := m
  simp only [keys, get?] at hkeys hget ⊢
  induction xs generalizing es with
  | nil => exact List.map_eq_nil_iff.mp hkeys
  | cons x xs ih =>
    obtain ⟨⟨k, v⟩, es, rfl, hk, hrest⟩ := List.map_eq_cons_iff.mp hkeys
    obtain ⟨hx, hxs⟩ := List.nodup_cons.mp hnodup
    have hv : v = val x := by
      have hfirst := hget x List.mem_cons_self
      rw [find?, if_pos (by simpa using hk)] at hfirst
      exact Option.some.inj hfirst
    have hothers : ∀ y ∈ xs, find? (key y) es = some (val y) := by
      intro y hy
      have hne : ¬ (k == key y) = true := fun heq =>
        hx (List.mem_map.mpr ⟨y, hy, (eq_of_beq heq).symm.trans hk⟩)
      have hlater := hget y (List.mem_cons_of_mem _ hy)
      rwa [find?, if_neg hne] at hlater
    rw [ih hxs es hrest hothers, List.map_cons, hv, ← hk]

end Lemmas

end OrderedMap

end FluxFleet
