import FluxFleet.Document
import FluxFleet.Proofs.Number.Double

/-!
# Values as keys

Two values may be the same key without being the same value: `1`, `1.0` and `true`, a moment in two
time zones. Every value that can be a key has a form that says which key it is (`key?`), and two
values of which one can be a key are equal exactly if their forms are (`same_iff_key`). So equality
is an equivalence among keys, and a look-up by one of them is a look-up by each of its equals
(`steady_of_asKey`). A text is a key, and equals nothing but itself (`IsText.beq_iff`).
-/

namespace FluxFleet

/-- What two values have in common that are the same key. -/
inductive Key where
  | null
  /-- a whole number, or a floating-point number that equals none -/
  | number (n : Int ⊕ Double)
  | text (s : String)
  | bytes (bs : List UInt8)
  | date (d : Date)
  | moment (hasOffset : Bool) (instant : Int)
  | tuple (items : List Key)
  | again (n : Nat)

/-- The form of a floating-point number: the whole number that it equals, if it equals one. -/
def Double.key (x : Double) : Int ⊕ Double :=
  match x.whole? with
  | some i => .inl i
  | none => .inr x

namespace Double

variable {x y : Double} {i : Int}

theorem key_eq_inl : x.key = .inl i ↔ x.isInt i = true := by
  rw [← whole?_eq_some_iff, key]
  rcases x.whole? with _ | j
  · simp
  · simp

/-- Numbers are the same key if their forms are equal. -/
theorem key_eq_key : x.key = y.key ↔ x.same y = true := by
  constructor
  · intro h
    rcases hy : y.key with i | z
    · exact same_of_isInt (key_eq_inl.mp (h.trans hy)) (key_eq_inl.mp hy)
    · have hx := h.trans hy
      rw [key] at hx hy
      split at hx
      · cases hx
      · split at hy
        · cases hy
        · cases hx
          cases hy
          simp [same]
  · intro h
    rw [same, Bool.or_eq_true, Bool.and_eq_true] at h
    rcases h with hbits | ⟨hx, hy⟩
    · obtain ⟨bits⟩ := x
      obtain ⟨bits'⟩ := y
      obtain rfl : bits = bits' := eq_of_beq hbits
      rfl
    · have hx := key_eq_inl.mpr ((isInt_of_isZero hx).mpr rfl)
      have hy := key_eq_inl.mpr ((isInt_of_isZero hy).mpr rfl)
      exact hx.trans hy.symm

end Double

namespace Value

mutual

/-- Which key a value is; a sequence, a set or a mapping is none. -/
def key? : Value → Option Key
  | .null => some .null
  | .bool b => some (.number (.inl (if b then 1 else 0)))
  | .int i => some (.number (.inl i))
  | .float x => some (.number x.key)
  | .str s => some (.text s)
  | .bytes bs => some (.bytes bs)
  | .date _ d => some (.date d)
  | .moment _ t => some (.moment t.offset.isSome t.instant)
  | .tuple _ items => (keys? items).map .tuple
  | .again n => some (.again n)
  | .list _ _ => none
  | .set _ _ => none
  | .dict _ _ => none

/-- Which keys the items of a tuple are. -/
def keys? : List Value → Option (List Key)
  | [] => some []
  | v :: vs =>
    match v.key?, keys? vs with
    | some k, some ks => some (k :: ks)
    | _, _ => none

end

theorem keys?_cons_eq_some {v : Value} {vs : List Value} {row : List Key} :
    keys? (v :: vs) = some row ↔
      ∃ k ks, v.key? = some k ∧ keys? vs = some ks ∧ row = k :: ks := by
  rw [keys?]
  rcases v.key? with _ | k
  · simp
  · rcases keys? vs with _ | ks
    · simp
    · simp [eq_comm]

theorem keys?_cons_isSome {v : Value} {vs : List Value} :
    (keys? (v :: vs)).isSome ↔ v.key?.isSome ∧ (keys? vs).isSome := by
  simp only [Option.isSome_iff_exists, keys?_cons_eq_some]
  constructor
  · rintro ⟨_, k, ks, hk, hks, -⟩
    exact ⟨⟨k, hk⟩, ⟨ks, hks⟩⟩
  · rintro ⟨⟨k, hk⟩, ⟨ks, hks⟩⟩
    exact ⟨_, k, ks, hk, hks, rfl⟩

mutual

/-- If one of two values can be a key, they are equal exactly if they are the same key. -/
theorem same_iff_key (a b : Value) (h : a.key?.isSome ∨ b.key?.isSome) :
    a.same b = true ↔ a.key? = b.key? := by
  -- what is left are the pairs of kinds that can hold the same key, and tuples
  cases a <;> cases b <;> simp [same, key?] at h ⊢
  case bool.bool a b => cases a <;> cases b <;> simp
  case bool.float | int.float => exact Double.key_eq_inl.symm.trans eq_comm
  case float.bool | float.int => exact Double.key_eq_inl.symm
  case float.float => exact Double.key_eq_key.symm
  case moment.moment => rw [Moment.same, Bool.and_eq_true, beq_iff_eq, beq_iff_eq]
  case tuple.tuple as _ bs =>
    rw [sameItems_iff_keys as bs h]
    exact (Option.map_injective (fun _ _ => Key.tuple.inj)).eq_iff.symm
  -- a tuple that can be a key is no other collection
  all_goals exact Option.isSome_iff_ne_none.mp h

/-- Likewise for the items of tuples. -/
theorem sameItems_iff_keys (as bs : List Value) (h : (keys? as).isSome ∨ (keys? bs).isSome) :
    sameItems as bs = true ↔ keys? as = keys? bs := by
  cases as with
  | nil =>
    cases bs with
    | nil => simp [sameItems]
    | cons b bs =>
      simp only [sameItems, keys?, Bool.false_eq_true, false_iff]
      split <;> simp
  | cons a as =>
    cases bs with
    | nil =>
      simp only [sameItems, keys?, Bool.false_eq_true, false_iff]
      split <;> simp
    | cons b bs =>
      rw [keys?_cons_isSome, keys?_cons_isSome] at h
      rw [sameItems, Bool.and_eq_true, same_iff_key a b (h.imp And.left And.left),
        sameItems_iff_keys as bs (h.imp And.right And.right)]
      constructor
      · rintro ⟨hhead, htail⟩
        rw [keys?, keys?, hhead, htail]
      · intro heq
        obtain ⟨row, ha, hb⟩ : ∃ row, keys? (a :: as) = some row ∧ keys? (b :: bs) = some row := by
          rw [← keys?_cons_isSome, ← keys?_cons_isSome, ← heq, or_self] at h
          obtain ⟨row, hrow⟩ := Option.isSome_iff_exists.mp h
          exact ⟨row, hrow, heq ▸ hrow⟩
        obtain ⟨k, ks, hk, hks, rfl⟩ := keys?_cons_eq_some.mp ha
        obtain ⟨k', ks', hk', hks', hrow⟩ := keys?_cons_eq_some.mp hb
        cases hrow
        exact ⟨hk.trans hk'.symm, hks.trans hks'.symm⟩

end

mutual

/-- A value without a part that cannot be a key is one. -/
theorem key?_isSome_of_unkeyable? (v : Value) (h : v.unkeyable? = none) : v.key?.isSome := by
  cases v <;> simp [key?, unkeyable?] at h ⊢
  case tuple items => exact keys?_isSome_of_unkeyableItem? items h

theorem keys?_isSome_of_unkeyableItem? (vs : List Value) (h : unkeyableItem? vs = none) :
    (keys? vs).isSome := by
  cases vs with
  | nil => rfl
  | cons v vs =>
    rw [unkeyableItem?] at h
    split at h
    · cases h
    · next hv =>
      exact keys?_cons_isSome.mpr
        ⟨key?_isSome_of_unkeyable? v hv, keys?_isSome_of_unkeyableItem? vs h⟩

end

/-- A value that is accepted as a key is one. -/
theorem key?_isSome_of_asKey {v w : Value} (h : v.asKey = .ok w) : v.key?.isSome ∧ w = v := by
  rw [asKey] at h
  rcases hkind : v.unkeyable? with _ | kind
  · simp only [hkind] at h
    cases h
    exact ⟨key?_isSome_of_unkeyable? v hkind, rfl⟩
  · simp only [hkind] at h
    cases h

/-- A key stands for its equals. -/
theorem steady_of_key {v : Value} (h : v.key?.isSome) : OrderedMap.Steady v := by
  refine ⟨(same_iff_key v v (Or.inl h)).mpr rfl, fun a => ?_, fun {a} ha b => ?_,
    fun {a} ha b => ?_⟩
  · rw [Bool.eq_iff_iff, beq_eq_same, beq_eq_same, same_iff_key a v (Or.inr h),
      same_iff_key v a (Or.inl h), eq_comm]
  · have hkey : a.key? = v.key? := (same_iff_key a v (Or.inr h)).mp ha
    rw [Bool.eq_iff_iff, beq_eq_same, beq_eq_same, same_iff_key a b (Or.inl (hkey ▸ h)),
      same_iff_key v b (Or.inl h), hkey]
  · have hkey : v.key? = a.key? := (same_iff_key v a (Or.inl h)).mp ha
    rw [Bool.eq_iff_iff, beq_eq_same, beq_eq_same, same_iff_key b a (Or.inr (hkey ▸ h)),
      same_iff_key b v (Or.inr h), hkey]

theorem steady_of_asKey {v w : Value} (h : v.asKey = .ok w) : OrderedMap.Steady v :=
  steady_of_key (key?_isSome_of_asKey h).1

/-! ## Texts as keys -/

/-- A value that is a text. -/
def IsText (v : Value) : Prop := ∃ s, v = .str s

/-- Whether a value is a text can be decided. -/
instance (v : Value) : Decidable v.IsText :=
  match v with
  | .str s => isTrue ⟨s, rfl⟩
  | .null | .bool _ | .int _ | .float _ | .bytes _ | .date _ _ | .moment _ _ | .list _ _
  | .tuple _ _ | .set _ _ | .dict _ _ | .again _ => isFalse (by rintro ⟨_, h⟩; cases h)

theorem IsText.exists_asKey {v : Value} (h : v.IsText) : ∃ k, v.asKey = .ok k := by
  obtain ⟨s, rfl⟩ := h
  exact ⟨.str s, rfl⟩

theorem IsText.steady {v : Value} (h : v.IsText) : OrderedMap.Steady v := by
  obtain ⟨s, rfl⟩ := h
  exact steady_of_key rfl

/-- A text is the same value as what it equals. -/
theorem IsText.beq_iff {v : Value} (h : v.IsText) (w : Value) : (v == w) = true ↔ v = w := by
  obtain ⟨s, rfl⟩ := h
  rw [beq_eq_same, same_iff_key _ _ (Or.inl rfl)]
  constructor
  · intro hkey
    cases w <;> simp [key?] at hkey
    rw [hkey]
  · rintro rfl
    rfl

/-- What a text is the same value as equals it. -/
theorem IsText.beq_iff' {v : Value} (h : v.IsText) (w : Value) : (w == v) = true ↔ w = v := by
  rw [h.steady.symm, h.beq_iff, eq_comm]

end Value

end FluxFleet
