import FluxFleet.Proofs.Interpolation.Occurrences
import FluxFleet.Proofs.Success

/-!
# What a value depends on

The variables of a value are those of the texts in it, and the keys of mappings are not among these
(`variablesOf`). A result is settled by what becomes of each text (`substitute_eq_iff`). So a name
that is no variable has no effect (`fill_congr`), while the value of a variable can be told from the
result (`eq_of_fill_insert`): each occurrence makes a text longer by the value's length
(`length_filled_insert`), and values of one length stand at the same place.

But for its texts, nothing of a value is changed (`SameShape`). Only the variables are looked up, so
the texts that a value needs are enough for it (`exists_neededTexts`).
-/

namespace FluxFleet.Interpolation

variable {values values' : OrderedMap String String} {n s x y : String}

/-! ## The variables of a value -/

mutual

/-- The texts in a value, but not the keys of mappings. -/
def textsOf : Value → List String
  | .str s => [s]
  | .list _ items => textsOfItems items
  | .tuple _ items => textsOfItems items
  | .dict _ entries => textsOfEntries entries
  | _ => []

/-- The texts in the items of a sequence. -/
def textsOfItems : List Value → List String
  | [] => []
  | v :: vs => textsOf v ++ textsOfItems vs

/-- The texts in the values of a mapping. -/
def textsOfEntries : List (Value × Value) → List String
  | [] => []
  | (_, v) :: es => textsOf v ++ textsOfEntries es

end

/-- The variables of all texts in a value. -/
def variablesOf (v : Value) : List String := (textsOf v).flatMap variableNames

mutual

/-- The tokens of a value are those of its texts. -/
theorem tokensOf_eq (v : Value) : tokensOf v = (textsOf v).flatMap tokens := by
  cases v with
  | str s => exact (List.append_nil _).symm
  | list _ items => exact tokensOfItems_eq items
  | tuple _ items => exact tokensOfItems_eq items
  | dict _ entries => exact tokensOfEntries_eq entries
  | _ => rfl

theorem tokensOfItems_eq (vs : List Value) :
    tokensOfItems vs = (textsOfItems vs).flatMap tokens := by
  cases vs with
  | nil => rfl
  | cons v vs =>
    rw [tokensOfItems, textsOfItems, List.flatMap_append, tokensOf_eq v, tokensOfItems_eq vs]

theorem tokensOfEntries_eq (es : List (Value × Value)) :
    tokensOfEntries es = (textsOfEntries es).flatMap tokens := by
  cases es with
  | nil => rfl
  | cons e es =>
    obtain ⟨k, v⟩ := e
    rw [tokensOfEntries, textsOfEntries, List.flatMap_append, tokensOf_eq v,
      tokensOfEntries_eq es]

end

theorem mem_tokensOf {v : Value} : n ∈ tokensOf v ↔ n ∈ variablesOf v := by
  simp only [tokensOf_eq, variablesOf, variableNames, List.mem_flatMap, List.mem_eraseDups]

/-! ## One text -/

/-- The variables of a text are the names of its pieces. -/
theorem mem_variableNames_iff_piece :
    n ∈ variableNames s ↔ ∃ p ∈ pieces s.toList, p.name? = some n := by
  rw [variableNames, List.mem_eraseDups, tokens, List.mem_filterMap]

/-- Values that agree on the variables of a text give the same text. -/
theorem fill_congr (h : ∀ n ∈ variableNames s, values.get? n = values'.get? n) :
    fill values s = fill values' s := by
  rw [fill, fill]
  refine congrArg String.ofList (List.flatMap_congr fun p hp => ?_)
  cases p with
  | plain c => rfl
  | token name =>
    rw [Piece.filled, Piece.filled, h _ (mem_variableNames_iff_piece.mpr ⟨_, hp, rfl⟩)]

/-- A piece takes the value of its own variable. -/
theorem filled_insert (p : Piece) :
    p.filled (values.insert n x) = if p.name? = some n then x.toList else p.filled values := by
  cases p with
  | plain c => rfl
  | token name =>
    rw [Piece.filled, Piece.filled, Piece.name?, OrderedMap.get?_insert]
    by_cases hname : String.ofList name = n
    · rw [if_pos (by simpa using hname), if_pos (congrArg some hname)]
    · rw [if_neg (by simpa using hname), if_neg (by simpa using hname)]

/-- Each occurrence of a variable makes a text longer by the length of its value. -/
theorem length_filled_insert (ps : List Piece) :
    (ps.flatMap (Piece.filled (values.insert n x))).length =
      (ps.flatMap (Piece.filled (values.insert n ""))).length +
        ps.countP (·.name? = some n) * x.toList.length := by
  induction ps with
  | nil => simp
  | cons p ps ih =>
    rw [List.flatMap_cons, List.flatMap_cons, List.length_append, List.length_append, ih,
      List.countP_cons, filled_insert, filled_insert]
    by_cases hp : p.name? = some n
    · simp only [hp, if_true, decide_true, Nat.add_mul, String.toList_empty, List.length_nil]
      omega
    · simp only [hp, if_false, decide_false, Bool.false_eq_true, Nat.add_zero, Nat.add_assoc]

/-- Values of one length stand at the same place, so they are the same if the texts are. -/
theorem eq_of_filled_insert (hlength : x.toList.length = y.toList.length) {ps : List Piece}
    (hoccurs : ∃ p ∈ ps, p.name? = some n)
    (h : ps.flatMap (Piece.filled (values.insert n x)) =
      ps.flatMap (Piece.filled (values.insert n y))) : x = y := by
  induction ps with
  | nil =>
    obtain ⟨p, hp, -⟩ := hoccurs
    cases hp
  | cons p ps ih =>
    rw [List.flatMap_cons, List.flatMap_cons, filled_insert, filled_insert] at h
    by_cases hp : p.name? = some n
    · rw [if_pos hp, if_pos hp] at h
      exact String.toList_inj.mp (List.append_inj_left h hlength)
    · rw [if_neg hp, if_neg hp] at h
      obtain ⟨q, hq, hname⟩ := hoccurs
      rcases List.mem_cons.mp hq with rfl | hq
      · exact absurd hname hp
      · exact ih ⟨q, hq, hname⟩ (List.append_cancel_left h)

/-- The value of a variable can be told from the text. -/
theorem eq_of_fill_insert (hn : n ∈ variableNames s)
    (h : fill (values.insert n x) s = fill (values.insert n y) s) : x = y := by
  have hpieces := String.ofList_inj.mp h
  have hoccurs := mem_variableNames_iff_piece.mp hn
  refine eq_of_filled_insert ?_ hoccurs hpieces
  have hlengths := congrArg List.length hpieces
  rw [length_filled_insert, length_filled_insert (x := y), Nat.add_left_cancel_iff] at hlengths
  refine Nat.eq_of_mul_eq_mul_left (List.countP_pos_iff.mpr ?_) hlengths
  obtain ⟨p, hp, hname⟩ := hoccurs
  exact ⟨p, hp, decide_eq_true hname⟩

/-! ## The whole value -/

mutual

/-- Two results are the same exactly if they are for each text. -/
theorem substitute_eq_iff (v : Value) :
    substitute values v = substitute values' v ↔
      ∀ s ∈ textsOf v, fill values s = fill values' s := by
  cases v with
  | str s => rw [substitute, substitute, Value.str.injEq, textsOf, List.forall_mem_singleton]
  | list _ items =>
    rw [substitute, substitute, textsOf, ← substituteItems_eq_iff items, Value.ofList,
      Value.ofList, Value.list.injEq, and_iff_right rfl]
  | tuple _ items =>
    rw [substitute, substitute, textsOf, ← substituteItems_eq_iff items, Value.ofList,
      Value.ofList, Value.list.injEq, and_iff_right rfl]
  | dict _ entries =>
    rw [substitute, substitute, textsOf, ← substituteEntries_eq_iff entries, Value.ofEntries,
      Value.ofEntries, Value.dict.injEq, and_iff_right rfl]
  | _ => exact iff_of_true rfl fun s hs => absurd hs List.not_mem_nil

theorem substituteItems_eq_iff (vs : List Value) :
    substituteItems values vs = substituteItems values' vs ↔
      ∀ s ∈ textsOfItems vs, fill values s = fill values' s := by
  cases vs with
  | nil => exact iff_of_true rfl fun s hs => absurd hs List.not_mem_nil
  | cons v vs =>
    rw [substituteItems, substituteItems, textsOfItems, List.forall_mem_append, List.cons.injEq,
      substitute_eq_iff v, substituteItems_eq_iff vs]

theorem substituteEntries_eq_iff (es : List (Value × Value)) :
    substituteEntries values es = substituteEntries values' es ↔
      ∀ s ∈ textsOfEntries es, fill values s = fill values' s := by
  cases es with
  | nil => exact iff_of_true rfl fun s hs => absurd hs List.not_mem_nil
  | cons e es =>
    obtain ⟨k, v⟩ := e
    rw [substituteEntries, substituteEntries, textsOfEntries, List.forall_mem_append,
      List.cons.injEq, Prod.mk.injEq, and_iff_right rfl, substitute_eq_iff v,
      substituteEntries_eq_iff es]

end

/-- A value that holds no text in which variables could stand. A set is one too: it is not looked
into. -/
def IsLeaf : Value → Prop
  | .str _ | .list _ _ | .tuple _ _ | .dict _ _ => False
  | _ => True

/-- Values that are the same but for the texts in them, and but for the kind of a sequence. -/
inductive SameShape : Value → Value → Prop
  | text (s s' : String) : SameShape (.str s) (.str s')
  | list {mark : Mark} {items items' : List Value} (h : List.Forall₂ SameShape items items') :
    SameShape (.list mark items) (.ofList items')
  | tuple {mark : Mark} {items items' : List Value} (h : List.Forall₂ SameShape items items') :
    SameShape (.tuple mark items) (.ofList items')
  /-- the keys are the same, in the same order -/
  | dict {mark : Mark} {entries entries' : List (Value × Value)}
    (keys : entries.map (·.1) = entries'.map (·.1))
    (values : List.Forall₂ SameShape (entries.map (·.2)) (entries'.map (·.2))) :
    SameShape (.dict mark entries) (.ofEntries entries')
  | leaf {v : Value} (h : IsLeaf v) : SameShape v v

theorem map_fst_substituteEntries (values : OrderedMap String String)
    (es : List (Value × Value)) : es.map (·.1) = (substituteEntries values es).map (·.1) := by
  induction es with
  | nil => rfl
  | cons e es ih => rw [substituteEntries, List.map_cons, List.map_cons, ih]

mutual

theorem sameShape_substitute (values : OrderedMap String String) (v : Value) :
    SameShape v (substitute values v) := by
  cases v with
  | str s => exact .text s _
  | list _ items => exact .list (forall₂_substituteItems values items)
  | tuple _ items => exact .tuple (forall₂_substituteItems values items)
  | dict _ entries =>
    exact .dict (map_fst_substituteEntries values entries)
      (forall₂_substituteEntries values entries)
  | _ => exact .leaf trivial

theorem forall₂_substituteItems (values : OrderedMap String String) (vs : List Value) :
    List.Forall₂ SameShape vs (substituteItems values vs) := by
  cases vs with
  | nil => exact .nil
  | cons v vs => exact .cons (sameShape_substitute values v) (forall₂_substituteItems values vs)

theorem forall₂_substituteEntries (values : OrderedMap String String)
    (es : List (Value × Value)) :
    List.Forall₂ SameShape (es.map (·.2)) ((substituteEntries values es).map (·.2)) := by
  cases es with
  | nil => exact .nil
  | cons e es => exact .cons (sameShape_substitute values e.2) (forall₂_substituteEntries values es)

end

/-! ## What is looked up -/

/-- A table of the values of names is looked up for these names. -/
theorem find?_valued (values : OrderedMap String String) (names : List String) (n : String) :
    OrderedMap.find? n (names.filterMap fun name => (values.get? name).map (name, ·)) =
      if n ∈ names then values.get? n else none := by
  induction names with
  | nil => rfl
  | cons name names ih =>
    by_cases hn : name = n
    · subst hn
      rw [if_pos List.mem_cons_self]
      cases hv : values.get? name with
      | none =>
        rw [List.filterMap_cons_none (by rw [hv]; rfl), ih, hv, ite_self]
      | some v =>
        rw [List.filterMap_cons_some (by rw [hv]; rfl), OrderedMap.find?, if_pos BEq.rfl]
    · have hmem : n ∈ name :: names ↔ n ∈ names := by simp [Ne.symm hn]
      simp only [hmem, ← ih]
      cases hv : values.get? name with
      | none => rw [List.filterMap_cons_none (by rw [hv]; rfl)]
      | some v =>
        rw [List.filterMap_cons_some (by rw [hv]; rfl), OrderedMap.find?,
          if_neg (by simpa using hn)]

/-- The texts that a value needs are those of its variables. -/
theorem exists_neededTexts {given : OrderedMap String Value}
    (hgiven : ∀ n, given.get? n = (values.get? n).map .str) (v : Value) :
    ∃ needed, neededTexts given v = .ok needed ∧
      ∀ n ∈ variablesOf v, needed.get? n = values.get? n := by
  refine ⟨⟨((tokensOf v).eraseDups.map fun name => (values.get? name).map (name, ·)).filterMap id⟩,
    ?_, fun n hn => ?_⟩
  · refine bind_eq_ok.mpr ⟨_, mapM_eq_ok_iff.mpr ?_, rfl⟩
    rw [List.forall₂_map_right_iff, List.forall₂_same]
    intro name _
    rw [hgiven]
    cases values.get? name <;> rfl
  · rw [OrderedMap.get?, List.filterMap_map, Function.id_comp, find?_valued, if_pos]
    rw [List.mem_eraseDups, mem_tokensOf]
    exact hn

/-- **What a value depends on.** Values of variables that agree on the variables of a value give the
same result. Each of its variables counts: whatever the others are, different values of it give
different results. The result has the shape of the value, whose keys and other scalars it keeps. The
texts that are given for a value are put into it like this, whatever is on the stack, as long as
there is room for the value. -/
theorem substitute_depends_on_variables (v : Value) :
    (∀ values values' : OrderedMap String String,
      (∀ n ∈ variablesOf v, values.get? n = values'.get? n) →
        substitute values v = substitute values' v) ∧
    (∀ n ∈ variablesOf v, ∀ values : OrderedMap String String,
      Function.Injective fun x => substitute (values.insert n x) v) ∧
    (∀ values, SameShape v (substitute values v)) ∧
    ∀ stack : Stack, v.isWithin .whole stack.texts = true →
      ∀ (values : OrderedMap String String) given,
        (∀ n, given.get? n = (values.get? n).map .str) →
          interpolate stack given v = .ok (substitute values v) := by
  have hagree : ∀ values values' : OrderedMap String String,
      (∀ n ∈ variablesOf v, values.get? n = values'.get? n) →
        substitute values v = substitute values' v := by
    intro values values' h
    refine (substitute_eq_iff v).mpr fun s hs => fill_congr fun n hn => ?_
    exact h n (List.mem_flatMap.mpr ⟨s, hs, hn⟩)
  refine ⟨hagree, fun n hn values x y h => ?_, fun values => sameShape_substitute values v,
    fun stack hwithin values given hgiven => ?_⟩
  · obtain ⟨s, hs, hn⟩ := List.mem_flatMap.mp hn
    exact eq_of_fill_insert hn ((substitute_eq_iff v).mp h s hs)
  · obtain ⟨needed, hneeded, hvalues⟩ := exists_neededTexts hgiven v
    rw [interpolate, hwithin, hneeded, ← hagree needed values hvalues]
    rfl

/-- A mapping whose key looks like a token, with a variable that occurs twice. -/
def release : Value :=
  .record [("$\x7bkey\x7d", .ofList
    [.int 3, "$\x7bapp\x7d-$\x7bapp\x7d", .tuple .none ["$\x7benv\x7d", .null]])]

theorem app_decides_release :
    variablesOf release = ["app", "env"] ∧
    substitute ⟨[("app", "web"), ("key", "a")]⟩ release =
      substitute ⟨[("key", "b"), ("app", "web")]⟩ release ∧
    (∀ env, substitute (OrderedMap.insert ⟨[("env", env)]⟩ "app" "web") release ≠
      substitute (OrderedMap.insert ⟨[("env", env)]⟩ "app" "api") release) ∧
    (∀ values, SameShape release (substitute values release)) ∧
    release.isWithin .whole ({} : Stack).texts = true ∧
    interpolate {} ⟨[("key", .str "a"), ("app", .str "web")]⟩ release =
      .ok (substitute ⟨[("key", "a"), ("app", "web")]⟩ release) := by
  have hvariables : variablesOf release = ["app", "env"] := by decide +kernel
  have hwithin : release.isWithin .whole ({} : Stack).texts = true := by decide
  obtain ⟨hagree, hcounts, hshape, hgiven⟩ := substitute_depends_on_variables release
  refine ⟨hvariables, hagree _ _ ?_, fun env h => ?_, hshape, hwithin,
    hgiven {} hwithin _ _ fun n => ?_⟩
  · rw [hvariables]
    decide
  · exact absurd (hcounts "app" (by rw [hvariables]; decide) _ h) (by decide)
  · simp only [OrderedMap.get?, OrderedMap.find?]
    split
    · rfl
    · split <;> rfl

end FluxFleet.Interpolation
