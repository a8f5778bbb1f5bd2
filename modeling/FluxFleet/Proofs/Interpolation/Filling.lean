import FluxFleet.Proofs.Interpolation.Occurrences
import Mathlib.Data.List.Forall2

/-!
# What becomes of each character of a text

What a text with values is can be told position by position, without reference to how it is read
(`Interpolation.Filled`): at the beginning of an occurrence stands the value of its variable, in the
rest of the occurrence nothing, and a character outside of the occurrences that have a value stays.
The text is then put together from its pieces, since no occurrence goes over the end of a piece
(`Uncut`).
-/

namespace FluxFleet.Interpolation

variable {values : OrderedMap String String} {cs before rest found out : List Char}
variable {parts parts' : List (List Char)} {name name' : String} {i j k : Nat}

/-- A variable that occurs at `i` with a token that reaches over position `k`. -/
structure Covers (cs : List Char) (k i : Nat) (name : String) : Prop extends Occurs cs i name where
  le : i ≤ k
  lt : k < i + (tokenOf name).length

/-- What stands in a text with values for the character at a position. -/
inductive Filled (values : OrderedMap String String) (cs : List Char) (k : Nat) : List Char → Prop
  /-- the value stands where the token of its variable began, and nothing for the rest of it -/
  | value {i : Nat} {name v : String} (covered : Covers cs k i name)
    (known : values.get? name = some v) : Filled values cs k (if i = k then v.toList else [])
  /-- a character that belongs to no token with a value -/
  | copied {c : Char} (stands : cs[k]? = some c)
    (outside : ∀ i name, Covers cs k i name → values.get? name = none) : Filled values cs k [c]

/-- A position lies in one occurrence. -/
theorem Covers.unique (h : Covers cs k i name) (h' : Covers cs k j name') :
    i = j ∧ name = name' := by
  rcases h.apart h'.toOccurs with hsame | hends | hends
  · exact hsame
  · exact absurd (Nat.lt_of_lt_of_le h.lt hends) (Nat.not_lt.mpr h'.le)
  · exact absurd (Nat.lt_of_lt_of_le h'.lt hends) (Nat.not_lt.mpr h.le)

/-- One thing stands for a character. -/
theorem filled_unique : Relator.RightUnique (Filled values cs) := by
  rintro k _ _ (⟨hi, hv⟩ | ⟨hc, hout⟩) (⟨hi', hv'⟩ | ⟨hc', hout'⟩)
  · obtain ⟨rfl, rfl⟩ := hi.unique hi'
    rw [hv] at hv'
    cases hv'
    rfl
  · exact absurd ((hout' _ _ hi).symm.trans hv) (Option.some_ne_none _).symm
  · exact absurd ((hout _ _ hi').symm.trans hv') (Option.some_ne_none _).symm
  · rw [hc] at hc'
    cases hc'
    rfl

/-! ## A text in two parts -/

/-- No occurrence goes over the border of two parts of a text. -/
def Uncut (before rest : List Char) : Prop :=
  ∀ i name, Occurs (before ++ rest) i name →
    i + (tokenOf name).length ≤ before.length ∨ before.length ≤ i

/-- The characters of a second part become what they become alone. -/
theorem Filled.behind (hcut : Uncut before rest) (h : Filled values rest k out) :
    Filled values (before ++ rest) (before.length + k) out := by
  cases h with
  | @value i name v hi hv =>
    have hcovers : Covers (before ++ rest) (before.length + k) (before.length + i) name :=
      ⟨occurs_append.mpr hi.toOccurs, Nat.add_le_add_left hi.le _, by
        rw [Nat.add_assoc]
        exact Nat.add_lt_add_left hi.lt _⟩
    simpa only [Nat.add_left_cancel_iff] using Filled.value hcovers hv
  | copied hc hout =>
    refine .copied ?_ fun i name hi => ?_
    · rwa [List.getElem?_append_right (Nat.le_add_right _ _), Nat.add_sub_cancel_left]
    · rcases hcut i name hi.toOccurs with hends | hbegins
      · exact absurd (Nat.lt_of_lt_of_le hi.lt hends) (Nat.not_lt.mpr (Nat.le_add_right _ _))
      · obtain ⟨j, rfl⟩ := Nat.exists_eq_add_of_le hbegins
        have hlt := hi.lt
        rw [Nat.add_assoc] at hlt
        exact hout j name ⟨occurs_append.mp hi.toOccurs, Nat.le_of_add_le_add_left hi.le,
          Nat.lt_of_add_lt_add_left hlt⟩

/-- What stands for the characters of two parts stands for those of the text. -/
theorem forall₂_filled_append (hcut : Uncut before rest)
    (hbefore : List.Forall₂ (Filled values (before ++ rest)) (List.range before.length) parts)
    (hrest : List.Forall₂ (Filled values rest) (List.range rest.length) parts') :
    List.Forall₂ (Filled values (before ++ rest)) (List.range (before ++ rest).length)
      (parts ++ parts') := by
  rw [List.length_append, List.range_add]
  refine List.rel_append hbefore (List.forall₂_map_left_iff.mpr ?_)
  exact hrest.imp fun _ _ => Filled.behind hcut

/-! ## One piece -/

theorem uncut_of_plain {c : Char} (h : token? (c :: rest) = none) : Uncut [c] rest := by
  intro i name hi
  obtain ⟨j, rfl, -⟩ := (occurs_of_plain h).mp hi
  exact Or.inr (Nat.le_add_right _ _)

theorem uncut_of_token? (h : token? cs = some (found, rest)) :
    Uncut (Piece.token found).written rest := by
  intro i name hi
  rw [← token?_eq h] at hi
  rcases (occurs_of_token? h).mp hi with ⟨rfl, rfl⟩ | ⟨j, rfl, -⟩
  · rw [tokenOf, String.toList_ofList, Nat.zero_add]
    exact Or.inl (Nat.le_refl _)
  · exact Or.inr (Nat.le_add_right _ _)

/-- A character where no token starts stays. -/
theorem filled_of_plain {c : Char} (h : token? (c :: rest) = none) :
    Filled values (c :: rest) 0 [c] := by
  refine .copied rfl fun i name hi => ?_
  obtain ⟨j, rfl, -⟩ := (occurs_of_plain h).mp hi.toOccurs
  exact absurd hi.le (by omega)

/-- The characters of a token become what the token becomes. -/
theorem exists_filled_of_token? (values : OrderedMap String String)
    (h : token? cs = some (found, rest)) :
    ∃ parts, List.Forall₂ (Filled values cs) (List.range (Piece.token found).written.length) parts ∧
      parts.flatten = (Piece.token found).filled values := by
  have hcovers : ∀ k < (Piece.token found).written.length, Covers cs k 0 (String.ofList found) :=
    fun k hk => ⟨(occurs_of_token? h).mpr (Or.inl ⟨rfl, rfl⟩), Nat.zero_le k, by
      rwa [tokenOf, String.toList_ofList, Nat.zero_add]⟩
  cases hv : values.get? (String.ofList found) with
  | some v =>
    refine ⟨(List.range (Piece.token found).written.length).map fun k =>
      if 0 = k then v.toList else [], ?_, ?_⟩
    · rw [List.forall₂_map_right_iff, List.forall₂_same]
      intro k hk
      exact .value (hcovers k (List.mem_range.mp hk)) hv
    · rw [Piece.filled, hv, Piece.written, List.cons_append, List.length_cons,
        List.range_succ_eq_map, List.map_cons, List.map_map, List.flatten_cons]
      simp
  | none =>
    refine ⟨(Piece.token found).written.map fun c => [c], ?_, ?_⟩
    · rw [List.forall₂_map_right_iff, List.forall₂_iff_get]
      refine ⟨List.length_range, fun k hk hk' => ?_⟩
      rw [List.get_eq_getElem, List.getElem_range]
      refine .copied ?_ fun i name hi => ?_
      · rw [token?_eq h, List.getElem?_append_left hk', List.getElem?_eq_getElem hk']
        rfl
      · rw [(hi.unique (hcovers k hk')).2, hv]
    · rw [Piece.filled, hv]
      exact List.flatMap_singleton' _

/-! ## The whole text -/

/-- The pieces of a text, with values, are what stands for its characters, one after another. -/
theorem exists_filled (values : OrderedMap String String) (cs : List Char) :
    ∃ parts, List.Forall₂ (Filled values cs) (List.range cs.length) parts ∧
      parts.flatten = (pieces cs).flatMap (Piece.filled values) := by
  fun_induction pieces cs with
  | case1 cs found rest h _ ih =>
    obtain ⟨parts, hparts, hflat⟩ := exists_filled_of_token? values h
    obtain ⟨parts', hparts', hflat'⟩ := ih
    refine ⟨parts ++ parts', ?_, by rw [List.flatten_append, hflat, hflat', List.flatMap_cons]⟩
    have hcut := uncut_of_token? h
    rw [token?_eq h] at hparts ⊢
    exact forall₂_filled_append hcut hparts hparts'
  | case2 => exact ⟨[], .nil, rfl⟩
  | case3 c rest h ih =>
    obtain ⟨parts, hparts, hflat⟩ := ih
    refine ⟨[c] :: parts, ?_, by rw [List.flatten_cons, hflat, List.flatMap_cons, Piece.filled]⟩
    exact forall₂_filled_append (uncut_of_plain h) (.cons (filled_of_plain h) .nil) hparts

/-- The occurrences of variables determine what a text becomes. They do not overlap. There is one
way to say what stands for each character, and the text with values is that, one after another. The
variables of the text are those that occur, each of them once, in the order of their first
occurrences. -/
theorem occurrences_determine (values : OrderedMap String String) (s : String) :
    (∀ i j name name', Occurs s.toList i name → Occurs s.toList j name' →
      (i = j ∧ name = name') ∨ i + (tokenOf name).length ≤ j ∨ j + (tokenOf name').length ≤ i) ∧
    (∃ parts, (∀ parts', parts' = parts ↔
        List.Forall₂ (Filled values s.toList) (List.range s.toList.length) parts') ∧
      substitute values (.str s) = .str (String.ofList parts.flatten)) ∧
    (variableNames s).Nodup ∧
    (∀ name, name ∈ variableNames s ↔ ∃ i, Occurs s.toList i name) ∧
    (variableNames s).Pairwise fun a b =>
      ∃ i, Occurs s.toList i a ∧ ∀ j, Occurs s.toList j b → i < j := by
  obtain ⟨parts, hparts, hflat⟩ := exists_filled values s.toList
  refine ⟨fun i j name name' hi hj => hi.apart hj, ⟨parts, fun parts' => ⟨?_, fun h => ?_⟩, ?_⟩,
    variableNames_nodup s, fun name => mem_variableNames, variableNames_pairwise s⟩
  · rintro rfl
    exact hparts
  · exact filled_unique.forall₂ h hparts
  · rw [substitute, fill, hflat]

/-- A text with an opener that is not closed and a dollar sign too much. -/
def openers : String := "$\x7ba$\x7bb\x7d$$\x7ba\x7d"

/-- A value that looks like a token. -/
def letters : OrderedMap String String := ⟨[("a", "$\x7bb\x7d")]⟩

theorem openers_passed_over :
    Occurs openers.toList 3 "b" ∧ Occurs openers.toList 8 "a" ∧ 3 + (tokenOf "b").length ≤ 8 ∧
    "a" ∈ variableNames openers ∧
    ∃ parts, List.Forall₂ (Filled letters openers.toList) (List.range 12) parts ∧
      parts.flatten = "$\x7ba$\x7bb\x7d$$\x7bb\x7d".toList := by
  have hb : Occurs openers.toList 3 "b" :=
    ⟨⟨'b', [], rfl, Or.inl (by decide), fun d hd => absurd hd List.not_mem_nil⟩, by decide⟩
  have ha : Occurs openers.toList 8 "a" :=
    ⟨⟨'a', [], rfl, Or.inl (by decide), fun d hd => absurd hd List.not_mem_nil⟩, by decide⟩
  obtain ⟨hapart, ⟨parts, hparts, hfill⟩, -, hmem, -⟩ := occurrences_determine letters openers
  refine ⟨hb, ha, ?_, (hmem "a").mpr ⟨8, ha⟩, parts, (hparts parts).mp rfl, ?_⟩
  · rcases hapart 3 8 "b" "a" hb ha with ⟨h, -⟩ | h | h
    · exact absurd h (by decide)
    · exact h
    · exact absurd h (by decide)
  · have hresult : fill letters openers = "$\x7ba$\x7bb\x7d$$\x7bb\x7d" := by decide +kernel
    rw [← hresult, Value.str.inj hfill, String.toList_ofList]

example : variableNames openers = ["b", "a"] := by decide +kernel

end FluxFleet.Interpolation
