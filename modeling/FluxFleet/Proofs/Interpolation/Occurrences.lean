import FluxFleet.Interpolation
import Mathlib.Data.List.TakeWhile

/-!
# Where the variables of a text stand

An occurrence of a variable is said here without a scanner: at some position of the text stands a
token, with a name that is an ASCII letter or underscore and then letters, digits and underscores
(`Interpolation.Occurs`). A token has one dollar sign, at its beginning, so no two occurrences
overlap (`Occurs.le_of_lt`), and the scanner, which goes from left to right and resumes behind each
token, meets all of them (`mem_placed`).
-/

namespace FluxFleet.Interpolation

variable {cs rest : List Char} {name : String} {i j k : Nat}

/-! ## Occurrences -/

/-- A character that a name may begin with: an ASCII letter or an underscore. -/
def IsInitial (c : Char) : Prop := ('a' ≤ c ∧ c ≤ 'z') ∨ ('A' ≤ c ∧ c ≤ 'Z') ∨ c = '_'

/-- A name of a variable. -/
def IsName (name : String) : Prop :=
  ∃ c cs, name.toList = c :: cs ∧ IsInitial c ∧ ∀ d ∈ cs, IsInitial d ∨ ('0' ≤ d ∧ d ≤ '9')

/-- The token of a variable as it is written. -/
def tokenOf (name : String) : List Char := (Piece.token name.toList).written

/-- The token of a variable stands at this position of a text. -/
structure Occurs (cs : List Char) (i : Nat) (name : String) : Prop where
  isName : IsName name
  stands : tokenOf name <+: cs.drop i

theorem isNameStart_iff {c : Char} : isNameStart c = true ↔ IsInitial c := by
  have hupper : c.isUpper = true ↔ 'A' ≤ c ∧ c ≤ 'Z' := decide_eq_true_iff
  have hlower : c.isLower = true ↔ 'a' ≤ c ∧ c ≤ 'z' :=
    Bool.and_eq_true_iff.trans (and_congr decide_eq_true_iff decide_eq_true_iff)
  have halpha : c.isAlpha = true ↔ c.isUpper = true ∨ c.isLower = true := Bool.or_eq_true_iff
  rw [isNameStart, Bool.or_eq_true_iff, halpha, hupper, hlower, beq_iff_eq,
    or_comm (a := 'A' ≤ c ∧ c ≤ 'Z'), or_assoc, IsInitial]

theorem isNameChar_iff {c : Char} : isNameChar c = true ↔ IsInitial c ∨ ('0' ≤ c ∧ c ≤ '9') := by
  have hdigit : c.isDigit = true ↔ '0' ≤ c ∧ c ≤ '9' :=
    Bool.and_eq_true_iff.trans (and_congr decide_eq_true_iff decide_eq_true_iff)
  have halphanum : c.isAlphanum = true ↔ c.isAlpha = true ∨ c.isDigit = true :=
    Bool.or_eq_true_iff
  rw [isNameChar, ← isNameStart_iff, isNameStart, Bool.or_eq_true_iff, Bool.or_eq_true_iff,
    halphanum, hdigit, or_right_comm]

/-- All characters of a name may stand in one. -/
theorem IsName.isNameChar (h : IsName name) {c : Char} (hc : c ∈ name.toList) :
    isNameChar c = true := by
  obtain ⟨first, cs, hname, hfirst, hrest⟩ := h
  rw [hname] at hc
  rcases List.mem_cons.mp hc with rfl | hc
  · exact isNameChar_iff.mpr (Or.inl hfirst)
  · exact isNameChar_iff.mpr (hrest c hc)

/-! ## The token at the start of a text -/

/-- A name that is closed by a brace is read up to the brace. -/
theorem closedName?_of_isName (h : IsName name) (rest : List Char) :
    closedName? (name.toList ++ '\x7d' :: rest) = some (name.toList, rest) := by
  have hchars : ∀ c ∈ name.toList, Interpolation.isNameChar c = true := fun c => h.isNameChar
  have htake :
      (name.toList ++ '\x7d' :: rest).takeWhile Interpolation.isNameChar = name.toList := by
    rw [List.takeWhile_append_of_pos hchars, List.takeWhile_cons_of_neg (by decide),
      List.append_nil]
  have hdrop : (name.toList ++ '\x7d' :: rest).dropWhile Interpolation.isNameChar =
      '\x7d' :: rest := by
    rw [List.dropWhile_append_of_pos hchars, List.dropWhile_cons_of_neg (by decide)]
  obtain ⟨c, cs, hname, hc, -⟩ := h
  rw [closedName?, htake, hdrop, hname]
  exact if_pos (isNameStart_iff.mpr hc)

/-- What is read as a closed name is a name. -/
theorem isName_of_closedName? {name : List Char} (h : closedName? cs = some (name, rest)) :
    IsName (String.ofList name) := by
  have hchars : ∀ c ∈ cs.takeWhile isNameChar, isNameChar c = true := fun c hc =>
    List.mem_takeWhile_imp hc
  unfold closedName? at h
  split at h
  · next c n r htake hdrop =>
    split at h
    · next hstart =>
      cases h
      rw [htake] at hchars
      refine ⟨c, n, String.toList_ofList, isNameStart_iff.mp hstart, fun d hd => ?_⟩
      exact isNameChar_iff.mp (hchars d (List.mem_cons_of_mem _ hd))
    · cases h
  · cases h

/-- The scanner finds a token at the start of a text exactly if one occurs there. -/
theorem token?_eq_some_iff {name : List Char} :
    token? cs = some (name, rest) ↔
      IsName (String.ofList name) ∧ cs = tokenOf (String.ofList name) ++ rest := by
  rw [tokenOf, String.toList_ofList]
  constructor
  · intro h
    refine ⟨?_, token?_eq h⟩
    unfold token? at h
    split at h
    · exact isName_of_closedName? h
    · cases h
  · rintro ⟨hname, rfl⟩
    have hclosed := closedName?_of_isName hname rest
    rw [String.toList_ofList] at hclosed
    rw [Piece.written, List.append_assoc]
    exact hclosed

/-! ## No two occurrences overlap -/

/-- What occurs behind a part of a text occurs in the rest. -/
theorem occurs_append {before : List Char} :
    Occurs (before ++ rest) (before.length + j) name ↔ Occurs rest j name := by
  constructor
  · rintro ⟨hname, hstands⟩
    rw [List.drop_length_add_append] at hstands
    exact ⟨hname, hstands⟩
  · rintro ⟨hname, hstands⟩
    refine ⟨hname, ?_⟩
    rwa [List.drop_length_add_append]

theorem occurs_zero_iff : Occurs cs 0 name ↔ ∃ rest, token? cs = some (name.toList, rest) := by
  simp only [token?_eq_some_iff, String.ofList_toList, exists_and_left]
  constructor
  · rintro ⟨hname, rest, hrest⟩
    exact ⟨hname, rest, hrest.symm⟩
  · rintro ⟨hname, rest, hrest⟩
    exact ⟨hname, rest, hrest.symm⟩

/-- The characters of a token stand one after another from its position. -/
theorem Occurs.getElem? (h : Occurs cs i name) (hk : k < (tokenOf name).length) :
    cs[i + k]? = (tokenOf name)[k]? := by
  obtain ⟨rest, hrest⟩ := h.stands
  rw [← List.getElem?_drop, ← hrest, List.getElem?_append_left hk]

/-- A token has no dollar sign behind its first character. -/
theorem IsName.getElem?_ne (h : IsName name) : (tokenOf name)[k + 1]? ≠ some '$' := by
  intro hk
  have hmem : '$' ∈ '\x7b' :: name.toList ++ ['\x7d'] := List.mem_of_getElem? hk
  rcases List.mem_append.mp hmem with hname | hclosing
  · rcases List.mem_cons.mp hname with hopening | hname
    · exact absurd hopening (by decide)
    · exact absurd (h.isNameChar hname) (by decide)
  · exact absurd hclosing (by decide)

/-- An occurrence ends before the next one begins. -/
theorem Occurs.le_of_lt {name' : String} (h : Occurs cs i name) (h' : Occurs cs j name')
    (hij : i < j) : i + (tokenOf name).length ≤ j := by
  by_contra hlt
  obtain ⟨k, rfl⟩ := Nat.exists_eq_add_of_lt hij
  have hdollar : cs[i + k + 1]? = some '$' := h'.getElem? (k := 0) (Nat.succ_pos _)
  rw [Nat.add_assoc, h.getElem? (by omega)] at hdollar
  exact h.isName.getElem?_ne hdollar

/-- One variable occurs at a position. -/
theorem Occurs.name_eq {name' : String} (h : Occurs cs i name) (h' : Occurs cs i name') :
    name = name' := by
  obtain ⟨rest, hrest⟩ := occurs_zero_iff.mp ⟨h.isName, h.stands⟩
  obtain ⟨rest', hrest'⟩ := occurs_zero_iff.mp ⟨h'.isName, h'.stands⟩
  rw [hrest] at hrest'
  exact String.toList_inj.mp (Prod.mk.inj (Option.some.inj hrest')).1

/-- Occurrences that are not the same do not overlap. -/
theorem Occurs.apart {name' : String} (h : Occurs cs i name) (h' : Occurs cs j name') :
    (i = j ∧ name = name') ∨ i + (tokenOf name).length ≤ j ∨ j + (tokenOf name').length ≤ i := by
  rcases Nat.lt_trichotomy i j with hlt | rfl | hlt
  · exact Or.inr (Or.inl (h.le_of_lt h' hlt))
  · exact Or.inl ⟨rfl, h.name_eq h'⟩
  · exact Or.inr (Or.inr (h'.le_of_lt h hlt))

/-! ## The scanner meets every occurrence -/

/-- A token at the start of a text occurs there, and all else occurs behind it. -/
theorem occurs_of_token? {found : List Char} (h : token? cs = some (found, rest)) :
    Occurs cs i name ↔ (i = 0 ∧ name = String.ofList found) ∨
      ∃ j, i = (Piece.token found).written.length + j ∧ Occurs rest j name := by
  have hzero : Occurs cs 0 (String.ofList found) :=
    occurs_zero_iff.mpr ⟨rest, by rwa [String.toList_ofList]⟩
  have hbehind : ∀ {j}, Occurs cs ((Piece.token found).written.length + j) name ↔
      Occurs rest j name := by
    intro j
    rw [token?_eq h]
    exact occurs_append
  constructor
  · intro hi
    rcases Nat.eq_zero_or_pos i with rfl | hpos
    · exact Or.inl ⟨rfl, hi.name_eq hzero⟩
    · have hle := hzero.le_of_lt hi hpos
      rw [tokenOf, String.toList_ofList, Nat.zero_add] at hle
      obtain ⟨j, rfl⟩ := Nat.exists_eq_add_of_le hle
      exact Or.inr ⟨j, rfl, hbehind.mp hi⟩
  · rintro (⟨rfl, rfl⟩ | ⟨j, rfl, hj⟩)
    · exact hzero
    · exact hbehind.mpr hj

/-- Where no token starts, everything occurs behind the first character. -/
theorem occurs_of_plain {c : Char} (h : token? (c :: rest) = none) :
    Occurs (c :: rest) i name ↔ ∃ j, i = 1 + j ∧ Occurs rest j name := by
  have hbehind : ∀ {j}, Occurs ([c] ++ rest) (1 + j) name ↔ Occurs rest j name := occurs_append
  constructor
  · intro hi
    rcases Nat.eq_zero_or_pos i with rfl | hpos
    · obtain ⟨_, hrest⟩ := occurs_zero_iff.mp hi
      rw [h] at hrest
      cases hrest
    · obtain ⟨j, rfl⟩ := Nat.exists_eq_add_of_le hpos
      exact ⟨j, rfl, hbehind.mp hi⟩
  · rintro ⟨j, rfl, hj⟩
    exact hbehind.mpr hj

/-- The tokens among pieces, each with the position where it begins. -/
def placed (start : Nat) : List Piece → List (Nat × String)
  | [] => []
  | .plain _ :: ps => placed (start + 1) ps
  | .token name :: ps =>
    (start, String.ofList name) :: placed (start + (Piece.token name).written.length) ps

/-- The tokens that the scanner finds are the occurrences. -/
theorem mem_placed (cs : List Char) (i : Nat) (name : String) : ∀ start,
    (i, name) ∈ placed start (pieces cs) ↔ ∃ j, i = start + j ∧ Occurs cs j name := by
  fun_induction pieces cs with
  | case1 cs found rest h _ ih =>
    intro start
    rw [placed, List.mem_cons, ih, Prod.mk.injEq]
    simp only [occurs_of_token? h]
    constructor
    · rintro (⟨rfl, rfl⟩ | ⟨j, rfl, hj⟩)
      · exact ⟨0, rfl, Or.inl ⟨rfl, rfl⟩⟩
      · exact ⟨_, Nat.add_assoc _ _ _, Or.inr ⟨j, rfl, hj⟩⟩
    · rintro ⟨_, rfl, ⟨rfl, rfl⟩ | ⟨j, rfl, hj⟩⟩
      · exact Or.inl ⟨rfl, rfl⟩
      · exact Or.inr ⟨j, (Nat.add_assoc _ _ _).symm, hj⟩
  | case2 h =>
    intro start
    constructor
    · intro hmem
      cases hmem
    · rintro ⟨j, -, -, hstands⟩
      rw [List.drop_nil] at hstands
      exact absurd (List.prefix_nil.mp hstands) (List.cons_ne_nil _ _)
  | case3 c rest h ih =>
    intro start
    rw [placed, ih]
    simp only [occurs_of_plain h]
    constructor
    · rintro ⟨j, rfl, hj⟩
      exact ⟨1 + j, Nat.add_assoc _ _ _, j, rfl, hj⟩
    · rintro ⟨_, rfl, j, rfl, hj⟩
      exact ⟨j, (Nat.add_assoc _ _ _).symm, hj⟩

/-- Tokens are found from left to right. -/
theorem placed_pairwise (ps : List Piece) : ∀ start,
    (∀ e ∈ placed start ps, start ≤ e.1) ∧ (placed start ps).Pairwise (·.1 < ·.1) := by
  induction ps with
  | nil =>
    intro start
    exact ⟨fun e he => absurd he List.not_mem_nil, .nil⟩
  | cons p ps ih =>
    intro start
    cases p with
    | plain c =>
      obtain ⟨hle, hlt⟩ := ih (start + 1)
      exact ⟨fun e he => Nat.le_of_succ_le (hle e he), hlt⟩
    | token name =>
      obtain ⟨hle, hlt⟩ := ih (start + (Piece.token name).written.length)
      have hbehind : ∀ e ∈ placed (start + (Piece.token name).written.length) ps, start < e.1 :=
        fun e he => Nat.lt_of_lt_of_le (Nat.lt_add_of_pos_right (Nat.succ_pos _)) (hle e he)
      refine ⟨fun e he => ?_, .cons hbehind hlt⟩
      rcases List.mem_cons.mp he with rfl | he
      · exact Nat.le_refl _
      · exact Nat.le_of_lt (hbehind e he)

theorem map_placed (ps : List Piece) : ∀ start,
    (placed start ps).map (·.2) = ps.filterMap Piece.name? := by
  induction ps with
  | nil =>
    intro start
    rfl
  | cons p ps ih =>
    intro start
    cases p with
    | plain c => exact ih _
    | token name => exact congrArg (String.ofList name :: ·) (ih _)

/-! ## The names of the variables -/

/-- The keys of a row that is sorted by positions, without repetition, follow each other by their
first positions. -/
theorem eraseDups_pairwise_first (es : List (Nat × String)) (h : es.Pairwise (·.1 < ·.1)) :
    (es.map (·.2)).eraseDups.Pairwise fun a b =>
      ∃ i, (i, a) ∈ es ∧ ∀ j, (j, b) ∈ es → i < j := by
  match es with
  | [] => exact .nil
  | (i, a) :: es =>
    obtain ⟨hfirst, hrest⟩ := List.pairwise_cons.mp h
    have hfilter : (es.map (·.2)).filter (fun b => !b == a) =
        (es.filter fun e => !e.2 == a).map (·.2) := by
      rw [List.filter_map]
      rfl
    rw [List.map_cons, List.eraseDups_cons, hfilter]
    -- the first key is none of the others, so its entries do not count for them
    have hother : ∀ {j b}, b ∈ ((es.filter fun e => !e.2 == a).map (·.2)).eraseDups →
        ((j, b) ∈ (i, a) :: es ↔ (j, b) ∈ es.filter fun e => !e.2 == a) := by
      intro j b hb
      rw [← hfilter, List.mem_eraseDups, List.mem_filter] at hb
      have hne : b ≠ a := by simpa using hb.2
      simp [hne]
    refine .cons (fun b hb => ⟨i, List.mem_cons_self, fun j hj => ?_⟩) ?_
    · exact hfirst _ (List.mem_filter.mp ((hother hb).mp hj)).1
    · refine (eraseDups_pairwise_first _ (hrest.sublist List.filter_sublist)).imp_of_mem ?_
      rintro b c hb hc ⟨k, hk, hlater⟩
      exact ⟨k, (hother hb).mpr hk, fun j hj => hlater j ((hother hc).mp hj)⟩
termination_by es.length
decreasing_by exact Nat.lt_succ_of_le (List.length_filter_le _ _)

theorem tokens_eq (s : String) : tokens s = (placed 0 (pieces s.toList)).map (·.2) :=
  (map_placed _ _).symm

theorem mem_placed_zero : (i, name) ∈ placed 0 (pieces cs) ↔ Occurs cs i name := by
  rw [mem_placed]
  simp only [Nat.zero_add]
  exact ⟨fun ⟨_, hi, h⟩ => hi ▸ h, fun h => ⟨i, rfl, h⟩⟩

/-- The variables of a text are those that occur in it. -/
theorem mem_variableNames {s : String} :
    name ∈ variableNames s ↔ ∃ i, Occurs s.toList i name := by
  rw [variableNames, List.mem_eraseDups, tokens_eq, List.mem_map]
  constructor
  · rintro ⟨⟨i, _⟩, hmem, rfl⟩
    exact ⟨i, mem_placed_zero.mp hmem⟩
  · rintro ⟨i, hi⟩
    exact ⟨(i, name), mem_placed_zero.mpr hi, rfl⟩

/-- A variable comes before another one if it occurs before all occurrences of that one. -/
theorem variableNames_pairwise (s : String) :
    (variableNames s).Pairwise fun a b =>
      ∃ i, Occurs s.toList i a ∧ ∀ j, Occurs s.toList j b → i < j := by
  have hfirst := eraseDups_pairwise_first _ (placed_pairwise (pieces s.toList) 0).2
  simp only [mem_placed_zero] at hfirst
  rwa [variableNames, tokens_eq]

theorem variableNames_nodup (s : String) : (variableNames s).Nodup := by
  refine (variableNames_pairwise s).imp ?_
  rintro a _ ⟨i, hi, hlater⟩ rfl
  exact Nat.lt_irrefl i (hlater i hi)

end FluxFleet.Interpolation
