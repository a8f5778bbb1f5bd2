import FluxFleet.FileSystem.Tree
import Mathlib.Data.List.Basic

/-!
# What is seen in a tree

At a place in a tree stands nothing, a file with its bytes, or a directory. That is all that an
operation on paths asks of it, and it is kept apart here from what lies deeper (`Tree.seen`). Where
no directory stands, a file or a new directory can be put; it is seen at its own place, and at every
other place the same is seen as before (`seen_set`).
-/

namespace FluxFleet

namespace Tree

/-- A tree without what lies in it. -/
def shape : Tree → Tree
  | .file bytes => .file bytes
  | .directory _ => .empty

/-- What is seen at the end of a row of names. -/
def seen (t : Tree) (place : List String) : Option Tree := (t.get? place).map shape

theorem find?_put (name other : String) (t : Tree) (entries : List (String × Tree)) :
    find? other (put name t entries) = if name = other then some t else find? other entries := by
  induction entries with
  | nil => simp [put, find?]
  | cons e entries ih =>
    obtain ⟨n, u⟩ := e
    by_cases hn : n = name
    · subst hn
      by_cases ho : n = other
      · simp [put, find?, ho]
      · simp [put, find?, ho]
    · by_cases ho : n = other
      · subst ho
        simp [put, find?, hn, Ne.symm hn]
      · simp [put, find?, hn, ho, ih]

theorem get?_nil (t : Tree) : t.get? [] = some t := by
  cases t <;> rfl

theorem get?_directory_cons (entries : List (String × Tree)) (name : String) (names : List String) :
    (Tree.directory entries).get? (name :: names) =
      (find? name entries).bind (get? · names) := rfl

/-- What lies behind two rows of names. -/
theorem get?_append (t : Tree) (names names' : List String) :
    t.get? (names ++ names') = (t.get? names).bind (get? · names') := by
  induction names generalizing t with
  | nil => rw [List.nil_append, get?_nil, Option.bind_some]
  | cons name names ih =>
    cases t with
    | file bytes => rfl
    | directory entries =>
      rw [List.cons_append, get?_directory_cons, get?_directory_cons, Option.bind_assoc]
      simp only [ih]

theorem seen_nil (t : Tree) : t.seen [] = some t.shape := by
  rw [seen, get?_nil, Option.map_some]

theorem seen_directory_cons (entries : List (String × Tree)) (name : String) (names : List String) :
    (Tree.directory entries).seen (name :: names) = (find? name entries).bind (seen · names) := by
  rw [seen, get?_directory_cons, Option.map_bind]
  rfl

/-- A directory is seen where one lies. -/
theorem seen_eq_empty_iff {t : Tree} {place : List String} :
    t.seen place = some .empty ↔ ∃ entries, t.get? place = some (.directory entries) := by
  rw [seen, Option.map_eq_some_iff]
  constructor
  · rintro ⟨u, hu, hshape⟩
    cases u with
    | file bytes => cases hshape
    | directory entries => exact ⟨entries, hu⟩
  · rintro ⟨entries, h⟩
    exact ⟨_, h, rfl⟩

/-- A file is seen where one lies. -/
theorem seen_eq_file_iff {t : Tree} {place : List String} {bytes : List UInt8} :
    t.seen place = some (.file bytes) ↔ t.get? place = some (.file bytes) := by
  rw [seen, Option.map_eq_some_iff]
  constructor
  · rintro ⟨u, hu, hshape⟩
    cases u with
    | file bytes' =>
      cases hshape
      exact hu
    | directory entries => cases hshape
  · exact fun h => ⟨_, h, rfl⟩

theorem seen_eq_none_iff {t : Tree} {place : List String} :
    t.seen place = none ↔ t.get? place = none := by
  rw [seen, Option.map_eq_none_iff]

/-- In a directory an entry is seen if it has one of this name. -/
theorem seen_entry {t : Tree} {place : List String} {entries : List (String × Tree)}
    (h : t.get? place = some (.directory entries)) (name : String) :
    t.seen (place ++ [name]) = (find? name entries).map shape := by
  rw [seen, get?_append, h, Option.bind_some, get?_directory_cons]
  cases find? name entries with
  | none => rfl
  | some u => rw [Option.bind_some, get?_nil]

theorem set_nil (t new : Tree) : t.set [] new = new := by
  cases t <;> rfl

theorem set_directory_cons (entries : List (String × Tree)) (name : String) (names : List String)
    (new : Tree) : (Tree.directory entries).set (name :: names) new =
      .directory (put name (set ((find? name entries).getD empty) names new) entries) := rfl

/-- Nothing lies in this tree. -/
def Childless (t : Tree) : Prop := ∀ name names, t.get? (name :: names) = none

theorem childless_file (bytes : List UInt8) : (Tree.file bytes).Childless := fun _ _ => rfl

theorem childless_empty : Tree.empty.Childless := fun _ _ => rfl

/-- Below a place without a directory nothing is seen. -/
theorem seen_below {t : Tree} (h : t.shape ≠ .empty) (name : String) (names : List String) :
    t.seen (name :: names) = none := by
  cases t with
  | file bytes => rfl
  | directory entries => exact absurd rfl h

/-- What is put in a directory, where no directory stands, is seen there. At every other place the
same is seen as before. -/
theorem seen_set {t new : Tree} {above : List String} {name : String}
    (habove : t.seen above = some .empty) (hfree : t.seen (above ++ [name]) ≠ some .empty)
    (hnew : new.Childless) (place : List String) :
    (t.set (above ++ [name]) new).seen place =
      if place = above ++ [name] then some new.shape else t.seen place := by
  -- along the directories that lead to the place
  induction above generalizing t place with
  | nil =>
    obtain ⟨entries, hentries⟩ := seen_eq_empty_iff.mp habove
    rw [get?_nil] at hentries
    cases hentries
    rw [List.nil_append, set_directory_cons, set_nil]
    cases place with
    | nil => rw [if_neg (List.cons_ne_nil _ _).symm, seen_nil, seen_nil, shape, shape]
    | cons n rest =>
      rw [seen_directory_cons, seen_directory_cons, find?_put]
      by_cases hn : name = n
      · subst hn
        rw [if_pos rfl, Option.bind_some]
        cases rest with
        | nil => rw [if_pos rfl, seen_nil]
        | cons n' rest =>
          -- below the new tree nothing is seen, and nothing was, since no directory stood there
          rw [if_neg (by simp), seen, hnew, Option.map_none]
          rw [List.nil_append, seen_directory_cons] at hfree
          rcases hfind : find? name entries with _ | u
          · rfl
          · rw [hfind, Option.bind_some, seen_nil] at hfree
            exact (seen_below (fun h => hfree (congrArg some h)) n' rest).symm
      · rw [if_neg hn, if_neg (fun h => hn (List.cons.inj h).1.symm)]
  | cons a above ih =>
    obtain ⟨entries, hentries⟩ := seen_eq_empty_iff.mp habove
    cases t with
    | file bytes => cases hentries
    | directory es =>
      rw [seen_directory_cons] at habove
      obtain ⟨sub, hsub, habove⟩ := Option.bind_eq_some_iff.mp habove
      rw [List.cons_append, seen_directory_cons, hsub, Option.bind_some] at hfree
      rw [List.cons_append, set_directory_cons, hsub, Option.getD_some]
      cases place with
      | nil => rw [if_neg (List.cons_ne_nil _ _).symm, seen_nil, seen_nil, shape, shape]
      | cons n rest =>
        rw [seen_directory_cons, seen_directory_cons, find?_put]
        by_cases hn : a = n
        · subst hn
          rw [if_pos rfl, Option.bind_some, ih habove hfree, hsub, Option.bind_some]
          simp only [List.cons.injEq, true_and]
        · rw [if_neg hn, if_neg (fun h => hn (List.cons.inj h).1.symm)]

end Tree

end FluxFleet
