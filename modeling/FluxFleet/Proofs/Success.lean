import Mathlib.Data.List.Forall2
import Mathlib.Data.List.Perm.Basic

/-!
# Computations that succeed or fail

What is known of the parts of a computation when the whole succeeds: of two in sequence both do,
and a list that is worked through succeeds member by member, in whatever order. If the whole fails,
one of its parts does.
-/

namespace FluxFleet

variable {ε α β : Type}

/-- A sequence succeeds if both parts do. -/
theorem bind_eq_ok {x : Except ε α} {f : α → Except ε β} {b : β} :
    (x >>= f) = .ok b ↔ ∃ a, x = .ok a ∧ f a = .ok b := by
  constructor
  · intro h
    cases x with
    | error e => cases h
    | ok a => exact ⟨a, rfl, h⟩
  · rintro ⟨a, rfl, h⟩
    exact h

/-- What goes on behind a check that can only fail succeeds if the check passes and the rest
does. -/
theorem bind_check_eq_ok {c : Prop} [Decidable c] {e : ε} {f : PUnit → Except ε α} {a : α} :
    (if c then throw e >>= f else f ⟨⟩) = .ok a ↔ ¬ c ∧ f ⟨⟩ = .ok a := by
  split
  · next hc => exact ⟨nofun, fun h => absurd hc h.1⟩
  · next hc => exact ⟨fun h => ⟨hc, h⟩, And.right⟩

/-- A sequence fails if the first part does, or the second one after it. -/
theorem bind_eq_error {x : Except ε α} {f : α → Except ε β} {e : ε} :
    (x >>= f) = .error e ↔ x = .error e ∨ ∃ a, x = .ok a ∧ f a = .error e := by
  cases x with
  | error e' =>
    constructor
    · intro h
      cases h
      exact Or.inl rfl
    · rintro (h | ⟨a, ha, -⟩)
      · cases h
        rfl
      · cases ha
  | ok a =>
    constructor
    · intro h
      exact Or.inr ⟨a, rfl, h⟩
    · rintro (h | ⟨a', ha, h⟩)
      · cases h
      · cases ha
        exact h

/-- A list is worked through with success if each member is, in order. -/
theorem mapM_eq_ok_iff {f : α → Except ε β} :
    ∀ {xs : List α} {ys : List β},
      xs.mapM f = .ok ys ↔ List.Forall₂ (fun x y => f x = .ok y) xs ys := by
  intro xs
  induction xs with
  | nil =>
    intro ys
    rw [List.mapM_nil, List.forall₂_nil_left_iff]
    exact ⟨fun h => by cases h; rfl, fun h => by rw [h]; rfl⟩
  | cons x xs ih =>
    intro ys
    rw [List.mapM_cons]
    constructor
    · intro h
      obtain ⟨y, hy, hrest⟩ := bind_eq_ok.mp h
      obtain ⟨ys', hys', hpure⟩ := bind_eq_ok.mp hrest
      cases hpure
      exact List.Forall₂.cons hy (ih.mp hys')
    · intro h
      cases h with
      | cons hy hrest => exact bind_eq_ok.mpr ⟨_, hy, bind_eq_ok.mpr ⟨_, ih.mpr hrest, rfl⟩⟩

/-- The results of a list that is worked through are those of its members. -/
theorem mem_iff_of_mapM_eq_ok {f : α → Except ε β} {xs : List α} {ys : List β}
    (h : xs.mapM f = .ok ys) {y : β} : y ∈ ys ↔ ∃ x ∈ xs, f x = .ok y := by
  have hall := mapM_eq_ok_iff.mp h
  clear h
  induction hall with
  | nil => simp
  | cons hxy _ ih =>
    rw [List.mem_cons, List.exists_mem_cons_iff]
    constructor
    · rintro (rfl | hmem)
      · exact Or.inl hxy
      · exact Or.inr (ih.mp hmem)
    · rintro (hx | hmem)
      · rw [hxy] at hx
        exact Or.inl (Except.ok.inj hx).symm
      · exact Or.inr (ih.mpr hmem)

/-- What is collected from the results of a list that is worked through is collected from its
members. -/
theorem flatMap_of_mapM_eq_ok {γ : Type} {f : α → Except ε β} {g : β → List γ} {g' : α → List γ}
    {xs : List α} {ys : List β} (h : xs.mapM f = .ok ys)
    (hg : ∀ x ∈ xs, ∀ y, f x = .ok y → g y = g' x) : ys.flatMap g = xs.flatMap g' := by
  have hall := mapM_eq_ok_iff.mp h
  clear h
  induction hall with
  | nil => rfl
  | @cons x y xs ys hxy _ ih =>
    rw [List.flatMap_cons, List.flatMap_cons, hg x List.mem_cons_self y hxy,
      ih fun x' hx' => hg x' (List.mem_cons_of_mem _ hx')]

/-- Each member of a list that is worked through has a result. -/
theorem exists_of_mapM_eq_ok {f : α → Except ε β} {xs : List α} {ys : List β}
    (h : xs.mapM f = .ok ys) {x : α} (hx : x ∈ xs) : ∃ y ∈ ys, f x = .ok y := by
  have hall := mapM_eq_ok_iff.mp h
  clear h
  induction hall with
  | nil => cases hx
  | @cons a y xs ys hay _ ih =>
    rcases List.mem_cons.mp hx with rfl | hmem
    · exact ⟨y, List.mem_cons_self, hay⟩
    · obtain ⟨y', hy', hx'⟩ := ih hmem
      exact ⟨y', List.mem_cons_of_mem _ hy', hx'⟩

/-- A list that is worked through without success fails at one of its members. -/
theorem exists_of_mapM_eq_error {f : α → Except ε β} {xs : List α} {e : ε}
    (h : xs.mapM f = .error e) : ∃ x ∈ xs, f x = .error e := by
  induction xs with
  | nil => cases h
  | cons x xs ih =>
    rw [List.mapM_cons] at h
    rcases bind_eq_error.mp h with hx | ⟨y, -, hrest⟩
    · exact ⟨x, List.mem_cons_self, hx⟩
    · rcases bind_eq_error.mp hrest with hxs | ⟨ys, -, hpure⟩
      · obtain ⟨x', hx', he⟩ := ih hxs
        exact ⟨x', List.mem_cons_of_mem _ hx', he⟩
      · cases hpure

/-- Members are taken in without success if one of them fails behind those before it. -/
theorem foldlM_eq_error_iff {f : β → α → Except ε β} {xs : List α} {b : β} {e : ε} :
    xs.foldlM f b = .error e ↔ ∃ before x after b', xs = before ++ x :: after ∧
      before.foldlM f b = .ok b' ∧ f b' x = .error e := by
  constructor
  · intro h
    induction xs generalizing b with
    | nil => cases h
    | cons x xs ih =>
      rw [List.foldlM_cons] at h
      rcases bind_eq_error.mp h with hx | ⟨next, hnext, hrest⟩
      · exact ⟨[], x, xs, b, rfl, rfl, hx⟩
      · obtain ⟨before, y, after, b', rfl, hbefore, hy⟩ := ih hrest
        refine ⟨x :: before, y, after, b', rfl, ?_, hy⟩
        rw [List.foldlM_cons]
        exact bind_eq_ok.mpr ⟨next, hnext, hbefore⟩
  · rintro ⟨before, x, after, b', rfl, hbefore, hx⟩
    rw [List.foldlM_append]
    refine bind_eq_error.mpr (Or.inr ⟨b', hbefore, ?_⟩)
    rw [List.foldlM_cons]
    exact bind_eq_error.mpr (Or.inl hx)

/-- A list is worked through without success if a member fails, and none fails otherwise. -/
theorem mapM_eq_error_of_mem {f : α → Except ε β} {xs : List α} {x : α} {e : ε} (hx : x ∈ xs)
    (hfails : f x = .error e) (hothers : ∀ y ∈ xs, ∀ e', f y = .error e' → e' = e) :
    xs.mapM f = .error e := by
  cases hmap : xs.mapM f with
  | error e' =>
    obtain ⟨y, hy, he'⟩ := exists_of_mapM_eq_error hmap
    rw [hothers y hy e' he']
  | ok ys =>
    obtain ⟨y, -, hy⟩ := exists_of_mapM_eq_ok hmap hx
    rw [hfails] at hy
    cases hy

/-- A list is worked through without success if the first member that fails has the error. -/
theorem mapM_eq_error_iff {f : α → Except ε β} {failure? : α → Option ε}
    (hfailure : ∀ x e, f x = .error e ↔ failure? x = some e) {xs : List α} {e : ε} :
    xs.mapM f = .error e ↔ xs.findSome? failure? = some e := by
  induction xs with
  | nil =>
    constructor
    · intro h
      cases h
    · intro h
      cases h
  | cons x xs ih =>
    rw [List.mapM_cons, List.findSome?_cons, bind_eq_error]
    rcases hx : f x with e' | y
    · simp [(hfailure x e').mp hx]
    · have hnone : failure? x = none := by
        rw [Option.eq_none_iff_forall_ne_some]
        intro e' he'
        rw [(hfailure x e').mpr he'] at hx
        cases hx
      simp only [hnone, reduceCtorEq, false_or, Except.ok.injEq, exists_eq_left', ← ih]
      rcases xs.mapM f with e' | ys
      · exact Iff.rfl
      · constructor
        · intro h
          cases h
        · intro h
          cases h

/-- A list is worked through with success if each member has a result. -/
theorem exists_mapM_eq_ok {f : α → Except ε β} {xs : List α} (h : ∀ x ∈ xs, ∃ y, f x = .ok y) :
    ∃ ys, xs.mapM f = .ok ys := by
  rcases hmap : xs.mapM f with e | ys
  · obtain ⟨x, hx, he⟩ := exists_of_mapM_eq_error hmap
    obtain ⟨y, hy⟩ := h x hx
    rw [he] at hy
    cases hy
  · exact ⟨ys, rfl⟩

/-- A list that is worked through in another order has the same results in another order. -/
theorem exists_mapM_of_perm {f : α → Except ε β} {xs xs' : List α} {ys : List β}
    (hperm : xs.Perm xs') (h : xs.mapM f = .ok ys) :
    ∃ ys', xs'.mapM f = .ok ys' ∧ ys.Perm ys' := by
  obtain ⟨ys', hall, hys⟩ := List.perm_comp_forall₂ hperm.symm (mapM_eq_ok_iff.mp h)
  exact ⟨ys', mapM_eq_ok_iff.mpr hall, hys.symm⟩

/-- A computation whose result is not needed succeeds if it does. -/
theorem discard_eq_ok {x : Except ε α} {u : PUnit} :
    discard x = .ok u ↔ ∃ a, x = .ok a := by
  cases x with
  | error e =>
    constructor
    · intro h
      cases h
    · rintro ⟨a, ha⟩
      cases ha
  | ok a => exact ⟨fun _ => ⟨a, rfl⟩, fun _ => rfl⟩

theorem discard_eq_error {x : Except ε α} {e : ε} : discard x = .error e ↔ x = .error e := by
  cases x with
  | error e' =>
    constructor
    · intro h
      cases h
      rfl
    · intro h
      cases h
      rfl
  | ok a =>
    constructor
    · intro h
      cases h
    · intro h
      cases h

/-- A loop that only checks is a list that is worked through. -/
theorem forIn_discard (f : α → Except ε β) (xs : List α) :
    (forIn xs PUnit.unit fun x _ => do
      discard (f x)
      pure (ForInStep.yield PUnit.unit)) = discard (xs.mapM f) := by
  induction xs with
  | nil => rfl
  | cons x xs ih =>
    rw [List.forIn_cons, List.mapM_cons]
    cases f x with
    | error e => rfl
    | ok y =>
      refine ih.trans ?_
      cases xs.mapM f <;> rfl

/-- A loop of checks that all pass does nothing else. -/
theorem forIn_of_checks {f : α → Except ε (ForInStep PUnit)} {xs : List α}
    (h : ∀ x ∈ xs, f x = .ok (.yield PUnit.unit)) :
    (forIn xs PUnit.unit fun x _ => f x) = Except.ok PUnit.unit := by
  induction xs with
  | nil => rfl
  | cons x xs ih =>
    rw [List.forIn_cons, h x List.mem_cons_self]
    exact ih fun y hy => h y (List.mem_cons_of_mem _ hy)

/-- A loop that succeeds has gone through all its members, if no member ends it. -/
theorem of_forIn_eq_ok {f : α → Except ε (ForInStep Unit)} {xs : List α} {u : Unit}
    (h : (forIn xs () fun x _ => f x) = Except.ok u)
    (hgoes : ∀ x ∈ xs, ∀ step, f x = .ok step → step = .yield ()) {x : α} (hx : x ∈ xs) :
    f x = .ok (.yield ()) := by
  induction xs with
  | nil => cases hx
  | cons a xs ih =>
    rw [List.forIn_cons] at h
    obtain ⟨step, hstep, h⟩ := bind_eq_ok.mp h
    obtain rfl := hgoes a List.mem_cons_self step hstep
    rcases List.mem_cons.mp hx with rfl | hmem
    · exact hstep
    · exact ih h (fun y hy => hgoes y (List.mem_cons_of_mem _ hy)) hmem

end FluxFleet
