import FluxFleet.Error
import FluxFleet.Proofs.Success

/-!
# Computations that fail in the same way

Failures fall into families, by the kind of error that a caller can tell them apart by. Two
computations agree if both succeed with related results, or if both fail with errors of one family
(`Agree`). A list that is worked through agrees with any of its rearrangements if only errors of one
family can occur (`Agree.mapM_of_perm`); with errors of two families the order decides which of them
is met first.
-/

namespace FluxFleet

/-- The kinds of error that a caller can tell apart. -/
inductive ErrorFamily where
  /-- any other error that the library or a plugin reports -/
  | general
  | input
  | configuration
  | graph
  | cycle
  | enablement
  | resolution
  | hook
  | output
  | reference
  | missingField
  | invalidField
  | type
  | value
  | key
  | index
  | attribute
  | overflow
  | recursion
  | runtime
  | encoding
  | decoding
deriving DecidableEq, Repr

namespace Error

/-- The family of an error. -/
def family : Error → ErrorFamily
  | .input _ => .input
  | .configuration _ => .configuration
  | .graph _ => .graph
  | .cycles _ => .cycle
  | .enablement _ => .enablement
  | .resolution _ _ => .resolution
  | .hook _ _ => .hook
  | .output _ => .output
  | .reference _ _ => .reference
  | .missingField _ _ => .missingField
  | .invalidField .. => .invalidField
  | .extensionTaken _ | .scalar (.truth _) => .key
  | .scalar .codeSize | .scalar .sixtieths => .overflow
  | .notRecord _ | .providerTaken _ | .notPair _ (some _) | .scalar _ | .digits _ | .hiddenField
  | .json .circular | .json .digits | .nullCharacter => .value
  | .depth | .json .depth => .recursion
  | .noHome => .runtime
  | .surrogate .. => .encoding
  | .encoding _ => .decoding
  | .noAttribute _ _ => .attribute
  | .outOfRange _ => .index
  | .raised kind _ =>
    match kind with
    | .general => .general
    | .input => .input
    | .configuration => .configuration
    | .output => .output
    | .value => .value
    | .key => .key
    | .runtime => .runtime
  | .extensionKind .. | .notIterable _ | .notKeyable _ | .notComparable _ _ | .wrongArgument _
  | .notPair _ none | .json _ => .type

end Error

variable {α β α' β' : Type} {R : α → α' → Prop} {S : β → β' → Prop}

/-- Both computations succeed with related results, or both fail with errors of one family. -/
inductive Agree (R : α → α' → Prop) : Except Error α → Except Error α' → Prop
  | ok {a : α} {a' : α'} (h : R a a') : Agree R (.ok a) (.ok a')
  | error {e e' : Error} (h : e.family = e'.family) : Agree R (.error e) (.error e')

namespace Agree

theorem of_eq_ok {x : Except Error α} {x' : Except Error α'} {a : α} {a' : α'} (h : Agree R x x')
    (hx : x = .ok a) (hx' : x' = .ok a') : R a a' := by
  subst hx hx'
  cases h with
  | ok h => exact h

theorem of_eq_error {x : Except Error α} {x' : Except Error α'} {e e' : Error} (h : Agree R x x')
    (hx : x = .error e) (hx' : x' = .error e') : e.family = e'.family := by
  subst hx hx'
  cases h with
  | error h => exact h

/-- A computation agrees with itself if its result is related to itself. -/
theorem refl {R : α → α → Prop} {x : Except Error α} (h : ∀ a, x = .ok a → R a a) :
    Agree R x x := by
  cases x with
  | error e => exact .error rfl
  | ok a => exact .ok (h a rfl)

/-- Sequences agree if their parts do. -/
theorem bind {x : Except Error α} {x' : Except Error α'} {f : α → Except Error β}
    {f' : α' → Except Error β'} (hx : Agree R x x') (hf : ∀ a a', R a a' → Agree S (f a) (f' a')) :
    Agree S (x >>= f) (x' >>= f') := by
  cases hx with
  | ok h => exact hf _ _ h
  | error h => exact .error h

/-- Computations that succeed together and fail with errors of one family agree. -/
theorem of_family {x : Except Error α} {x' : Except Error α'} {family : ErrorFamily}
    (h : ∀ a, x = .ok a → ∃ a', x' = .ok a' ∧ R a a') (h' : ∀ a', x' = .ok a' → ∃ a, x = .ok a)
    (he : ∀ e, x = .error e → e.family = family) (he' : ∀ e, x' = .error e → e.family = family) :
    Agree R x x' := by
  cases x with
  | ok a =>
    obtain ⟨a', rfl, haa'⟩ := h a rfl
    exact .ok haa'
  | error e =>
    cases x' with
    | ok a' =>
      obtain ⟨a, ha⟩ := h' a' rfl
      cases ha
    | error e' => exact .error ((he e rfl).trans (he' e' rfl).symm)

/-- What else is known of the results when both succeed can be added. -/
theorem imp {R' : α → α' → Prop} {x : Except Error α} {x' : Except Error α'} (h : Agree R x x')
    (hR : ∀ a a', x = .ok a → x' = .ok a' → R a a' → R' a a') : Agree R' x x' := by
  cases h with
  | ok h => exact .ok (hR _ _ rfl rfl h)
  | error h => exact .error h

/-- Lists that are rearrangements of each other agree if only errors of one family can occur. -/
theorem mapM_of_perm {f : α → Except Error β} {xs xs' : List α} {family : ErrorFamily}
    (hperm : xs.Perm xs') (hf : ∀ x ∈ xs, ∀ e, f x = .error e → e.family = family) :
    Agree List.Perm (xs.mapM f) (xs'.mapM f) := by
  have hfail : ∀ zs : List α, (∀ x ∈ zs, x ∈ xs) → ∀ e, zs.mapM f = .error e →
      e.family = family := by
    intro zs hzs e h
    obtain ⟨x, hx, hfx⟩ := exists_of_mapM_eq_error h
    exact hf x (hzs x hx) e hfx
  refine of_family (fun ys h => exists_mapM_of_perm hperm h) (fun ys' h => ?_)
    (hfail xs fun _ hx => hx) (hfail xs' fun _ hx => hperm.mem_iff.mpr hx)
  obtain ⟨ys, hys, -⟩ := exists_mapM_of_perm hperm.symm h
  exact ⟨ys, hys⟩

end Agree

end FluxFleet
