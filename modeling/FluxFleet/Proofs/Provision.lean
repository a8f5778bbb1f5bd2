import FluxFleet.Proofs.Precedence

/-!
# Where the values of providers go

The registry's own hook asks the providers once and writes what they return over the values of
enabled kustomizations. Whatever context it is given, it changes nothing but these values, and of
them only those of names that a kustomization declares with a type whose provider returns the name
(`Receives`). So if two runs differ in one name that one provider returns, what they leave differs
at most in this name, where it is declared with the type of that provider (`AgreesBut`). Both follow
from one equation for the hook (`provideAll_of_answering`) and hold in `provide_reaches_declared`.
-/

namespace FluxFleet

open OrderedMap (Steady)

/-- The names and types of all variables of enabled kustomizations can be keys, as texts can. -/
structure Context.Keyed (c : Context) : Prop where
  names : ∀ r ∈ c.kustomizations, r.enabled.truthy = true →
    ∀ s ∈ r.kustomization.substitutions, s.name.asKey = .ok s.name
  types : ∀ r ∈ c.kustomizations, r.enabled.truthy = true →
    ∀ s ∈ r.kustomization.substitutions, s.type.asKey = .ok s.type

theorem Kustomization.any_namesOf {ks : Kustomization} {type n : Value} :
    (ks.namesOf type).any (· == n) = true ↔
      ∃ s ∈ ks.substitutions, (s.type == type) = true ∧ (s.name == n) = true := by
  rw [namesOf, List.any_map, List.any_filter, List.any_eq_true]
  simp only [Bool.and_eq_true, Function.comp_apply]

namespace Registry

open Resolution (firstAppearances grouped pending)

variable {η π τ : Type} {plugins plugins' : Plugins η π τ}
  {providers providers' : OrderedMap Value π}
variable {c : Context} {d d' : Dispatcher (PluginHook η π)}

/-! ## What is returned -/

/-- Every provider answers every request by a mapping. -/
def Answering (plugins : Plugins η π τ) (providers : OrderedMap Value π) : Prop :=
  ∀ type p, providers.get? type = some p → ∀ q, ∃ v values,
    (plugins.provide p q).2 = .ok v ∧ Provided.mapping v = .ok values

/-- What the provider of a type returns for a name. -/
def returnedIn? (plugins : Plugins η π τ) (providers : OrderedMap Value π) (c : Context)
    (type n : Value) : Option Value :=
  (answered? plugins providers c.cluster c.templates type
    ((pending c.kustomizations).filter (·.type == type))).bind (·.get? n)

/-- The value that providers give a name of a kustomization: of the types that the name is declared
with and whose provider returns it, the last one counts, in the order of first appearance among
enabled kustomizations. -/
def providedIn? (plugins : Plugins η π τ) (providers : OrderedMap Value π) (c : Context)
    (ks : Kustomization) (n : Value) : Option Value :=
  ((firstAppearances ((pending c.kustomizations).map (·.type))).filterMap fun type =>
    if (ks.namesOf type).any (· == n) then returnedIn? plugins providers c type n
    else none).getLast?

/-- A type that is asked for is that of a variable, and not a core type. -/
theorem exists_pending {type : Value}
    (h : type ∈ firstAppearances ((pending c.kustomizations).map (·.type))) :
    ∃ s ∈ pending c.kustomizations, s.type = type ∧ Substitution.isCoreType type = false := by
  obtain ⟨s, hs, rfl⟩ := List.mem_map.mp (Resolution.mem_of_mem_firstAppearances h)
  refine ⟨s, hs, rfl, ?_⟩
  have hcore := (List.mem_filter.mp hs).2
  rw [Bool.not_eq_true'] at hcore
  exact hcore

/-- A value that is given is returned for a type that the name is declared with. -/
theorem exists_returned {ks : Kustomization} {n v : Value}
    (h : providedIn? plugins providers c ks n = some v) :
    ∃ type, Substitution.isCoreType type = false ∧ (ks.namesOf type).any (· == n) = true ∧
      returnedIn? plugins providers c type n = some v := by
  obtain ⟨type, htype, hv⟩ := List.mem_filterMap.mp (List.mem_of_getLast? h)
  obtain ⟨-, -, -, hcore⟩ := exists_pending htype
  split at hv
  · next hdeclared => exact ⟨type, hcore, hdeclared, hv⟩
  · cases hv

/-! ## One run -/

/-- Providers that answer are all asked. -/
theorem exists_resolveGroups (h : Answering plugins providers) :
    ∀ {groups : List (Value × List Substitution)} {c : Context} {trace : List τ},
      ∃ c' trace', resolveGroups plugins providers groups c trace = (c', trace', .ok ()) := by
  intro groups
  induction groups with
  | nil =>
    intro c trace
    exact ⟨c, trace, rfl⟩
  | cons g groups ih =>
    obtain ⟨type, group⟩ := g
    intro c trace
    rw [resolveGroups]
    rcases hp : providers.get? type with _ | p
    · exact ih
    · obtain ⟨v, values, hv, hvalues⟩ := h type p hp (requestFor c type group)
      simp only [hv, hvalues]
      exact ih

/-- With providers that answer, the hook writes their answers and does nothing else. -/
theorem provideAll_of_answering (hkeyed : c.Keyed) (hanswers : Answering plugins providers) :
    ∃ trace, provideAll plugins providers c d =
      { left := c.mapKustomizations (overwrite (answers plugins providers c.cluster c.templates
          (grouped (pending c.kustomizations)).entries)),
        dispatcher := d, trace } := by
  obtain ⟨c', trace, hrun⟩ := @exists_resolveGroups _ _ _ plugins providers hanswers
    (grouped (pending c.kustomizations)).entries c []
  refine ⟨trace, ?_⟩
  rw [provideAll, Resolution.external_of_keyed hkeyed.types]
  simp only [hrun, resolveGroups_eq_ok hrun]
  rfl

/-- What the hook leaves of a kustomization. -/
structure Receives (plugins : Plugins η π τ) (providers : OrderedMap Value π) (c : Context)
    (before after : Resolved) : Prop where
  /-- nothing but values is written -/
  rest : after = { before with values := after.values }
  disabled : before.enabled.truthy = false → after = before
  /-- what providers give goes before what was there -/
  value : ∀ n, after.values.get? n =
    (if before.enabled.truthy then providedIn? plugins providers c before.kustomization n
      else none).or (before.values.get? n)
  /-- a value that changes is one that was asked for -/
  changed : ∀ n, after.values.get? n ≠ before.values.get? n → before.enabled.truthy = true ∧
    ∃ type, Substitution.isCoreType type = false ∧
      (∃ s ∈ before.kustomization.substitutions, (s.type == type) = true ∧ (s.name == n) = true) ∧
      ∃ v, returnedIn? plugins providers c type n = some v ∧ after.values.get? n = some v

/-- Each kustomization receives what it asked for. -/
theorem receives_overwrite {r : Resolved}
    (hnames : r.enabled.truthy = true → ∀ s ∈ r.kustomization.substitutions, Steady s.name) :
    Receives plugins providers c r (overwrite (answers plugins providers c.cluster c.templates
      (grouped (pending c.kustomizations)).entries) r) := by
  have hdisabled := fun hoff : r.enabled.truthy = false =>
    overwrite_of_disabled hoff (answers plugins providers c.cluster c.templates
      (grouped (pending c.kustomizations)).entries)
  have hvalue : ∀ n, (overwrite (answers plugins providers c.cluster c.templates
      (grouped (pending c.kustomizations)).entries) r).values.get? n =
      (if r.enabled.truthy then providedIn? plugins providers c r.kustomization n
        else none).or (r.values.get? n) := by
    intro n
    by_cases hon : r.enabled.truthy = true
    · rw [get?_overwrite _ hon (hnames hon), lastAnswer_answers, if_pos hon]
      rfl
    · rw [hdisabled (Bool.eq_false_iff.mpr hon), if_neg hon, Option.none_or]
  refine ⟨overwrite_eq _ r, hdisabled, hvalue, fun n hchanged => ?_⟩
  rw [hvalue n] at hchanged ⊢
  by_cases hon : r.enabled.truthy = true
  · rw [if_pos hon] at hchanged ⊢
    rcases hgiven : providedIn? plugins providers c r.kustomization n with _ | v
    · rw [hgiven, Option.none_or] at hchanged
      exact absurd rfl hchanged
    · obtain ⟨type, hcore, hdeclared, hreturned⟩ := exists_returned hgiven
      exact ⟨hon, type, hcore, Kustomization.any_namesOf.mp hdeclared, v, hreturned, rfl⟩
  · rw [if_neg hon, Option.none_or] at hchanged
    exact absurd rfl hchanged

/-! ## Two runs -/

/-- Two providings return the same, but for the name `n` and the type `type`. -/
def DiffersAt (plugins plugins' : Plugins η π τ) (providers providers' : OrderedMap Value π)
    (c : Context) (type n : Value) : Prop :=
  ∀ s ∈ pending c.kustomizations, ∀ m, ((s.type == type) && (m == n)) = false →
    returnedIn? plugins providers c s.type m = returnedIn? plugins' providers' c s.type m

/-- Two kustomizations are the same, but for the name `n` if that is declared with the type `type`
and they are enabled. -/
structure AgreesBut (type n : Value) (r r' : Resolved) : Prop where
  rest : r' = { r with values := r'.values }
  values : ∀ m, r.values.get? m ≠ r'.values.get? m → (m == n) = true ∧ r.enabled.truthy = true ∧
    ∃ s ∈ r.kustomization.substitutions, (s.type == type) = true ∧ (s.name == n) = true

/-- What is given differs only for a name that is declared with the type that makes the
difference. -/
theorem declared_of_providedIn?_ne {type n m : Value} {ks : Kustomization}
    (hsteady : ∀ s ∈ ks.substitutions, Steady s.name ∧ Steady s.type)
    (h : DiffersAt plugins plugins' providers providers' c type n)
    (hne : providedIn? plugins providers c ks m ≠ providedIn? plugins' providers' c ks m) :
    (m == n) = true ∧ ∃ s ∈ ks.substitutions, (s.type == type) = true ∧ (s.name == n) = true := by
  by_contra hnot
  refine hne (congrArg List.getLast? (List.filterMap_congr fun type' htype' => ?_))
  obtain ⟨s', hs', rfl, -⟩ := exists_pending htype'
  split
  · next hdeclared =>
    refine h s' hs' m (Bool.eq_false_iff.mpr fun hboth => hnot ?_)
    rw [Bool.and_eq_true] at hboth
    obtain ⟨htype, hm⟩ := hboth
    obtain ⟨s, hs, hstype, hsname⟩ := Kustomization.any_namesOf.mp hdeclared
    obtain ⟨hname, hkind⟩ := hsteady s hs
    -- the variable declares the name and the type up to equality of keys
    have htrans {k a b : Value} (hk : Steady k) (hka : (k == a) = true) (hab : (a == b) = true) :
        (k == b) = true := by
      rw [← hk.trans ((hk.symm a).trans hka) b]
      exact hab
    exact ⟨hm, s, hs, htrans hkind hstype htype, htrans hname hsname hm⟩
  · rfl

theorem agreesBut_of_receives {type n : Value} {before after after' : Resolved}
    (hsteady : before.enabled.truthy = true →
      ∀ s ∈ before.kustomization.substitutions, Steady s.name ∧ Steady s.type)
    (h : DiffersAt plugins plugins' providers providers' c type n)
    (hafter : Receives plugins providers c before after)
    (hafter' : Receives plugins' providers' c before after') : AgreesBut type n after after' := by
  have henabled : after.enabled = before.enabled := by rw [hafter.rest]
  have hks : after.kustomization = before.kustomization := by rw [hafter.rest]
  refine ⟨by rw [hafter.rest, hafter'.rest], fun m hne => ?_⟩
  rw [henabled, hks]
  rw [hafter.value, hafter'.value] at hne
  by_cases hon : before.enabled.truthy = true
  · rw [if_pos hon, if_pos hon] at hne
    obtain ⟨hm, hdeclared⟩ := declared_of_providedIn?_ne (hsteady hon) h
      fun heq => hne (by rw [heq])
    exact ⟨hm, hon, hdeclared⟩
  · rw [if_neg hon, if_neg hon] at hne
    exact absurd rfl hne

/-- A kustomization with a secret and a plain variable. -/
def vaulted : Kustomization :=
  { Kustomization.bare "web" [] with
    substitutions := [{ name := "token", fallback := none, kind := .plugin "vault" [] },
      { name := "region", fallback := none, kind := .generic .null .null }] }

/-- The kustomization as it is resolved, enabled or not. -/
def held (on : Bool) : Resolved :=
  { template := Generator.application, kustomization := vaulted, enabled := .bool on,
    values := ⟨[("token", "old"), ("region", "old")]⟩ }

/-- A context with both. -/
def cellar : Context := { cluster := Generator.site, kustomizations := [held true, held false] }

/-- A registry whose provider returns a secret and knows the plain variable too. -/
def vault (token : String) : Registry Empty Value :=
  .withProviders ⟨[("vault", .record [("token", .str token), ("region", "vault")])]⟩

theorem keyed_cellar : cellar.Keyed := by
  have hvaulted : ∀ r ∈ cellar.kustomizations, r.kustomization = vaulted := by
    intro r hr
    rcases List.mem_pair.mp hr with rfl | rfl <;> rfl
  constructor
  all_goals
    intro r hr _ s hs
    rw [hvaulted r hr] at hs
    rcases List.mem_pair.mp hs with rfl | rfl <;> rfl

theorem answering_vault (token : String) :
    Answering Generator.constantly (vault token).providers := by
  intro type p hp q
  obtain ⟨type', hp⟩ := OrderedMap.exists_mem_of_get?_eq_some hp
  obtain ⟨-, rfl⟩ := Prod.mk.inj (List.mem_singleton.mp hp)
  exact ⟨_, _, rfl, rfl⟩

theorem differsAt_vault (token token' : String) :
    DiffersAt Generator.constantly Generator.constantly (vault token).providers
      (vault token').providers cellar "vault" "token" := by
  intro s hs m hm
  obtain rfl := List.mem_singleton.mp hs
  have htoken : (Value.str "token" == m) = false := by
    have hsteady : Steady (Value.str "token") := Value.steady_of_key rfl
    rw [← hsteady.symm]
    exact hm
  have hreturned (token : String) : returnedIn? Generator.constantly (vault token).providers cellar
      "vault" m = OrderedMap.find? m [("token", .str token), ("region", .str "vault")] := rfl
  rw [Substitution.type, hreturned, hreturned]
  simp only [OrderedMap.find?, htoken, Bool.false_eq_true, if_false]

end Registry

end FluxFleet
