import FluxFleet.Proofs.Failure
import FluxFleet.Proofs.Generation
import FluxFleet.Proofs.Groups

/-!
# What a run without plugins can fail for

Behind the checks a run has three phases, and each fails in one way only. Kustomizations are not
resolved if the name of a variable cannot be a key (`family_of_resolve_eq_error`), the registry's
own hook fails if the type of a variable cannot be one (`family_of_grouping_eq_error`), and a
kustomization whose fields are of the kinds that they should be (`Resolved.Renderable`) is not
rendered if it has a reference that cannot be parsed (`family_of_render_eq_error`).
-/

namespace FluxFleet

variable {templates : List Template} {cluster : Cluster} {resolved : List Resolved}

theorem Value.of_asKey_eq_error {v : Value} {e : Error} (h : v.asKey = .error e) :
    e.family = .type ∧ e.isReported = false := by
  rw [asKey] at h
  split at h
  · cases h
    exact ⟨rfl, rfl⟩
  · cases h

/-! ## Resolution -/

namespace Resolution

/-- Only names that cannot be keys keep a kustomization from being resolved. -/
theorem family_of_resolve_eq_error {t : Template} {ks : Kustomization} {s : Option Selection}
    {e : Error} (h : resolve t ks s = .error e) : e.family = .type := by
  rcases bind_eq_error.mp h with h | ⟨_, -, h⟩
  · rw [values_eq] at h
    rcases bind_eq_error.mp h with h | ⟨_, -, h⟩
    · obtain ⟨d, -, hd⟩ := exists_of_mapM_eq_error (discard_eq_error.mp h)
      exact (Value.of_asKey_eq_error hd).1
    · cases h
  · cases h

theorem family_of_resolveTemplate_eq_error {t : Template} {e : Error}
    (h : resolveTemplate cluster t = .error e) : e.family = .type := by
  rw [resolveTemplate] at h
  split at h
  · cases h
  · obtain ⟨ks, -, hks⟩ := exists_of_mapM_eq_error h
    exact family_of_resolve_eq_error hks

/-- Only types that cannot be keys keep variables from being grouped. -/
theorem of_external_eq_error {e : Error} (h : external resolved = .error e) :
    e.family = .type ∧ e.isReported = false := by
  rw [external_eq] at h
  obtain ⟨s, -, hs⟩ := exists_of_foldlM_join_eq_error h
  exact Value.of_asKey_eq_error hs

end Resolution

/-! ## Rendering -/

/-- The kinds to keep of a policy can be listed and written. -/
def Preservation.Listable (p : Preservation) : Prop :=
  ∃ kinds, p.keepResources.eachGiven = .ok kinds ∧ ∀ kind ∈ kinds, ∃ text, kind.written = .ok text

/-- The names and the path of a kustomization are texts. -/
structure Kustomization.WellTyped (ks : Kustomization) : Prop where
  name : ∃ s, ks.name = .str s
  path : ∃ s, ks.path = .str s
  target : ∀ target, ks.target = some target → ∃ s, target.name = .str s

/-- The policies of kustomizations and of overrides have kinds to keep that can be listed. -/
structure ListablePolicies (cluster : Cluster) (templates : List Template) : Prop where
  own : ∀ d ∈ Graph.declared templates, ∀ p, d.2.preservation = some p → p.Listable
  overridden : ∀ s ∈ cluster.selections, ∀ k enabled p,
    (k, Override.adjust enabled (some p)) ∈ s.overrides.entries → p.Listable

/-- Only for its references a resolved kustomization can fail to be rendered. -/
structure Resolved.Renderable (includePreserved : Bool) (r : Resolved) : Prop where
  name : ∃ s, r.kustomization.name = .str s
  path : ∃ s, r.kustomization.path = .str s
  targetNamespace : ∃ s, r.targetNamespace = .str s
  preservation : includePreserved = true → r.preservation.Listable

theorem Preservation.Listable.default : Listable {} := ⟨[], rfl, nofun⟩

/-- The policy under a selection lists its kinds if all policies do. -/
theorem Kustomization.listable_preservationUnder {ks : Kustomization} {s : Selection}
    (hks : ∀ p, ks.preservation = some p → p.Listable)
    (hs : ∀ k enabled p, (k, Override.adjust enabled (some p)) ∈ s.overrides.entries →
      p.Listable) : (ks.preservationUnder (some s)).Listable := by
  have hown : (ks.preservation.getD {}).Listable := by
    rcases hp : ks.preservation with _ | p
    · exact .default
    · exact hks p hp
  rw [preservationUnder, Option.bind_some]
  rcases hov : s.override? ks with _ | on | ⟨enabled, _ | p⟩
  · exact hown
  · exact hown
  · exact hown
  · obtain ⟨k, hk⟩ := OrderedMap.exists_mem_of_get?_eq_some hov
    by_cases hnull : p.keepResources.isNull = true
    · simp only [Preservation.Listable, hnull, if_true]
      exact hown
    · simp only [Preservation.Listable, hnull]
      exact hs k enabled p hk

theorem Preservation.Listable.exists_kinds {p : Preservation} (h : p.Listable) :
    ∃ kinds, p.kinds = .ok kinds ∧ ∀ kind ∈ kinds, ∃ text, kind.written = .ok text := by
  obtain ⟨mode, keepResources⟩ := p
  cases mode with
  | none => exact ⟨[], rfl, nofun⟩
  | stateful =>
    refine ⟨Preservation.statefulKinds, rfl, fun kind hkind => ?_⟩
    simp only [Preservation.statefulKinds, List.mem_cons, List.not_mem_nil, or_false] at hkind
    rcases hkind with rfl | rfl | rfl <;> exact ⟨_, rfl⟩
  | custom => exact h

theorem Resolution.renderable_of_mem {includePreserved : Bool}
    (hpolicies : includePreserved = true → ListablePolicies cluster templates)
    (hks : ∀ d ∈ Graph.declared templates, d.2.WellTyped)
    (h : resolveAll cluster templates = .ok resolved) {r : Resolved} (hr : r ∈ resolved) :
    r.Renderable includePreserved := by
  obtain ⟨t, ks, s, hd, hsel, hres⟩ := (mem_resolveAll h).mp hr
  have hwell := hks (t, ks) hd
  have hlistable := fun hpreserved : includePreserved = true =>
    Kustomization.listable_preservationUnder ((hpolicies hpreserved).own (t, ks) hd)
      ((hpolicies hpreserved).overridden s (List.mem_of_find?_eq_some hsel))
  have htarget : ∃ s, targetNamespace ks = .str s := by
    rw [targetNamespace]
    rcases hns : ks.target with _ | target
    · exact ⟨"default", rfl⟩
    · exact hwell.target target hns
  obtain ⟨_, -, hres⟩ := bind_eq_ok.mp hres
  cases hres
  exact ⟨hwell.name, hwell.path, htarget, hlistable⟩

namespace Manifest

theorem family_of_requirement_eq_error {r : Resolved} {d : Dependency} {e : Error}
    (h : requirement r d = .error e) : e.family = .input := by
  rw [requirement] at h
  split at h <;> cases h
  rfl

/-- Only its references keep a kustomization from being rendered. -/
theorem family_of_ofResolved_eq_error {r : Resolved} {s : Settings} {kept : List Value}
    {preserved includePreserved : Bool} {e : Error} (hr : r.Renderable includePreserved)
    (hkept : ∀ kind ∈ kept, ∃ text, kind.written = .ok text)
    (h : ofResolved r s kept preserved = .error e) : e.family = .input := by
  obtain ⟨name, hname⟩ := hr.name
  obtain ⟨path, hpath⟩ := hr.path
  rcases bind_eq_error.mp h with h | ⟨_, -, h⟩
  · rw [hname] at h
    cases h
  rcases bind_eq_error.mp h with h | ⟨_, -, h⟩
  · obtain ⟨dep, -, hdep⟩ := exists_of_mapM_eq_error h
    exact family_of_requirement_eq_error hdep
  rcases bind_eq_error.mp h with h | ⟨_, -, h⟩
  · obtain ⟨texts, htexts⟩ := exists_mapM_eq_ok hkept
    have h : discard (kept.mapM Value.written) = .error e := by
      rw [← forIn_discard]
      exact h
    rw [discard_eq_error, htexts] at h
    cases h
  rcases bind_eq_error.mp h with h | ⟨_, -, h⟩
  · rw [sourcePath, hpath] at h
    cases h
  · cases h

end Manifest

namespace Generator

variable {η π τ : Type} {plugins : Plugins η π τ} {d : GeneratorDefaults} {options : Options}
variable {s : Settings}

theorem family_of_render_eq_error {includePreserved : Bool} {r : Resolved} {e : Error}
    (hr : r.Renderable includePreserved) (h : render s includePreserved r = .error e) :
    e.family = .input := by
  rw [render] at h
  by_cases hon : r.enabled.truthy = true
  · rw [if_pos hon] at h
    rcases bind_eq_error.mp h with h | ⟨_, -, h⟩
    · exact Manifest.family_of_ofResolved_eq_error hr (fun _ hk => absurd hk List.not_mem_nil) h
    · cases h
  · rw [if_neg hon] at h
    cases includePreserved with
    | false => cases h
    | true =>
      obtain ⟨kinds, hkinds, hwritten⟩ := (hr.preservation rfl).exists_kinds
      rw [if_pos rfl] at h
      rcases bind_eq_error.mp h with h | ⟨kinds', hkinds', h⟩
      · rw [hkinds] at h
        cases h
      · obtain rfl := Except.ok.inj (hkinds.symm.trans hkinds')
        split at h
        · cases h
        · rcases bind_eq_error.mp h with h | ⟨_, -, h⟩
          · exact Manifest.family_of_ofResolved_eq_error hr hwritten h
          · cases h

/-! ## Runs -/

/-- What the registry's own hook does to a run without providers: it groups the variables. -/
def grouping (resolved : List Resolved) : Except Error Unit :=
  match Resolution.external resolved with
  | .error e => .error (Dispatch.reported afterResolve e)
  | .ok _ => .ok ()

theorem family_of_grouping_eq_error {e : Error} (h : grouping resolved = .error e) :
    e.family = .hook := by
  rw [grouping] at h
  split at h
  · next e' he' =>
    cases h
    rw [Dispatch.reported, (Resolution.of_external_eq_error he').2]
    rfl
  · cases h

theorem grouping_eq_ok :
    grouping resolved = .ok () ↔ ∃ groups, Resolution.external resolved = .ok groups := by
  rw [grouping]
  rcases Resolution.external resolved with e | groups
  · simp
  · simp

theorem resolveGroups_empty (groups : List (Value × List Substitution)) (c : Context)
    (trace : List τ) :
    Registry.resolveGroups plugins .empty groups c trace = (c, trace, .ok ()) := by
  induction groups with
  | nil => rfl
  | cons g groups ih => exact ih

/-- Without providers the registry's own hook passes on what it receives, unless it fails. -/
theorem dispatch_afterResolve_new (c : Context) :
    ((.new : Registry η π).dispatch plugins afterResolve c).2 =
      (do grouping c.kustomizations; return c) := by
  have hnew : (.new : Registry η π) = .withProviders .empty := rfl
  have hproviders : (.withProviders .empty : Registry η π).providers = .empty := rfl
  rw [hnew, grouping, Registry.dispatch, Dispatcher.dispatch, Registry.hooksOf_afterResolve]
  simp only [Dispatch.run, Registry.answer, Registry.provideAll, hproviders, resolveGroups_empty]
  rcases Resolution.external c.kustomizations with e | groups <;> rfl

/-- A run without plugins: the checks and the resolution, the grouping of variables, and the
result. -/
theorem generate_new_eq : (generate plugins .new d cluster templates options).2 = (do
    let c ← start cluster templates options
    grouping c.kustomizations
    build cluster (Settings.ofCluster cluster d) options c.kustomizations) := by
  have hnew : (.new : Registry η π) = .withProviders .empty := rfl
  rw [hnew, generate_eq, ← hnew]
  simp only [dispatch_afterResolve_new, bind_assoc, pure_bind]

end Generator

end FluxFleet
