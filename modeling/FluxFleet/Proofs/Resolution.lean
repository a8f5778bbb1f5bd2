import FluxFleet.Proofs.Enablement
import FluxFleet.Resolution

/-!
# What is resolved for a cluster

The resolved kustomizations are those of the templates that the cluster selects
(`mem_resolveAll`), each with the flag that the check of enablement reads.
-/

namespace FluxFleet

namespace Resolution

open Enablement (flag)
open FluxFleet.Graph (declared mem_declared)

variable {cluster : Cluster} {templates : List Template} {resolved : List Resolved}

/-- The values of a kustomization as they are resolved, by their texts. -/
def shown (m : OrderedMap Value String) : OrderedMap Value Value :=
  ⟨m.entries.map fun e => (e.1, .str e.2)⟩

/-- A kustomization is resolved to itself, with its flag and its merged values. -/
theorem resolve_eq_ok {t : Template} {ks : Kustomization} {s : Selection} {r : Resolved}
    (h : resolve t ks (some s) = .ok r) :
    r.template = t ∧ r.kustomization = ks ∧ r.enabled = ks.enabledUnder (some s) ∧
      r.targetNamespace = targetNamespace ks ∧
      r.values = (shown (merge (declarations t ks) s.values)).insertIfNew namespaceVariable
        (targetNamespace ks) := by
  obtain ⟨merged, hmerged, h⟩ := bind_eq_ok.mp h
  obtain ⟨_, -, hvalues⟩ := bind_eq_ok.mp hmerged
  cases hvalues
  cases h
  exact ⟨rfl, rfl, rfl, rfl, rfl⟩

/-- The names are checked before the tiers are merged. -/
theorem values_eq (t : Template) (ks : Kustomization) (cluster : OrderedMap Value String) :
    values t ks cluster = (do
      discard ((declarations t ks).mapM (·.1.asKey))
      return merge (declarations t ks) cluster) := by
  rw [← forIn_discard]
  rfl

/-- The tiers are merged if the names that a kustomization and its template declare can be keys. -/
theorem values_of_keyed {t : Template} {ks : Kustomization}
    (hversions : ∀ v ∈ t.versions, ∃ k, v.name.asKey = .ok k)
    (hnames : ∀ sub ∈ ks.substitutions, ∃ k, sub.name.asKey = .ok k)
    (cluster : OrderedMap Value String) :
    values t ks cluster = .ok (merge (declarations t ks) cluster) := by
  have hkeys : ∀ d ∈ declarations t ks, ∃ k, d.1.asKey = .ok k := by
    intro d hd
    rcases List.mem_append.mp hd with hd | hd
    · obtain ⟨v, hv, rfl⟩ := List.mem_map.mp hd
      exact hversions v hv
    · obtain ⟨sub, hsub, rfl⟩ := List.mem_map.mp hd
      exact hnames sub hsub
  obtain ⟨row, hrow⟩ := exists_mapM_eq_ok hkeys
  rw [values_eq]
  exact bind_eq_ok.mpr ⟨⟨⟩, discard_eq_ok.mpr ⟨row, hrow⟩, rfl⟩

/-- A kustomization is resolved if the names that it and its template declare can be keys. -/
theorem exists_resolve_of_keyed {t : Template} {ks : Kustomization} {s : Selection}
    (hversions : ∀ v ∈ t.versions, ∃ k, v.name.asKey = .ok k)
    (hnames : ∀ sub ∈ ks.substitutions, ∃ k, sub.name.asKey = .ok k) :
    ∃ r, resolve t ks (some s) = .ok r :=
  ⟨_, bind_eq_ok.mpr ⟨_, values_of_keyed hversions hnames s.values, rfl⟩⟩

/-- The kustomizations of one template, if it is selected. -/
def resolveTemplate (cluster : Cluster) (t : Template) : Except Error (List Resolved) :=
  match cluster.selection? (.str t.name) with
  | none => pure []
  | some s => t.kustomizations.mapM fun ks => resolve t ks (some s)

theorem resolveAll_eq (cluster : Cluster) (templates : List Template) :
    resolveAll cluster templates =
      (do return (← templates.mapM (resolveTemplate cluster)).flatten) := rfl

/-- What is resolved for each of the templates is resolved. -/
theorem exists_row (h : resolveAll cluster templates = .ok resolved) {t : Template}
    (ht : t ∈ templates) :
    ∃ row, resolveTemplate cluster t = .ok row ∧ ∀ r ∈ row, r ∈ resolved := by
  rw [resolveAll_eq] at h
  obtain ⟨rows, hrows, hflat⟩ := bind_eq_ok.mp h
  cases hflat
  obtain ⟨row, hrow, htrow⟩ := exists_of_mapM_eq_ok hrows ht
  exact ⟨row, htrow, fun r hr => List.mem_flatten.mpr ⟨row, hrow, hr⟩⟩

/-- The resolved kustomizations are those of the selected templates. -/
theorem mem_resolveAll (h : resolveAll cluster templates = .ok resolved) {r : Resolved} :
    r ∈ resolved ↔ ∃ t ks s, (t, ks) ∈ declared templates ∧
      cluster.selection? (.str t.name) = some s ∧ resolve t ks (some s) = .ok r := by
  constructor
  · intro hr
    rw [resolveAll_eq] at h
    obtain ⟨rows, hrows, hflat⟩ := bind_eq_ok.mp h
    cases hflat
    obtain ⟨row, hrow, hr⟩ := List.mem_flatten.mp hr
    obtain ⟨t, ht, htrow⟩ := (mem_iff_of_mapM_eq_ok hrows).mp hrow
    rw [resolveTemplate] at htrow
    rcases hsel : cluster.selection? (.str t.name) with _ | s
    · rw [hsel] at htrow
      cases htrow
      cases hr
    · rw [hsel] at htrow
      obtain ⟨ks, hks, hres⟩ := (mem_iff_of_mapM_eq_ok htrow).mp hr
      exact ⟨t, ks, s, mem_declared.mpr ⟨ht, hks⟩, hsel, hres⟩
  · rintro ⟨t, ks, s, hd, hsel, hres⟩
    obtain ⟨ht, hks⟩ := mem_declared.mp hd
    obtain ⟨row, htrow, hsub⟩ := exists_row h ht
    rw [resolveTemplate, hsel] at htrow
    exact hsub r ((mem_iff_of_mapM_eq_ok htrow).mpr ⟨ks, hks, hres⟩)

/-- Every kustomization of a selected template is resolved. -/
theorem exists_resolved (h : resolveAll cluster templates = .ok resolved) {t : Template}
    {ks : Kustomization} {s : Selection} (hd : (t, ks) ∈ declared templates)
    (hsel : cluster.selection? (.str t.name) = some s) :
    ∃ r ∈ resolved, resolve t ks (some s) = .ok r := by
  obtain ⟨ht, hks⟩ := mem_declared.mp hd
  obtain ⟨row, htrow, hsub⟩ := exists_row h ht
  rw [resolveTemplate, hsel] at htrow
  obtain ⟨r, hr, hres⟩ := exists_of_mapM_eq_ok htrow hks
  exact ⟨r, hsub r hr, hres⟩

/-- What is resolved carries the flag of its kustomization. -/
theorem enabled_of_mem (h : resolveAll cluster templates = .ok resolved) {r : Resolved}
    (hr : r ∈ resolved) :
    (r.template, r.kustomization) ∈ declared templates ∧
      r.enabled = flag cluster r.template r.kustomization := by
  obtain ⟨t, ks, s, hd, hsel, hres⟩ := (mem_resolveAll h).mp hr
  obtain ⟨rfl, rfl, hen, -, -⟩ := resolve_eq_ok hres
  exact ⟨hd, by rw [hen, flag, hsel]⟩

/-- A kustomization that is deployed is resolved. -/
theorem exists_resolved_of_enabled (h : resolveAll cluster templates = .ok resolved)
    {t : Template} {ks : Kustomization} (hd : (t, ks) ∈ declared templates)
    (hon : (flag cluster t ks).truthy = true) :
    ∃ r ∈ resolved, r.template = t ∧ r.kustomization = ks ∧ r.enabled = flag cluster t ks := by
  rcases hsel : cluster.selection? (.str t.name) with _ | s
  · rw [flag, hsel] at hon
    cases hon
  · obtain ⟨r, hr, hres⟩ := exists_resolved h hd hsel
    obtain ⟨ht, hks, hen, -, -⟩ := resolve_eq_ok hres
    exact ⟨r, hr, ht, hks, by rw [hen, flag, hsel]⟩

end Resolution

end FluxFleet
