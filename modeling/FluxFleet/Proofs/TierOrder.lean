import FluxFleet.Proofs.Deployment
import FluxFleet.Proofs.Groups

/-!
# The order of merged values

The values of a kustomization are written tier by tier into one map. So a name stands where it was
written first, while its value is the one that was written last: the names come in the order in
which they appear first among the version entries with a default, the variables with a default, and
the declared names that the cluster sets (`keys_merge`). The cluster is asked for declared names
only (`merge_congr`).
-/

namespace FluxFleet

namespace Resolution

open OrderedMap (Steady)

variable {declared : List (Value × Option String)} {row : List Value}

/-- A key that is set goes behind those that were set before it, unless it is one of them. -/
theorem keys_insert {ν : Type} {m : OrderedMap Value ν} (h : m.keys = firstAppearances row)
    (k : Value) (v : ν) : (m.insert k v).keys = firstAppearances (row ++ [k]) := by
  rw [firstAppearances_snoc, ← h, ← OrderedMap.contains_eq_any]
  cases hk : m.contains k with
  | true => exact OrderedMap.keys_insert_of_contains m v hk
  | false => exact OrderedMap.keys_insert_of_not_contains m v hk

/-- The names of the defaults are those of the declarations with one. -/
theorem keys_defaults (declared : List (Value × Option String)) :
    (defaults declared).keys = firstAppearances ((declared.filter (·.2.isSome)).map (·.1)) := by
  -- from the end, where the last declaration is written
  induction declared using List.reverseRecOn with
  | nil => rfl
  | append_singleton declared d ih =>
    obtain ⟨name, fallback⟩ := d
    rw [defaults, List.foldl_append, ← defaults, List.filter_append, List.map_append]
    cases fallback with
    | none =>
      refine ih.trans ?_
      exact congrArg firstAppearances (List.append_nil _).symm
    | some v => exact keys_insert ih name v

/-- The names that the cluster sets come behind those that are there. -/
theorem keys_applyCluster (cluster : OrderedMap Value String) (names : List Value) :
    ∀ {m : OrderedMap Value String} {row : List Value}, m.keys = firstAppearances row →
      (applyCluster cluster names m).keys =
        firstAppearances (row ++ names.filter cluster.contains) := by
  induction names with
  | nil =>
    intro m row h
    rw [List.filter_nil, List.append_nil]
    exact h
  | cons name names ih =>
    intro m row h
    rw [applyCluster, List.foldl_cons, ← applyCluster, List.filter_cons, OrderedMap.contains]
    cases cluster.get? name with
    | none => exact ih h
    | some v =>
      refine (ih (keys_insert h name v)).trans ?_
      rw [List.append_assoc]
      rfl

theorem keys_merge (declared : List (Value × Option String)) (cluster : OrderedMap Value String) :
    (merge declared cluster).keys = firstAppearances
      ((declared.filter (·.2.isSome)).map (·.1) ++
        (declared.map (·.1)).filter cluster.contains) :=
  keys_applyCluster cluster _ (keys_defaults declared)

/-- The cluster is asked for the declared names only. -/
theorem merge_congr {cluster cluster' : OrderedMap Value String}
    (h : ∀ d ∈ declared, cluster.get? d.1 = cluster'.get? d.1) :
    merge declared cluster = merge declared cluster' := by
  rw [merge, merge, applyCluster, applyCluster]
  refine List.foldl_ext _ _ _ fun m name hname => ?_
  obtain ⟨d, hd, rfl⟩ := List.mem_map.mp hname
  rw [h d hd]

variable {t : Template} {ks : Kustomization} {cluster cluster' : OrderedMap Value String}

/-- The names that a kustomization and its template declare, version entries first. -/
def declaredNames (t : Template) (ks : Kustomization) : List Value :=
  t.versions.map (·.name) ++ ks.substitutions.map (·.name)

/-- Those of them that are declared with a default. -/
def defaultedNames (t : Template) (ks : Kustomization) : List Value :=
  (t.versions.filter (·.fallback.isSome)).map (·.name) ++
    (ks.substitutions.filter (·.fallback.isSome)).map (·.name)

theorem map_declarations (t : Template) (ks : Kustomization) :
    (declarations t ks).map (·.1) = declaredNames t ks := by
  rw [declarations, List.map_append, List.map_map, List.map_map]
  rfl

theorem map_filter_declarations (t : Template) (ks : Kustomization) :
    ((declarations t ks).filter (·.2.isSome)).map (·.1) = defaultedNames t ks := by
  rw [declarations, List.filter_append, List.map_append, List.filter_map, List.filter_map,
    List.map_map, List.map_map]
  rfl

/-- Values of a cluster that agree on the declared names are merged to the same. -/
theorem values_congr (h : ∀ n ∈ declaredNames t ks, cluster.get? n = cluster'.get? n) :
    values t ks cluster = values t ks cluster' := by
  rw [values_eq, values_eq, merge_congr fun d hd => h d.1 ?_]
  rw [← map_declarations]
  exact List.mem_map_of_mem hd

/-- **The merged values of a kustomization.** If names can be keys, as texts can, the tiers are
merged. The names come in the order of first appearance in the row of the version entries with a
default, the variables with a default, and the declared names that the cluster sets. The value of a
declared name is the one of the cluster, or else the last default among the variables, or else the
last one among the version entries. What the cluster sets for other names does not count. -/
theorem values_in_order (t : Template) (ks : Kustomization) (cluster : OrderedMap Value String)
    (hversions : ∀ v ∈ t.versions, ∃ k, v.name.asKey = .ok k)
    (hnames : ∀ sub ∈ ks.substitutions, ∃ k, sub.name.asKey = .ok k) :
    ∃ merged, values t ks cluster = .ok merged ∧
      merged.keys = firstAppearances
        (defaultedNames t ks ++ (declaredNames t ks).filter cluster.contains) ∧
      (∀ n, merged.get? n =
        ((clusterTier t ks cluster n).or (ownTier ks n)).or (versionTier t n)) ∧
      ∀ cluster' : OrderedMap Value String,
        (∀ n ∈ declaredNames t ks, cluster'.get? n = cluster.get? n) →
          values t ks cluster' = .ok merged := by
  have hmerged := values_of_keyed hversions hnames cluster
  refine ⟨_, hmerged, ?_, ?_, fun cluster' h => ?_⟩
  · rw [keys_merge, map_declarations, map_filter_declarations]
  · exact get?_merge_declarations (steady_of_values_eq_ok hmerged) cluster
  · rw [values_congr h, hmerged]

/-! ## A service with repeated names -/

/-- A template whose version `tag` is declared twice, and first of all. -/
def harbour : Template :=
  { name := "harbour"
    kustomizations := []
    versions := [⟨"tag", some "1", .null, .null, .null, .image ⟨"web", .null⟩⟩,
      ⟨"zone", none, .null, .null, .null, .image ⟨"web", .null⟩⟩,
      ⟨"tag", some "2", .null, .null, .null, .image ⟨"web", .null⟩⟩] }

/-- A kustomization that declares `port` twice, and `tag` and `zone` again. -/
def pier : Kustomization :=
  { Kustomization.bare "pier" [] with
    substitutions := [⟨"port", some "80", .generic .null .null⟩,
      ⟨"zone", none, .generic .null .null⟩, ⟨"depth", none, .generic .null .null⟩,
      ⟨"tag", some "3", .generic .null .null⟩, ⟨"port", some "81", .generic .null .null⟩] }

/-- Values for two declared names and for one that nothing declares. -/
def tide : OrderedMap Value String := ⟨[("other", "high"), ("tag", "4"), ("zone", "north")]⟩

theorem values_of_pier :
    ∃ merged, values harbour pier tide = .ok merged ∧
      (∃ row, merged.keys = firstAppearances row ∧
        row = ["tag", "tag", "port", "tag", "port", "tag", "zone", "tag", "zone", "tag"] ∧
        firstAppearances row = ["tag", "port", "zone"]) ∧
      ["tag", "port", "zone", "depth", "other"].map (fun n => merged.get? (.str n)) =
        [some "4", some "81", some "north", none, none] ∧
      values harbour pier ⟨[("zone", "north"), ("tag", "4")]⟩ = .ok merged := by
  have hversions : ∀ v ∈ harbour.versions, v.name.IsText := by decide
  have hnames : ∀ sub ∈ pier.substitutions, sub.name.IsText := by decide
  obtain ⟨merged, hmerged, hkeys, hget, hcongr⟩ := values_in_order harbour pier tide
    (fun v hv => (hversions v hv).exists_asKey) fun sub hsub => (hnames sub hsub).exists_asKey
  refine ⟨merged, hmerged, ⟨_, hkeys, rfl, rfl⟩, ?_, hcongr _ (by decide)⟩
  simp only [hget]
  rfl

end Resolution

end FluxFleet
