import FluxFleet.Proofs.Resolution
import FluxFleet.Proofs.Value.Key

/-!
# The tiers of a resolved value

What is resolved for a name follows from three tiers, each read by itself: the value of the cluster
if the name is declared, the last default among the variables of the kustomization, and the last
default among the version entries of the template. The variable `namespace` has the target namespace
below all of them (`get?_values`).
-/

namespace FluxFleet

namespace Resolution

open OrderedMap (Steady)

/-- The last of the defaults that declarations have for a name. -/
def lastDefault (n : Value) (declared : List (Value × Option String)) : Option String :=
  ((declared.filter fun d => d.1 == n).filterMap (·.2)).getLast?

theorem lastDefault_append (n : Value) (lower upper : List (Value × Option String)) :
    lastDefault n (lower ++ upper) = (lastDefault n upper).or (lastDefault n lower) := by
  rw [lastDefault, List.filter_append, List.filterMap_append, List.getLast?_append]
  rfl

theorem lastDefault_singleton (n name : Value) (fallback : Option String) :
    lastDefault n [(name, fallback)] = if name == n then fallback else none := by
  rw [lastDefault, List.filter_cons]
  split
  · cases fallback <;> rfl
  · rfl

/-- There is no default of a name if no declaration of it has one. -/
theorem lastDefault_eq_none_iff {n : Value} {declared : List (Value × Option String)} :
    lastDefault n declared = none ↔ ∀ d ∈ declared, (d.1 == n) = true → d.2 = none := by
  rw [lastDefault, List.getLast?_eq_none_iff, List.filterMap_eq_nil_iff]
  simp only [List.mem_filter, and_imp]

/-- A default that no later one replaces is the last. -/
theorem lastDefault_of_later {n : Value} {before after : List (Value × Option String)}
    {text : String} (hn : (n == n) = true) (hlater : ∀ d ∈ after, (d.1 == n) = true → d.2 = none) :
    lastDefault n (before ++ (n, some text) :: after) = some text := by
  rw [List.append_cons, lastDefault_append, lastDefault_append, lastDefault_singleton, if_pos hn,
    lastDefault_eq_none_iff.mpr hlater]
  rfl

/-- The merged defaults hold the last default of each name. -/
theorem get?_defaults (n : Value) {declared : List (Value × Option String)} :
    (∀ d ∈ declared, Steady d.1) → (defaults declared).get? n = lastDefault n declared := by
  -- from the end, where the default that stands is set last
  induction declared using List.reverseRecOn with
  | nil =>
    intro _
    rfl
  | append_singleton declared d ih =>
    intro hsteady
    have hd := hsteady d (List.mem_append_right _ List.mem_cons_self)
    have ih := ih fun d' hd' => hsteady d' (List.mem_append_left _ hd')
    obtain ⟨name, fallback⟩ := d
    rw [lastDefault_append, lastDefault_singleton, ← ih, defaults, List.foldl_append, ← defaults]
    cases fallback with
    | none =>
      rw [ite_self, Option.none_or]
      rfl
    | some v =>
      refine (OrderedMap.get?_insert_of_steady _ hd n v).trans ?_
      split <;> rfl

theorem applyCluster_eq_override (cluster : OrderedMap Value String) (names : List Value)
    (m : OrderedMap Value String) :
    applyCluster cluster names m = OrderedMap.override cluster names m := by
  rw [applyCluster, OrderedMap.override]
  congr 1
  funext m name
  cases cluster.get? name <;> rfl

/-- The cluster's value of a declared name goes before its last default. -/
theorem get?_merge (n : Value) (cluster : OrderedMap Value String)
    {declared : List (Value × Option String)} (h : ∀ d ∈ declared, Steady d.1) :
    (merge declared cluster).get? n =
      if declared.any (·.1 == n) then (cluster.get? n).or (lastDefault n declared)
      else lastDefault n declared := by
  have hnames : ∀ k ∈ declared.map (·.1), Steady k := by
    intro k hk
    obtain ⟨d, hd, rfl⟩ := List.mem_map.mp hk
    exact h d hd
  rw [merge, applyCluster_eq_override, OrderedMap.get?_override _ _ hnames, get?_defaults n h,
    List.any_map]
  rfl

/-- The texts of values are found where the values are. -/
theorem get?_shown (n : Value) (m : OrderedMap Value String) :
    (shown m).get? n = (m.get? n).map .str := by
  obtain ⟨es⟩ := m
  simp only [shown, OrderedMap.get?]
  induction es with
  | nil => rfl
  | cons e es ih =>
    rw [List.map_cons, OrderedMap.find?, OrderedMap.find?, ih]
    split <;> rfl

/-- The names of a kustomization that is resolved can be keys. -/
theorem steady_of_values_eq_ok {t : Template} {ks : Kustomization}
    {cluster merged : OrderedMap Value String} (h : values t ks cluster = .ok merged) :
    ∀ d ∈ declarations t ks, Steady d.1 := by
  rw [values_eq] at h
  obtain ⟨_, hchecked, -⟩ := bind_eq_ok.mp h
  obtain ⟨keys, hkeys⟩ := discard_eq_ok.mp hchecked
  intro d hd
  obtain ⟨key, -, hkey⟩ := exists_of_mapM_eq_ok hkeys hd
  exact Value.steady_of_asKey hkey

/-! ## The tiers of a name -/

/-- The value that the cluster sets for a name, if the name is declared. -/
def clusterTier (t : Template) (ks : Kustomization) (cluster : OrderedMap Value String)
    (n : Value) : Option String :=
  if (declarations t ks).any (·.1 == n) then cluster.get? n else none

/-- The last default of a name among the variables of a kustomization. -/
def ownTier (ks : Kustomization) (n : Value) : Option String :=
  lastDefault n (ks.substitutions.map fun s => (s.name, s.fallback))

/-- The last default of a name among the version entries of a template. -/
def versionTier (t : Template) (n : Value) : Option String :=
  lastDefault n (t.versions.map fun v => (v.name, v.fallback))

/-- The target namespace, for the variable that holds it. -/
def namespaceTier (ks : Kustomization) (n : Value) : Option Value :=
  if namespaceVariable == n then some (targetNamespace ks) else none

/-- What is merged for a name is the first of its tiers that has a value. -/
theorem get?_merge_declarations {t : Template} {ks : Kustomization}
    (h : ∀ d ∈ declarations t ks, Steady d.1) (cluster : OrderedMap Value String) (n : Value) :
    (merge (declarations t ks) cluster).get? n =
      ((clusterTier t ks cluster n).or (ownTier ks n)).or (versionTier t n) := by
  have hdefaults : lastDefault n (declarations t ks) = (ownTier ks n).or (versionTier t n) :=
    lastDefault_append n _ _
  rw [get?_merge n _ h, clusterTier, hdefaults, Option.or_assoc]
  split
  · rfl
  · rw [Option.none_or]

/-- What is resolved for a name is its merged value, or else the target namespace. -/
theorem get?_values {t : Template} {ks : Kustomization} {s : Selection} {r : Resolved}
    (h : resolve t ks (some s) = .ok r) (n : Value) :
    r.values.get? n =
      ((((clusterTier t ks s.values n).or (ownTier ks n)).or (versionTier t n)).map .str).or
        (namespaceTier ks n) := by
  obtain ⟨merged, hmerged, -⟩ := bind_eq_ok.mp h
  have hsteady := steady_of_values_eq_ok hmerged
  obtain ⟨-, -, -, -, hvalues⟩ := resolve_eq_ok h
  have hnamespace : Steady namespaceVariable := Value.steady_of_key rfl
  rw [hvalues, OrderedMap.get?_insertIfNew _ hnamespace, get?_shown,
    get?_merge_declarations hsteady, namespaceTier]

end Resolution

end FluxFleet
