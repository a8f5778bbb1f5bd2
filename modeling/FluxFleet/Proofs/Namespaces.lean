import FluxFleet.Proofs.Ascending
import FluxFleet.Proofs.Precedence
import Mathlib.Data.List.Nodup

/-!
# Which namespaces are generated

A kustomization wants a namespace (`Resolved.Wants`) if it is enabled, creates the namespace of its
own, and this is none that exists in every cluster. The namespaces that are wanted are listed in
ascending order, each once, so the list depends only on which kustomizations there are (`mem_names`,
`names_congr`).

The manifests of a result are rendered from the same kustomizations. So a manifest of a
kustomization that creates its namespace goes to one that is generated or exists anyway, and no
namespace is generated without a manifest that goes to it (`Housed`, `namespaces_needed`).
-/

namespace FluxFleet

/-- The namespaces that exist in every cluster, and all others of the system. -/
def Namespaces.InEveryCluster (n : String) : Prop :=
  n = "default" ∨ n = "flux-system" ∨ "kube-".toList <+: n.toList

/-- A kustomization has a namespace of its own that is to be created. -/
def Kustomization.CreatesNamespace (ks : Kustomization) : Prop :=
  ∃ target, ks.target = some target ∧ target.create.truthy = true

/-- A kustomization wants the namespace that it goes to. -/
structure Resolved.Wants (r : Resolved) (n : String) : Prop where
  enabled : r.enabled.truthy = true
  creates : r.kustomization.CreatesNamespace
  target : r.targetNamespace = .str n
  own : ¬ Namespaces.InEveryCluster n

namespace Namespaces

variable {r : Resolved} {resolved resolved' : List Resolved} {names' row : List String} {n : String}

/-! ## One kustomization -/

theorem isSystemName_iff : isSystemName n = true ↔ InEveryCluster n := by
  rw [isSystemName, Bool.or_eq_true, List.contains_iff_mem, List.isPrefixOf_iff_prefix,
    InEveryCluster, systemNames]
  constructor
  · rintro (hn | hkube)
    · simp only [List.mem_cons, List.not_mem_nil, or_false] at hn
      -- all but two of the names start as those of the system do
      rcases hn with rfl | rfl | rfl | rfl | rfl
      · exact Or.inl rfl
      · exact Or.inr (Or.inl rfl)
      all_goals exact Or.inr (Or.inr (by decide))
    · exact Or.inr (Or.inr hkube)
  · rintro (rfl | rfl | hkube)
    · exact Or.inl (by decide)
    · exact Or.inl (by decide)
    · exact Or.inr hkube

theorem isWanted_iff :
    isWanted r = true ↔ r.enabled.truthy = true ∧ r.kustomization.CreatesNamespace := by
  rw [isWanted, Bool.and_eq_true, Kustomization.CreatesNamespace]
  rcases r.kustomization.target with _ | target <;> simp

/-- Only of texts it can be said whether they exist in every cluster. -/
theorem isSystem_eq_ok {v : Value} {b : Bool} (h : isSystem v = .ok b) :
    ∃ s, v = .str s ∧ b = isSystemName s := by
  cases v
  case str s =>
    cases h
    exact ⟨s, rfl, rfl⟩
  all_goals
    obtain ⟨key, hkey, h⟩ := bind_eq_ok.mp h
    rw [Value.asKey] at hkey
    split at hkey
    · cases hkey
    · cases hkey
      cases h

theorem wanted?_eq_ok {o : Option String} (h : wanted? r = .ok o) : o = some n ↔ r.Wants n := by
  rw [wanted?] at h
  by_cases hwanted : isWanted r = true
  · obtain ⟨henabled, hcreates⟩ := isWanted_iff.mp hwanted
    rw [if_pos hwanted] at h
    obtain ⟨b, hb, h⟩ := bind_eq_ok.mp h
    obtain ⟨s, hs, rfl⟩ := isSystem_eq_ok hb
    by_cases hsystem : isSystemName s = true
    · rw [if_pos hsystem] at h
      cases h
      refine ⟨nofun, fun hwants => absurd (isSystemName_iff.mp hsystem) ?_⟩
      obtain rfl := Value.str.inj (hs.symm.trans hwants.target)
      exact hwants.own
    · rw [if_neg hsystem, hs] at h
      cases h
      constructor
      · intro hn
        cases hn
        exact ⟨henabled, hcreates, hs, fun hin => hsystem (isSystemName_iff.mpr hin)⟩
      · intro hwants
        rw [Value.text_str, Value.str.inj (hs.symm.trans hwants.target)]
  · rw [if_neg hwanted] at h
    cases h
    exact ⟨nofun, fun hwants => absurd (isWanted_iff.mpr ⟨hwants.enabled, hwants.creates⟩) hwanted⟩

/-- A namespace that is to be created has been looked at. -/
theorem exists_target_of_wanted? {o : Option String} (h : wanted? r = .ok o)
    (henabled : r.enabled.truthy = true) (hcreates : r.kustomization.CreatesNamespace) :
    ∃ n, r.targetNamespace = .str n := by
  rw [wanted?, if_pos (isWanted_iff.mpr ⟨henabled, hcreates⟩)] at h
  obtain ⟨b, hb, -⟩ := bind_eq_ok.mp h
  exact (isSystem_eq_ok hb).imp fun _ => And.left

theorem exists_wanted? (h : ∃ s, r.targetNamespace = .str s) : ∃ o, wanted? r = .ok o := by
  obtain ⟨s, hs⟩ := h
  rw [wanted?, hs]
  split
  · have hsystem : isSystem (.str s) = .ok (isSystemName s) := rfl
    rw [hsystem]
    cases isSystemName s
    · exact ⟨_, rfl⟩
    · exact ⟨_, rfl⟩
  · exact ⟨_, rfl⟩

/-! ## The list of names -/

theorem nodup_eraseDups (names : List String) : names.eraseDups.Nodup := by
  match names with
  | [] => exact List.nodup_nil
  | name :: names =>
    rw [List.eraseDups_cons, List.nodup_cons]
    refine ⟨?_, nodup_eraseDups (names.filter fun n => !n == name)⟩
    rw [List.mem_eraseDups, List.mem_filter]
    simp
termination_by names.length
decreasing_by exact Nat.lt_succ_of_le (List.length_filter_le _ _)

theorem mem_sortedNames {names : List String} : n ∈ sortedNames names ↔ n ∈ names := by
  rw [sortedNames, List.mem_mergeSort, List.mem_eraseDups]

theorem ascending_sortedNames (names : List String) :
    (sortedNames names).Pairwise fun a b => Text.precedes a b = true := by
  have hnodup : (names.eraseDups.map id).Nodup := by
    rw [List.map_id]
    exact nodup_eraseDups names
  have hsorted := pairwise_mergeSort_precedes id hnodup
  rw [List.map_id] at hsorted
  exact hsorted

/-- The sorted names depend on which names there are only. -/
theorem sortedNames_congr {names names' : List String} (h : ∀ n, n ∈ names ↔ n ∈ names') :
    sortedNames names = sortedNames names' := by
  refine List.Perm.eq_of_pairwise
    (fun a b _ _ hab hba => Text.inOrder_antisymm (Text.inOrder_of_precedes hab)
      (Text.inOrder_of_precedes hba))
    (ascending_sortedNames names) (ascending_sortedNames names') ?_
  have hdups : names.eraseDups.Perm names'.eraseDups :=
    (List.perm_ext_iff_of_nodup (nodup_eraseDups names) (nodup_eraseDups names')).mpr fun n => by
      rw [List.mem_eraseDups, List.mem_eraseDups, h]
  exact (List.mergeSort_perm _ _).trans (hdups.trans (List.mergeSort_perm _ _).symm)

theorem names_eq_ok (h : names resolved = .ok row) :
    ∃ wanted, resolved.mapM wanted? = .ok wanted ∧ row = sortedNames (wanted.filterMap id) := by
  obtain ⟨wanted, hwanted, h⟩ := bind_eq_ok.mp h
  cases h
  exact ⟨wanted, hwanted, rfl⟩

theorem exists_names (h : ∀ r ∈ resolved, ∃ s, r.targetNamespace = .str s) :
    ∃ row, names resolved = .ok row := by
  obtain ⟨wanted, hwanted⟩ := exists_mapM_eq_ok fun r hr => exists_wanted? (h r hr)
  exact ⟨_, by rw [names, hwanted]; rfl⟩

theorem mem_filterMap_wanted {wanted : List (Option String)}
    (h : resolved.mapM wanted? = .ok wanted) :
    n ∈ wanted.filterMap id ↔ ∃ r ∈ resolved, r.Wants n := by
  rw [List.mem_filterMap]
  constructor
  · rintro ⟨o, ho, hn⟩
    obtain ⟨r, hr, hwanted⟩ := (mem_iff_of_mapM_eq_ok h).mp ho
    exact ⟨r, hr, (wanted?_eq_ok hwanted).mp hn⟩
  · rintro ⟨r, hr, hwants⟩
    obtain ⟨o, ho, hwanted⟩ := exists_of_mapM_eq_ok h hr
    exact ⟨o, ho, (wanted?_eq_ok hwanted).mpr hwants⟩

/-- The names are those that some kustomization wants. -/
theorem mem_names (h : names resolved = .ok row) : n ∈ row ↔ ∃ r ∈ resolved, r.Wants n := by
  obtain ⟨wanted, hwanted, rfl⟩ := names_eq_ok h
  rw [mem_sortedNames, mem_filterMap_wanted hwanted]

theorem ascending_names (h : names resolved = .ok row) :
    row.Pairwise fun a b => List.Lex (· < ·) (Text.codePoints a) (Text.codePoints b) := by
  obtain ⟨wanted, -, rfl⟩ := names_eq_ok h
  exact (ascending_sortedNames _).imp Text.precedes_iff.mp

/-- The same kustomizations, in whatever order and however often, have the same namespaces. -/
theorem names_congr (hsame : ∀ r, r ∈ resolved' ↔ r ∈ resolved) (h : names resolved = .ok row) :
    names resolved' = .ok row := by
  obtain ⟨wanted, hwanted, rfl⟩ := names_eq_ok h
  obtain ⟨wanted', hwanted'⟩ := exists_mapM_eq_ok fun r (hr : r ∈ resolved') =>
    (exists_of_mapM_eq_ok hwanted ((hsame r).mp hr)).imp fun _ ho => ho.2
  have hmembers : ∀ n, n ∈ wanted'.filterMap id ↔ n ∈ wanted.filterMap id := by
    intro n
    simp only [mem_filterMap_wanted hwanted', mem_filterMap_wanted hwanted, hsame]
  rw [names, hwanted', ← sortedNames_congr hmembers]
  rfl

end Namespaces

/-! ## What is built -/

namespace Generator

open Namespaces (InEveryCluster)

variable {η π τ : Type} {cluster : Cluster} {s : Settings} {options : Options}
variable {resolved : List Resolved} {gen : Generation}

/-- The manifests of a result, which are rendered from `resolved`, and its namespaces fit. -/
structure Housed (s : Settings) (options : Options) (resolved : List Resolved) (gen : Generation) :
    Prop where
  rendered : ∀ m, m ∈ gen.manifests ↔
    ∃ r ∈ resolved, render s options.includePreserved r = .ok (some m)
  listed : ∃ row, Namespaces.names resolved = .ok row ∧
    gen.namespaces = row.map fun n => { name := .str n }
  /-- where a namespace is to be created, there is one to go to -/
  created : ∀ r ∈ resolved, ∀ m, render s options.includePreserved r = .ok (some m) →
    m.preserved = false → r.kustomization.CreatesNamespace →
      ∃ n, m.manifest.targetNamespace = .str n ∧
        (InEveryCluster n ∨ { name := .str n } ∈ gen.namespaces)
  /-- no namespace is there for nothing -/
  needed : ∀ ns ∈ gen.namespaces, ∃ m ∈ gen.manifests, m.preserved = false ∧
    m.manifest.targetNamespace = ns.name

theorem housed_of_build (h : build cluster s options resolved = .ok gen) :
    Housed s options resolved gen := by
  obtain ⟨_, _, _, row, -, -, -, hrow, hgen⟩ := build_eq_ok h
  have hnamespaces : gen.namespaces = row.map fun n => { name := .str n } := by rw [hgen]
  refine ⟨fun m => mem_manifests h, ⟨row, hrow, hnamespaces⟩, ?_, ?_⟩
  · intro r hr m hrender hpreserved hcreates
    obtain ⟨-, -, hflag, kept, hmanifest⟩ := render_eq_some hrender
    have henabled : r.enabled.truthy = true := by
      rw [hpreserved] at hflag
      exact (Bool.not_eq_false' _).mp hflag.symm
    obtain ⟨wanted, hwanted, -⟩ := Namespaces.names_eq_ok hrow
    obtain ⟨o, -, ho⟩ := exists_of_mapM_eq_ok hwanted hr
    obtain ⟨n, hn⟩ := Namespaces.exists_target_of_wanted? ho henabled hcreates
    refine ⟨n, (Manifest.settings_of_ofResolved hmanifest).1.trans hn, ?_⟩
    by_cases hsystem : InEveryCluster n
    · exact Or.inl hsystem
    · refine Or.inr ?_
      rw [hnamespaces]
      exact List.mem_map.mpr
        ⟨n, (Namespaces.mem_names hrow).mpr ⟨r, hr, henabled, hcreates, hn, hsystem⟩, rfl⟩
  · intro ns hns
    rw [hnamespaces] at hns
    obtain ⟨n, hn, rfl⟩ := List.mem_map.mp hns
    obtain ⟨r, hr, hwants⟩ := (Namespaces.mem_names hrow).mp hn
    obtain ⟨m, hm, hrender⟩ := exists_manifest h hr hwants.enabled
    obtain ⟨-, -, hflag, kept, hmanifest⟩ := render_eq_some hrender
    refine ⟨m, hm, by rw [hflag, hwants.enabled]; rfl, ?_⟩
    exact (Manifest.settings_of_ofResolved hmanifest).1.trans hwants.target

/-- **Namespaces.** The namespaces of kustomizations that go to named ones ascend by code point, are
those that some kustomization wants, and depend only on which kustomizations there are. In what is
built from any kustomizations, so in every run with whatever hooks, manifests and namespaces fit. -/
theorem namespaces_needed :
    (∀ resolved : List Resolved, (∀ r ∈ resolved, ∃ s, r.targetNamespace = .str s) →
      ∃ row, Namespaces.names resolved = .ok row ∧
        row.Pairwise (fun a b => List.Lex (· < ·) (Text.codePoints a) (Text.codePoints b)) ∧
        (∀ n, n ∈ row ↔ ∃ r ∈ resolved, r.Wants n) ∧
        ∀ resolved', (∀ r, r ∈ resolved' ↔ r ∈ resolved) → Namespaces.names resolved' = .ok row) ∧
    (∀ (cluster : Cluster) (s : Settings) (options : Options) (resolved : List Resolved)
        (gen : Generation),
      build cluster s options resolved = .ok gen → Housed s options resolved gen) ∧
    ∀ (plugins : Plugins η π τ) (registry : Registry η π) (d : GeneratorDefaults)
        (cluster : Cluster) (templates : List Template) (options : Options) (gen : Generation),
      (generate plugins registry d cluster templates options).2 = .ok gen →
        ∃ left built, Stages plugins registry d cluster templates options left built gen ∧
          Housed (Settings.ofCluster cluster d) options left.kustomizations built := by
  refine ⟨fun resolved h => ?_, fun _ _ _ _ _ => housed_of_build, ?_⟩
  · obtain ⟨row, hrow⟩ := Namespaces.exists_names h
    exact ⟨row, hrow, Namespaces.ascending_names hrow, fun n => Namespaces.mem_names hrow,
      fun resolved' hsame => Namespaces.names_congr hsame hrow⟩
  · intro plugins registry d cluster templates options gen h
    obtain ⟨left, built, hstages⟩ := exists_stages h
    exact ⟨left, built, hstages, housed_of_build hstages.build⟩

/-- A kustomization that goes to a namespace and may create it. -/
def housing (name ns : String) (create enabled : Bool) : Kustomization :=
  { Kustomization.bare name [] with
    target := some { name := .str ns, create := .bool create }, enabled := .bool enabled }

/-- A town in which two share a namespace, and one each goes to a namespace of the system, is
switched off, goes to a namespace of others, or has a namespace for itself. -/
def town : Template :=
  { name := "town"
    kustomizations := [housing "shop" "market" true true, housing "storage" "market" true true,
      housing "station" "kube-rail" true true, housing "ruin" "hill" true false,
      housing "guest" "inn" false true, housing "bank" "gold" true true]
    versions := [] }

/-- A cluster that selects the town. -/
def county : Cluster := { name := "county", selections := [{ name := "town" }] }

/-- The kustomizations of the town as they are resolved for it. -/
def residents : List Resolved :=
  town.kustomizations.map fun ks =>
    { template := town, kustomization := ks, targetNamespace := Resolution.targetNamespace ks,
      enabled := ks.enabled }

/-- The town gets the namespaces of the bank and of the market, however its kustomizations are
listed, and what is built of it fits, in a run too. -/
theorem namespaces_needed_by_town :
    Namespaces.names (residents ++ residents.reverse) = .ok ["gold", "market"] ∧
    (∃ gen, build county (Settings.ofCluster county {}) {} residents = .ok gen ∧
      gen.namespaces = [{ name := "gold" }, { name := "market" }] ∧
      Housed (Settings.ofCluster county {}) {} residents gen) ∧
    ∃ gen, (generate constantly vaults {} county [town] {}).2 = .ok gen ∧
      ∃ left built, Stages constantly vaults {} county [town] {} left built gen ∧
        Housed (Settings.ofCluster county {}) {} left.kustomizations built := by
  obtain ⟨hlist, hbuilt, hruns⟩ := @namespaces_needed Empty Value Empty
  have hsorted : Namespaces.sortedNames ["market", "market", "gold"] = ["gold", "market"] := by
    rw [Namespaces.sortedNames_congr (show ∀ n, n ∈ ["market", "market", "gold"] ↔
      n ∈ ["gold", "market"] by simp [or_comm])]
    exact List.mergeSort_of_pairwise (by decide)
  have hnames : Namespaces.names residents = .ok ["gold", "market"] := by
    rw [← hsorted]
    rfl
  refine ⟨?_, ?_, ?_⟩
  · obtain ⟨row, hrow, -, -, hsame⟩ := hlist residents
      (by simp [residents, town, housing, Resolution.targetNamespace])
    obtain rfl := Except.ok.inj (hnames.symm.trans hrow)
    exact hsame _ fun r => by rw [List.mem_append, List.mem_reverse, or_self]
  · have hbuild : ∃ gen, build county (Settings.ofCluster county {}) {} residents = .ok gen :=
      ⟨_, rfl⟩
    obtain ⟨gen, hbuild⟩ := hbuild
    have hhoused := hbuilt _ _ _ _ _ hbuild
    obtain ⟨row, hrow, hnamespaces⟩ := hhoused.listed
    obtain rfl := Except.ok.inj (hnames.symm.trans hrow)
    exact ⟨gen, hbuild, hnamespaces, hhoused⟩
  · have hrun : ∃ gen, (generate constantly vaults {} county [town] {}).2 = .ok gen := ⟨_, rfl⟩
    exact hrun.imp fun gen hgen => ⟨hgen, hruns _ _ _ _ _ _ _ hgen⟩

end Generator

end FluxFleet
