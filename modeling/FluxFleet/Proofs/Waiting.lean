import FluxFleet.Proofs.Deployment
import FluxFleet.Proofs.Emission

/-!
# What preserved manifests wait for

A preserved manifest requires all that its kustomization refers to. The check of enablement looks at
enabled kustomizations only, so a requirement may lead to a kustomization that gets no manifest: one
whose template is not selected, or one that is disabled and keeps no resources. Every other
kustomization is present (`exists_manifest_iff`), so a requirement is missing only if it leads to
one of these (`preserved_requires_present`). Then the preserved manifest waits in vain
(`preserved_waits_in_vain`).
-/

namespace FluxFleet

namespace Generator

open FluxFleet.Graph (declared identities)

variable {η π τ : Type} {plugins : Plugins η π τ} {d : GeneratorDefaults}
variable {cluster : Cluster} {templates : List Template} {options : Options}
variable {s : Settings} {resolved : List Resolved} {gen : Generation}

/-- A kustomization gets a manifest, deployed or preserved: its template is selected, and it is
enabled or keeps resources. -/
def Present (cluster : Cluster) (t : Template) (ks : Kustomization) : Prop :=
  ∃ selection, cluster.selection? (.str t.name) = some selection ∧
    ((ks.enabledUnder (some selection)).truthy = true ∨ ks.keptUnder (some selection) ≠ [])

/-- If preserved manifests are asked for, those of a result are the manifests of the kustomizations
that are present. -/
theorem exists_manifest_iff (hids : (identities templates).Nodup)
    (hresolved : Resolution.resolveAll cluster templates = .ok resolved)
    (hbuild : build cluster s options resolved = .ok gen)
    (hincluded : options.includePreserved = true)
    {t : Template} {ks : Kustomization} (hd : (t, ks) ∈ declared templates) :
    (∃ m ∈ gen.manifests, m.manifest.name = ks.identity t.name) ↔ Present cluster t ks := by
  constructor
  · rintro ⟨m, hm, hname⟩
    obtain ⟨r, hr, hrender⟩ := (mem_manifests hbuild).mp hm
    obtain ⟨t', ks', selection, hd', hsel, hres⟩ := (Resolution.mem_resolveAll hresolved).mp hr
    have hkept := kept_of_mem hresolved hr
    obtain ⟨rfl, rfl, henabled, -, -⟩ := Resolution.resolve_eq_ok hres
    -- the manifest is that of the kustomization, since no other one has its identity
    obtain ⟨rfl, rfl⟩ := Enablement.eq_of_identity_eq hids hd hd'
      (hname.symm.trans (name_of_render hrender))
    rw [hsel] at hkept
    refine ⟨selection, hsel, ?_⟩
    rw [← henabled, ← hkept]
    rcases render_eq_ok hrender with ⟨hon, -⟩ | ⟨-, -, kinds, -, hkinds, hne, -⟩ | ⟨-, -, hnone⟩
    · exact Or.inl hon
    · rw [Preservation.kept_of_kinds hkinds]
      exact Or.inr hne
    · cases hnone
  · rintro ⟨selection, hsel, hpresent⟩
    obtain ⟨r, hr, hres⟩ := Resolution.exists_resolved hresolved hd hsel
    have hkept := kept_of_mem hresolved hr
    obtain ⟨rfl, rfl, henabled, -, -⟩ := Resolution.resolve_eq_ok hres
    rw [hsel] at hkept
    rw [← henabled, ← hkept] at hpresent
    obtain ⟨row, _, _, _, hrow, -⟩ := build_eq_ok hbuild
    obtain ⟨o, -, hrender⟩ := exists_of_mapM_eq_ok hrow hr
    have hsome : ∃ m, o = some m := by
      rcases render_eq_ok hrender with
        ⟨-, _, -, ho⟩ | ⟨-, -, _, _, -, -, -, ho⟩ | ⟨hoff, hnothing, -⟩
      · exact ⟨_, ho⟩
      · exact ⟨_, ho⟩
      · -- a kustomization that is dropped is disabled and keeps nothing
        rw [hincluded] at hnothing
        rcases hpresent with hon | hne
        · rw [hoff] at hon
          cases hon
        · rcases hnothing with h | hkinds
          · cases h
          · exact absurd (Preservation.kept_of_kinds hkinds) hne
    obtain ⟨m, rfl⟩ := hsome
    exact ⟨m, (mem_manifests hbuild).mpr ⟨r, hr, hrender⟩, name_of_render hrender⟩

theorem included_of_preserved (hbuild : build cluster s options resolved = .ok gen)
    {m : Generated} (hm : m ∈ gen.manifests) (hpreserved : m.preserved = true) :
    options.includePreserved = true := by
  obtain ⟨r, -, hrender⟩ := (mem_manifests hbuild).mp hm
  rcases render_eq_ok hrender with ⟨-, _, -, ho⟩ | ⟨-, hincluded, -⟩ | ⟨-, -, ho⟩
  · cases ho
    cases hpreserved
  · exact hincluded
  · cases ho

/-- **Requirements of preserved manifests.** After the checks, a requirement of a preserved manifest
without a namespace leads to another kustomization of the templates, and there is a manifest of that
name exactly if this kustomization is present. -/
theorem preserved_requires_present (hids : (identities templates).Nodup)
    (hchecked : options.skipValidation = false)
    (h : (generate plugins .new d cluster templates options).2 = .ok gen) {m : Generated}
    (hm : m ∈ gen.manifests) (hpreserved : m.preserved = true) {q : Requirement}
    (hq : q ∈ m.manifest.dependsOn) (hns : q.ns = .null) :
    ∃ t ks, (t, ks) ∈ declared templates ∧ q.name = .str (ks.identity t.name) ∧
      ks.identity t.name ≠ m.manifest.name ∧
      ((∃ m' ∈ gen.manifests, q.Names m'.manifest) ↔ Present cluster t ks) := by
  obtain ⟨hvalid, resolved, hresolved, hbuild⟩ := generate_new_eq_ok h
  obtain ⟨⟨order, horder⟩, -⟩ := validate_eq_ok (hvalid hchecked)
  obtain ⟨hproblems, -⟩ := Graph.of_validate_eq_ok horder
  obtain ⟨id, hrefers, hid⟩ := refers_of_mem_manifests hresolved hbuild hm hq hns
  -- the graph knows what is referred to
  obtain ⟨hedge, hne⟩ := Graph.edge_of_refers hproblems hrefers
  obtain ⟨⟨t, ks⟩, hd, rfl⟩ := List.mem_map.mp (Graph.mem_keys_build.mp hedge.target)
  refine ⟨t, ks, hd, hid, hne, ?_⟩
  rw [← exists_manifest_iff hids hresolved hbuild (included_of_preserved hbuild hm hpreserved) hd]
  refine exists_congr fun m' => and_congr_right fun _ => ?_
  rw [Requirement.Names, hid, Value.str.injEq]
  exact ⟨fun hnames => hnames.2.symm, fun hname => ⟨hns, hname.symm⟩⟩

/-! ## A shop that is shut -/

/-- A shop that is shut; `mode` says what is kept of its database. -/
def shut (mode : PreservationMode) : Template :=
  { name := "shop"
    kustomizations := [{ Kustomization.bare "web" [.written "db"] with enabled := .bool false },
      { Kustomization.bare "db" [] with enabled := .bool false, preservation := some { mode } }]
    versions := [] }

/-- If resources of the database are kept, the requirement of the web leads to its manifest. -/
theorem web_waits_for_db :
    ∃ gen, (generate noPlugins .new {} market [shut .stateful] { includePreserved := true }).2 =
        .ok gen ∧ ∃ m ∈ gen.manifests, m.preserved = true ∧
      ∃ q ∈ m.manifest.dependsOn, q.ns = .null ∧ ∃ m' ∈ gen.manifests, q.Names m'.manifest := by
  refine ⟨_, rfl, _, List.mem_cons_self, rfl, _, List.mem_cons_self, rfl, ?_⟩
  obtain ⟨t, ks, hd, hname, hne, hiff⟩ := @preserved_requires_present _ _ _ noPlugins {} market
    [shut .stateful] { includePreserved := true } _ (by decide) rfl rfl
    _ List.mem_cons_self rfl _ List.mem_cons_self rfl
  refine hiff.mpr ?_
  rcases List.mem_pair.mp hd with hweb | hdb
  · cases hweb
    exact absurd rfl hne
  · cases hdb
    exact ⟨_, rfl, Or.inr (List.cons_ne_nil _ _)⟩

/-- **Waiting in vain.** If nothing of the database is kept, the web is preserved all the same, and
requires a manifest that the result does not have. -/
theorem preserved_waits_in_vain :
    (identities [shut .none]).Nodup ∧ Enablement.BooleanFlags market [shut .none] ∧
    ∃ gen, (generate noPlugins .new {} market [shut .none] { includePreserved := true }).2 =
        .ok gen ∧ ∃ m ∈ gen.manifests, m.preserved = true ∧
      ∃ q ∈ m.manifest.dependsOn, q.ns = .null ∧ ∀ m' ∈ gen.manifests, ¬ q.Names m'.manifest := by
  refine ⟨by decide, ⟨?_, ?_⟩, _, rfl, _, List.mem_cons_self, rfl, _, List.mem_cons_self, rfl, ?_⟩
  · simp [shut, Kustomization.bare]
  · simp [market, OrderedMap.empty]
  · intro m' hm' hnames
    rw [List.mem_singleton.mp hm'] at hnames
    cases hnames.2

end Generator

end FluxFleet
