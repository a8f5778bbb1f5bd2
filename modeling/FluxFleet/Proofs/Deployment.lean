import FluxFleet.Proofs.Generation

/-!
# The deployed manifests and what they wait for

The manifests of a run that are not preserved are deployed. What is said here of them comes from
three places: the graph has an edge for every reference (`edge_of_refers`), the check of enablement
lets no reference of an enabled kustomization lead to a disabled one (`enabled_of_refers`), and a
manifest requires, without a namespace, just what its kustomization refers to
(`refers_of_requirement`). So deployed manifests are closed under references, and no cycle of
requirements stands among them (`deployed_closed`).

A resource outside the templates is never looked up. It may be given by the name and the namespace
of a deployed manifest, and then a cycle can run through it (`external_reference_closes_cycle`).
-/

namespace FluxFleet

/-- The manifests that stand for enabled kustomizations. -/
def Generation.deployed (g : Generation) : List Generated := g.manifests.filter (!·.preserved)

/-- The requirement gives the name of a manifest, and no namespace. -/
def Requirement.Names (r : Requirement) (m : Manifest) : Prop :=
  r.ns = .null ∧ r.name = .str m.name

/-- The requirement is met by a manifest: an absent namespace is that of all manifests. -/
def Requirement.MetBy (r : Requirement) (m : Manifest) : Prop :=
  (r.ns = .null ∨ r.ns = m.systemNamespace) ∧ r.name = .str m.name

/-- A deployed manifest `a` waits for a deployed manifest `b`, by a requirement that leads there. -/
def Generation.Waits (g : Generation) (leads : Requirement → Manifest → Prop) (a b : String) :
    Prop :=
  ∃ m ∈ g.deployed, ∃ m' ∈ g.deployed, m.manifest.name = a ∧ m'.manifest.name = b ∧
    ∃ r ∈ m.manifest.dependsOn, leads r m'.manifest

/-! ## Templates that are read from a document -/

/-- A template that is read from a document has the kustomizations that are read there, no two of
them with one name, and the name of the document. -/
theorem Template.ofDocument_eq_ok {doc : Value} {t : Template} (h : ofDocument doc = .ok t) :
    ∃ docs, List.mapM Kustomization.ofDocument docs = .ok t.kustomizations ∧
      firstDuplicate? [] (t.kustomizations.map (·.name)) = .ok none ∧
      resourceName "Template" doc = .ok t.name := by
  obtain ⟨_, -, h⟩ := bind_eq_ok.mp h
  obtain ⟨name, hname, h⟩ := bind_eq_ok.mp h
  iterate 2 obtain ⟨_, -, h⟩ := bind_eq_ok.mp h
  split at h
  · cases h
  obtain ⟨docs, -, h⟩ := bind_eq_ok.mp h
  obtain ⟨kustomizations, hkustomizations, h⟩ := bind_eq_ok.mp h
  obtain ⟨duplicate, hduplicate, h⟩ := bind_eq_ok.mp h
  cases duplicate with
  | some name => cases h
  | none =>
    iterate 3 obtain ⟨_, -, h⟩ := bind_eq_ok.mp h
    cases h
    exact ⟨docs, hkustomizations, hduplicate, hname⟩

/-- The template is what a document is read to, but for the directory that it stands in. -/
def Template.Read (t : Template) : Prop := ∃ doc, ofDocument doc = .ok { t with sourcePath := none }

/-! ## Requirements -/

/-- A requirement without a namespace is a reference between kustomizations. -/
theorem refers_of_requirement {templates : List Template} {r : Resolved} {d : Dependency}
    {q : Requirement} (hr : (r.template, r.kustomization) ∈ Graph.declared templates)
    (hd : d ∈ r.kustomization.dependsOn) (h : Manifest.requirement r d = .ok q)
    (hq : q.ns = .null) :
    ∃ id, Graph.Refers templates r.name id ∧ q.name = .str id := by
  rw [Manifest.requirement] at h
  rcases href : d.reference with fault | ref
  · simp only [href] at h
    cases h
  have hrefers : ∀ id, ref.target? r.template.name = some id →
      Graph.Refers templates r.name id :=
    fun id hid => ⟨r.template, r.kustomization, d, ref, hr, rfl, hd, href, hid⟩
  cases ref with
  | within name =>
    simp only [href] at h
    cases h
    exact ⟨_, hrefers _ rfl, rfl⟩
  | across template name =>
    simp only [href] at h
    cases h
    exact ⟨_, hrefers _ rfl, rfl⟩
  | external resource =>
    simp only [href] at h
    cases h
    -- a resource outside the templates has a namespace
    have hgiven := resource.given
    rw [show resource.ns = .null from hq] at hgiven
    cases hgiven

namespace Generator

open Enablement (flag BooleanFlags)
open FluxFleet.Graph (declared identities Refers)

variable {η π τ : Type} {plugins : Plugins η π τ} {d : GeneratorDefaults}
variable {cluster : Cluster} {templates : List Template} {options : Options}
variable {s : Settings} {resolved : List Resolved} {gen : Generation}

/-- The run that `generate` is for a registry that holds nothing but its own hook. -/
theorem generate_new_eq_ok
    (h : (generate plugins .new d cluster templates options).2 = .ok gen) :
    (options.skipValidation = false → validate cluster templates = .ok ()) ∧
      ∃ resolved, Resolution.resolveAll cluster templates = .ok resolved ∧
        build cluster (Settings.ofCluster cluster d) options resolved = .ok gen := by
  have hnew : (.new : Registry η π) = .withProviders .empty := rfl
  rw [hnew] at h
  obtain ⟨hvalid, resolved, groups, hresolved, -, hbuild⟩ := generate_eq_ok h
  rw [Registry.answers_empty] at hbuild
  have hid : Registry.overwrite [] = id := rfl
  rw [hid, List.map_id] at hbuild
  exact ⟨hvalid, resolved, hresolved, hbuild⟩

/-- The deployed manifests are those of enabled kustomizations. -/
theorem mem_deployed (h : build cluster s options resolved = .ok gen) {m : Generated} :
    m ∈ gen.deployed ↔ ∃ r ∈ resolved, r.enabled.truthy = true ∧
      render s options.includePreserved r = .ok (some m) := by
  rw [Generation.deployed, List.mem_filter, mem_manifests h]
  constructor
  · rintro ⟨⟨r, hr, hrender⟩, hkept⟩
    obtain ⟨-, -, hpreserved, -⟩ := render_eq_some hrender
    rw [hpreserved, Bool.not_not] at hkept
    exact ⟨r, hr, hkept, hrender⟩
  · rintro ⟨r, hr, hon, hrender⟩
    obtain ⟨-, -, hpreserved, -⟩ := render_eq_some hrender
    refine ⟨⟨r, hr, hrender⟩, ?_⟩
    rw [hpreserved, hon]
    rfl

/-- The name of a rendered manifest, in its metadata too, is that of its kustomization. -/
theorem name_of_render {includePreserved : Bool} {r : Resolved} {m : Generated}
    (h : render s includePreserved r = .ok (some m)) : m.manifest.name = r.name := by
  obtain ⟨-, -, -, kept, hmanifest⟩ := render_eq_some h
  exact (Manifest.ofResolved_eq_ok hmanifest).1

/-- Every enabled kustomization has a deployed manifest under its identity. -/
theorem exists_deployed (hresolved : Resolution.resolveAll cluster templates = .ok resolved)
    (hbuild : build cluster s options resolved = .ok gen) {t : Template} {ks : Kustomization}
    (hd : (t, ks) ∈ declared templates) (hon : (flag cluster t ks).truthy = true) :
    ∃ m ∈ gen.deployed, m.manifest.name = ks.identity t.name := by
  obtain ⟨r, hr, rfl, rfl, hflag⟩ := Resolution.exists_resolved_of_enabled hresolved hd hon
  rw [← hflag] at hon
  obtain ⟨m, -, hrender⟩ := exists_manifest hbuild hr hon
  exact ⟨m, (mem_deployed hbuild).mpr ⟨r, hr, hon, hrender⟩, name_of_render hrender⟩

/-- What a manifest requires without a namespace is what its kustomization refers to. -/
theorem refers_of_mem_manifests (hresolved : Resolution.resolveAll cluster templates = .ok resolved)
    (hbuild : build cluster s options resolved = .ok gen) {m : Generated}
    (hm : m ∈ gen.manifests) {q : Requirement} (hq : q ∈ m.manifest.dependsOn)
    (hns : q.ns = .null) : ∃ id, Refers templates m.manifest.name id ∧ q.name = .str id := by
  obtain ⟨r, hr, hrender⟩ := (mem_manifests hbuild).mp hm
  obtain ⟨hd, -⟩ := Resolution.enabled_of_mem hresolved hr
  obtain ⟨-, -, -, kept, hmanifest⟩ := render_eq_some hrender
  obtain ⟨-, -, -, hdependsOn⟩ := Manifest.ofResolved_eq_ok hmanifest
  obtain ⟨dep, hdep, hrequirement⟩ := (mem_iff_of_mapM_eq_ok hdependsOn).mp hq
  rw [name_of_render hrender]
  exact refers_of_requirement hd hdep hrequirement hns

/-- A deployed manifest is that of an enabled kustomization, and what it requires without a
namespace is what that one refers to. -/
theorem of_mem_deployed (hresolved : Resolution.resolveAll cluster templates = .ok resolved)
    (hbuild : build cluster s options resolved = .ok gen) {m : Generated}
    (hm : m ∈ gen.deployed) :
    (∃ t ks, (t, ks) ∈ declared templates ∧ (flag cluster t ks).truthy = true ∧
        m.manifest.name = ks.identity t.name) ∧
      ∀ q ∈ m.manifest.dependsOn, q.ns = .null →
        ∃ id, Refers templates m.manifest.name id ∧ q.name = .str id := by
  obtain ⟨r, hr, hon, hrender⟩ := (mem_deployed hbuild).mp hm
  obtain ⟨hd, hflag⟩ := Resolution.enabled_of_mem hresolved hr
  refine ⟨⟨_, _, hd, hflag ▸ hon, name_of_render hrender⟩, fun q hq hns => ?_⟩
  exact refers_of_mem_manifests hresolved hbuild (List.mem_of_mem_filter hm) hq hns

/-- What a deployed manifest leads to by references is deployed as well. -/
theorem deployed_of_reaches (hids : (identities templates).Nodup)
    (hflags : BooleanFlags cluster templates) (hvalid : validate cluster templates = .ok ())
    (hresolved : Resolution.resolveAll cluster templates = .ok resolved)
    (hbuild : build cluster s options resolved = .ok gen) {t : Template} {ks : Kustomization}
    (hd : (t, ks) ∈ declared templates) (hon : (flag cluster t ks).truthy = true) {id : String}
    (hreach : Relation.ReflTransGen (Refers templates) (ks.identity t.name) id) :
    ∃ m ∈ gen.deployed, m.manifest.name = id := by
  obtain ⟨⟨order, horder⟩, hcheck⟩ := validate_eq_ok hvalid
  obtain ⟨hproblems, -⟩ := Graph.of_validate_eq_ok horder
  -- the induction is along the references: every kustomization on the way is enabled
  have henabled : ∃ t' ks', (t', ks') ∈ declared templates ∧
      (flag cluster t' ks').truthy = true ∧ ks'.identity t'.name = id := by
    induction hreach with
    | refl => exact ⟨t, ks, hd, hon, rfl⟩
    | tail _ hrefers ih =>
      obtain ⟨t₁, ks₁, hd₁, hon₁, rfl⟩ := ih
      obtain ⟨hedge, -⟩ := Graph.edge_of_refers hproblems hrefers
      obtain ⟨⟨t₂, ks₂⟩, hd₂, rfl⟩ := List.mem_map.mp (Graph.mem_keys_build.mp hedge.target)
      exact ⟨t₂, ks₂, hd₂,
        Enablement.enabled_of_refers hids hflags hcheck hd₁ hd₂ hon₁ hrefers, rfl⟩
  obtain ⟨t', ks', hd', hon', rfl⟩ := henabled
  exact exists_deployed hresolved hbuild hd' hon'

/-- **Deployed manifests are closed.** What a deployed manifest leads to by references is deployed,
each requirement without a namespace names another deployed manifest, and these requirements form
no cycle. -/
theorem deployed_closed (hids : (identities templates).Nodup)
    (hflags : BooleanFlags cluster templates)
    (hchecked : options.skipValidation = false)
    (h : (generate plugins .new d cluster templates options).2 = .ok gen) :
    (∀ m ∈ gen.deployed, ∀ id,
      Relation.ReflTransGen (Refers templates) m.manifest.name id →
        ∃ m' ∈ gen.deployed, m'.manifest.name = id) ∧
    (∀ m ∈ gen.deployed, ∀ r ∈ m.manifest.dependsOn, r.ns = .null →
      ∃ m' ∈ gen.deployed, m'.manifest.name ≠ m.manifest.name ∧ r.Names m'.manifest) ∧
    ∀ a, ¬ Relation.TransGen (gen.Waits Requirement.Names) a a := by
  obtain ⟨hvalid, resolved, hresolved, hbuild⟩ := generate_new_eq_ok h
  have hvalid := hvalid hchecked
  obtain ⟨⟨order, horder⟩, -⟩ := validate_eq_ok hvalid
  obtain ⟨hproblems, hacyclic⟩ := Graph.of_validate_eq_ok horder
  refine ⟨fun m hm id hreach => ?_, fun m hm r hr hns => ?_, fun a haa => ?_⟩
  · obtain ⟨⟨t, ks, hd, hon, hname⟩, -⟩ := of_mem_deployed hresolved hbuild hm
    rw [hname] at hreach
    exact deployed_of_reaches hids hflags hvalid hresolved hbuild hd hon hreach
  · obtain ⟨⟨t, ks, hd, hon, hname⟩, hrequires⟩ := of_mem_deployed hresolved hbuild hm
    obtain ⟨id, hrefers, hid⟩ := hrequires r hr hns
    obtain ⟨-, hne⟩ := Graph.edge_of_refers hproblems hrefers
    obtain ⟨m', hm', rfl⟩ := deployed_of_reaches hids hflags hvalid hresolved hbuild hd hon
      (hname ▸ Relation.ReflTransGen.single hrefers)
    exact ⟨m', hm', hne, hns, hid⟩
  · -- a cycle of requirements would be one of the graph
    refine hacyclic a (Relation.TransGen.mono ?_ a a haa)
    rintro _ _ ⟨m, hm, m', -, rfl, rfl, r, hr, hns, hname⟩
    obtain ⟨-, hrequires⟩ := of_mem_deployed hresolved hbuild hm
    obtain ⟨id, hrefers, hid⟩ := hrequires r hr hns
    rw [hname] at hid
    cases hid
    exact (Graph.edge_of_refers hproblems hrefers).1

/-! ## A shop whose database waits for something else -/

/-- A template whose `web` waits for its `db`, which in turn waits for `awaited`. -/
def shop (awaited : Dependency) : Template :=
  { name := "shop"
    kustomizations :=
      [Kustomization.bare "web" [.written "db"], Kustomization.bare "db" [awaited]]
    versions := [] }

/-- A template that the database of a shop may wait for. -/
def storage : Template :=
  { name := "storage", kustomizations := [Kustomization.bare "disk" []], versions := [] }

/-- A cluster that deploys the shop and its storage. -/
def market : Cluster :=
  { name := "market", selections := [{ name := "shop" }, { name := "storage" }] }

/-- Plugins without hooks and providers. -/
def noPlugins : Plugins Empty Empty Empty :=
  { answer := fun h => h.elim, provide := fun p => p.elim }

theorem booleanFlags_market (awaited : Dependency) :
    BooleanFlags market [shop awaited, storage] := by
  constructor
  · simp [shop, storage, Kustomization.bare]
  · simp [market, OrderedMap.empty]

/-- From the web of the shop the disk is reached through the database, so it is deployed. -/
theorem disk_deployed :
    ∃ gen, (generate noPlugins .new {} market [shop (.written "storage/disk"), storage] {}).2 =
        .ok gen ∧ ∃ m ∈ gen.deployed, m.manifest.name = "storage-disk" := by
  refine ⟨_, rfl, ?_⟩
  have hclosed := @deployed_closed _ _ _ noPlugins {} market
    [shop (.written "storage/disk"), storage] {} _ (by decide) (booleanFlags_market _) rfl rfl
  have hdb : Refers [shop (.written "storage/disk"), storage] "shop-web" "shop-db" :=
    ⟨_, _, _, .within "db", List.mem_cons_self, rfl, List.mem_cons_self, rfl, rfl⟩
  have hdisk : Refers [shop (.written "storage/disk"), storage] "shop-db" "storage-disk" :=
    ⟨_, _, _, .across "storage" "disk", List.mem_cons_of_mem _ List.mem_cons_self, rfl,
      List.mem_cons_self, rfl, rfl⟩
  exact hclosed.1 _ List.mem_cons_self _ (.tail (.single hdb) hdisk)

/-- **A cycle through an outside resource.** If the database waits for a resource that has the name
and namespace of the web's manifest, the run succeeds, and the two manifests wait for each other. -/
theorem external_reference_closes_cycle :
    (identities [shop (.external "shop-web" "flux-system"), storage]).Nodup ∧
    BooleanFlags market [shop (.external "shop-web" "flux-system"), storage] ∧
    ∃ gen, (generate noPlugins .new {} market
        [shop (.external "shop-web" "flux-system"), storage] {}).2 = .ok gen ∧
      Relation.TransGen (gen.Waits Requirement.MetBy) "shop-web" "shop-web" := by
  refine ⟨by decide, booleanFlags_market _, _, rfl, ?_⟩
  refine Relation.TransGen.tail (b := "shop-db") (.single ?_) ?_
  · exact ⟨_, List.mem_cons_self, _, List.mem_cons_of_mem _ List.mem_cons_self, rfl, rfl,
      _, List.mem_cons_self, Or.inl rfl, rfl⟩
  · exact ⟨_, List.mem_cons_of_mem _ List.mem_cons_self, _, List.mem_cons_self, rfl, rfl,
      _, List.mem_cons_self, Or.inr rfl, rfl⟩

end Generator

end FluxFleet
