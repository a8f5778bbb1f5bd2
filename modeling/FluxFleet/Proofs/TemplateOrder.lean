import FluxFleet.Proofs.Faults
import FluxFleet.Proofs.Namespaces
import FluxFleet.Proofs.Verdict

/-!
# The order of the templates

A run goes through the templates in order and leaves out those that the cluster does not select. So
two lists with the same selected templates, in whatever order, give the same manifests up to order
and otherwise the same result. In another order a run also fails for the same kind of reason, if the
fields that it reads are of the kinds that they should be (`WellTyped`). Both are
`generate_of_perm`.

The kinds to keep of a preservation policy are only listed when a disabled kustomization is
rendered, so a policy that cannot be listed and a reference that cannot be parsed fail in the order
of the templates, for different reasons (`order_decides_failure`).
-/

namespace FluxFleet

/-- Whether a cluster deploys a template. -/
def Cluster.selects (c : Cluster) (t : Template) : Bool := (c.selection? (.str t.name)).isSome

variable {templates templates' : List Template} {cluster : Cluster}
variable {resolved resolved' : List Resolved}

/-! ## Resolution -/

namespace Resolution

theorem resolveAll_cons (cluster : Cluster) (t : Template) (templates : List Template) :
    resolveAll cluster (t :: templates) = (do
      let row ← resolveTemplate cluster t
      let rest ← resolveAll cluster templates
      return row ++ rest) := by
  rw [resolveAll_eq, resolveAll_eq, List.mapM_cons]
  cases resolveTemplate cluster t with
  | error e => rfl
  | ok row => cases templates.mapM (resolveTemplate cluster) <;> rfl

/-- Templates that are not selected make no difference. -/
theorem resolveAll_filter (cluster : Cluster) (templates : List Template) :
    resolveAll cluster (templates.filter cluster.selects) = resolveAll cluster templates := by
  induction templates with
  | nil => rfl
  | cons t templates ih =>
    rw [List.filter_cons, resolveAll_cons, ← ih]
    split
    · rw [resolveAll_cons]
    · next hselects =>
      have hnone : cluster.selection? (.str t.name) = none := by
        simpa [Cluster.selects] using hselects
      rw [resolveTemplate, hnone]
      cases resolveAll cluster (templates.filter cluster.selects) <;> rfl

/-- In another order the same kustomizations are resolved in another order. -/
theorem exists_resolveAll_of_perm (hperm : templates.Perm templates')
    (h : resolveAll cluster templates = .ok resolved) :
    ∃ resolved', resolveAll cluster templates' = .ok resolved' ∧ resolved.Perm resolved' := by
  rw [resolveAll_eq] at h
  obtain ⟨rows, hrows, hflat⟩ := bind_eq_ok.mp h
  cases hflat
  obtain ⟨rows', hrows', hperm'⟩ := exists_mapM_of_perm hperm hrows
  refine ⟨rows'.flatten, ?_, hperm'.flatten⟩
  rw [resolveAll_eq, hrows']
  rfl

theorem agree_resolveAll (h : templates.Perm templates') :
    Agree List.Perm (resolveAll cluster templates) (resolveAll cluster templates') := by
  have hrows : Agree List.Perm (templates.mapM (resolveTemplate cluster))
      (templates'.mapM (resolveTemplate cluster)) :=
    .mapM_of_perm h fun t _ e => family_of_resolveTemplate_eq_error
  exact hrows.bind fun rows rows' hperm => .ok hperm.flatten

end Resolution

/-! ## Results -/

/-- Two results are the same but for the order of the manifests. -/
structure Generation.SameUpToOrder (g g' : Generation) : Prop where
  rest : g' = { g with manifests := g'.manifests }
  manifests : g.manifests.Perm g'.manifests

namespace Generator

variable {η π τ : Type} {plugins : Plugins η π τ} {d : GeneratorDefaults} {options : Options}
variable {s : Settings} {gen gen' : Generation}

/-- What is built from the same kustomizations in another order is the same up to order. -/
theorem sameUpToOrder_of_build (hperm : resolved.Perm resolved')
    (h : build cluster s options resolved = .ok gen)
    (h' : build cluster s options resolved' = .ok gen') : gen.SameUpToOrder gen' := by
  obtain ⟨row, repository, patches, names, hrow, hrepository, hpatches, hnames, rfl⟩ :=
    build_eq_ok h
  obtain ⟨row', repository', patches', names', hrow', hrepository', hpatches', hnames', rfl⟩ :=
    build_eq_ok h'
  obtain ⟨row'', hrow'', hrows⟩ := exists_mapM_of_perm hperm hrow
  obtain rfl := Except.ok.inj (hrow''.symm.trans hrow')
  obtain rfl := Except.ok.inj (hrepository.symm.trans hrepository')
  obtain rfl := Except.ok.inj (hpatches.symm.trans hpatches')
  obtain rfl :=
    Except.ok.inj ((Namespaces.names_congr (fun _ => hperm.mem_iff.symm) hnames).symm.trans hnames')
  exact ⟨rfl, hrows.filterMap id⟩

/-- Runs on lists with the same selected templates have the same result up to order. -/
theorem sameUpToOrder_of_generate
    (hperm : (templates.filter cluster.selects).Perm (templates'.filter cluster.selects))
    (h : (generate plugins .new d cluster templates options).2 = .ok gen)
    (h' : (generate plugins .new d cluster templates' options).2 = .ok gen') :
    gen.SameUpToOrder gen' := by
  obtain ⟨-, resolved, hresolved, hbuild⟩ := generate_new_eq_ok h
  obtain ⟨-, resolved', hresolved', hbuild'⟩ := generate_new_eq_ok h'
  rw [← Resolution.resolveAll_filter] at hresolved hresolved'
  obtain ⟨resolved'', hresolved'', hperm'⟩ := Resolution.exists_resolveAll_of_perm hperm hresolved
  obtain rfl := Except.ok.inj (hresolved''.symm.trans hresolved')
  exact sameUpToOrder_of_build hperm' hbuild hbuild'

/-- What is built in two orders agrees: only references can fail. -/
theorem agree_build (hperm : resolved.Perm resolved')
    (h : ∀ r ∈ resolved, r.Renderable options.includePreserved) :
    Agree Generation.SameUpToOrder (build cluster s options resolved)
      (build cluster s options resolved') := by
  have hrows : Agree (fun _ _ => True) (renderAll s options.includePreserved resolved)
      (renderAll s options.includePreserved resolved') := by
    have hrows : Agree List.Perm (resolved.mapM (render s options.includePreserved))
        (resolved'.mapM (render s options.includePreserved)) :=
      .mapM_of_perm hperm fun r hr e => family_of_render_eq_error (h r hr)
    exact hrows.bind fun _ _ _ => .ok trivial
  have hsame {α : Type} (x : Except Error α) : Agree (fun _ _ => True) x x :=
    .refl fun _ _ => trivial
  obtain ⟨ns, hns⟩ := Namespaces.exists_names fun r hr => (h r hr).targetNamespace
  have hverdict : Agree (fun _ _ => True) (build cluster s options resolved)
      (build cluster s options resolved') := by
    refine hrows.bind fun _ _ _ => (hsame _).bind fun _ _ _ => (hsame _).bind fun _ _ _ => ?_
    rw [hns, Namespaces.names_congr (fun _ => hperm.mem_iff.symm) hns]
    exact .ok trivial
  exact hverdict.imp fun _ _ hgen hgen' _ => sameUpToOrder_of_build hperm hgen hgen'

/-! ## Runs -/

theorem agree_grouping (hperm : resolved.Perm resolved') :
    Agree (fun _ _ => True) (grouping resolved) (grouping resolved') := by
  refine .of_family (fun u h => ⟨u, ?_, trivial⟩) (fun u h => ⟨u, ?_⟩)
    (fun e => family_of_grouping_eq_error) fun e => family_of_grouping_eq_error
  · rw [grouping_eq_ok, Resolution.exists_external_iff] at h ⊢
    exact fun r hr => h r (hperm.mem_iff.mpr hr)
  · rw [grouping_eq_ok, Resolution.exists_external_iff] at h ⊢
    exact fun r hr => h r (hperm.mem_iff.mp hr)

/-- Two orders of the templates start with the same kustomizations, or fail alike. -/
theorem agree_start (hperm : templates.Perm templates')
    (hids : (Graph.identities templates).Nodup)
    (hnames : ∀ d ∈ Graph.declared templates, ∃ s, d.2.name = .str s) :
    Agree (fun c c' => c.kustomizations.Perm c'.kustomizations)
      (start cluster templates options) (start cluster templates' options) := by
  have hresolve : Agree (fun c c' : Context => c.kustomizations.Perm c'.kustomizations)
      (do return { cluster, templates,
                   kustomizations := ← Resolution.resolveAll cluster templates })
      (do return { cluster, templates := templates',
                   kustomizations := ← Resolution.resolveAll cluster templates' }) :=
    (Resolution.agree_resolveAll hperm).bind fun _ _ h => .ok h
  rw [start, start]
  rcases options.skipValidation with _ | _
  · exact (agree_validate hperm hids hnames).bind fun _ _ _ => hresolve
  · exact hresolve

/-- Runs on two orders of the templates agree. -/
theorem agree_generate (hperm : templates.Perm templates')
    (hids : (Graph.identities templates).Nodup)
    (hks : ∀ d ∈ Graph.declared templates, d.2.WellTyped)
    (hpolicies : options.includePreserved = true → ListablePolicies cluster templates) :
    Agree Generation.SameUpToOrder (generate plugins .new d cluster templates options).2
      (generate plugins .new d cluster templates' options).2 := by
  have hstart := @agree_start _ _ cluster options hperm hids fun d hd => (hks d hd).name
  rw [generate_new_eq, generate_new_eq]
  refine (hstart.imp fun c c' hc _ hperm' =>
    (⟨hperm', fun r hr => ?_⟩ : c.kustomizations.Perm c'.kustomizations ∧
      ∀ r ∈ c.kustomizations, r.Renderable options.includePreserved)).bind fun c c' h => ?_
  · obtain ⟨-, resolved, hresolved, rfl⟩ := start_eq_ok hc
    exact Resolution.renderable_of_mem hpolicies hks hresolved hr
  · exact (agree_grouping h.1).bind fun _ _ _ => agree_build h.1 h.2

/-- **Order of templates.** Runs without plugins on lists with the same selected templates give the
same result up to the order of the manifests, if both succeed. On lists with the same templates,
whose identities are pairwise different and whose names and paths are texts, both succeed or both
fail, with errors of one family. If disabled kustomizations are rendered too, all policies must have
kinds to keep that can be listed. -/
theorem generate_of_perm :
    (∀ (cluster : Cluster) (templates templates' : List Template) (gen gen' : Generation),
      (templates.filter cluster.selects).Perm (templates'.filter cluster.selects) →
      (generate plugins .new d cluster templates options).2 = .ok gen →
      (generate plugins .new d cluster templates' options).2 = .ok gen' →
        gen.SameUpToOrder gen') ∧
    ∀ (cluster : Cluster) (templates templates' : List Template), templates.Perm templates' →
      (Graph.identities templates).Nodup →
      (∀ d ∈ Graph.declared templates, d.2.WellTyped) →
      (options.includePreserved = true → ListablePolicies cluster templates) →
        Agree Generation.SameUpToOrder (generate plugins .new d cluster templates options).2
          (generate plugins .new d cluster templates' options).2 :=
  ⟨fun _ _ _ _ _ hperm h h' => sameUpToOrder_of_generate hperm h h',
    fun _ _ _ hperm hids hks hpolicies => agree_generate hperm hids hks hpolicies⟩

/-- A template of one kustomization. -/
def single (name kustomization : String) (dependsOn : List Dependency) : Template :=
  { name, kustomizations := [Kustomization.bare kustomization dependsOn], versions := [] }

/-- A shop and its storage in both orders: with a database that waits for the disk the results are
the same up to order, also if there is a template in one of the lists that is not selected, and with
one that waits for nothing known both orders fail alike. -/
theorem market_of_perm :
    (∃ gen gen', (generate noPlugins .new {} market
        [single "annex" "gate" [], shop (.written "storage/disk"), storage] {}).2 = .ok gen ∧
      (generate noPlugins .new {} market [storage, shop (.written "storage/disk")] {}).2 =
        .ok gen' ∧
      gen.SameUpToOrder gen') ∧
    (∃ gen gen',
      (generate noPlugins .new {} market [shop (.written "storage/disk"), storage] {}).2 =
        .ok gen ∧
      (generate noPlugins .new {} market [storage, shop (.written "storage/disk")] {}).2 =
        .ok gen' ∧
      gen.SameUpToOrder gen') ∧
    ∃ e e', (generate noPlugins .new {} market [shop (.written "nowhere"), storage] {}).2 =
      .error e ∧
      (generate noPlugins .new {} market [storage, shop (.written "nowhere")] {}).2 = .error e' ∧
      e.family = e'.family := by
  have hwell (awaited : Dependency) :
      ∀ d ∈ Graph.declared [shop awaited, storage], d.2.WellTyped := by
    intro d hd
    have hds : Graph.declared [shop awaited, storage] =
        [(shop awaited, Kustomization.bare "web" [.written "db"]),
          (shop awaited, Kustomization.bare "db" [awaited]),
          (storage, Kustomization.bare "disk" [])] := rfl
    rw [hds, List.mem_cons, List.mem_pair] at hd
    rcases hd with rfl | rfl | rfl <;> exact ⟨⟨_, rfl⟩, ⟨_, rfl⟩, nofun⟩
  have hids (awaited : Dependency) : (Graph.identities [shop awaited, storage]).Nodup := by
    have hids : Graph.identities [shop awaited, storage] =
        ["shop-web", "shop-db", "storage-disk"] := rfl
    rw [hids]
    decide
  obtain ⟨hselected, hwhole⟩ := @generate_of_perm _ _ _ noPlugins {} {}
  have hagree (awaited : Dependency) := hwhole market [shop awaited, storage]
    [storage, shop awaited] (.swap _ _ _) (hids awaited) (hwell awaited) nofun
  refine ⟨⟨_, _, rfl, rfl, ?_⟩, ⟨_, _, rfl, rfl, ?_⟩, _, _, rfl, rfl, ?_⟩
  · exact hselected market [single "annex" "gate" [], shop (.written "storage/disk"), storage]
      [storage, shop (.written "storage/disk")] _ _ (.swap _ _ _) rfl rfl
  · exact (hagree (.written "storage/disk")).of_eq_ok rfl rfl
  · exact (hagree (.written "nowhere")).of_eq_error rfl rfl

/-! ## Two faults of two kinds -/

/-- The document of a cluster that switches a kustomization off and keeps what cannot be listed. -/
def warehouseDocument : Value :=
  .record [("apiVersion", "kustodian.io/v1"), ("kind", "Cluster"),
    ("metadata", .record [("name", "warehouse")]),
    ("spec", .record [("git", .record [("owner", "example"), ("repository", "fleet")]),
      ("templates", .ofList [
        .record [("name", "shop"), ("kustomizations", .record [("web", .record [
          ("enabled", .bool false),
          ("preservation", .record [("mode", "custom"), ("keep_resources", .int 5)])])])],
        .record [("name", "storage")]])])]

/-- The cluster of that document. -/
def warehouse : Cluster :=
  { name := "warehouse", git := some { owner := "example", repository := "fleet" },
    selections := [
      { name := "shop"
        overrides := ⟨[("web", .adjust (.bool false) (some ⟨.custom, .int 5⟩))]⟩ },
      { name := "storage" }] }

/-- **The order decides how a run fails.** One template has kinds to keep that cannot be listed, the
other one has a reference with too many parts. The run fails at the one that comes first, with an
error of a family of its own. -/
theorem order_decides_failure :
    Cluster.ofDocument warehouseDocument = .ok warehouse ∧
    (Graph.identities [single "shop" "web" [], single "storage" "disk" [.written "a/b/c"]]).Nodup ∧
    (∀ d ∈ Graph.declared [single "shop" "web" [], single "storage" "disk" [.written "a/b/c"]],
      d.2.WellTyped) ∧
    ∃ e e', (generate noPlugins .new {} warehouse
        [single "shop" "web" [], single "storage" "disk" [.written "a/b/c"]]
        { skipValidation := true, includePreserved := true }).2 = .error e ∧
      (generate noPlugins .new {} warehouse
        [single "storage" "disk" [.written "a/b/c"], single "shop" "web" []]
        { skipValidation := true, includePreserved := true }).2 = .error e' ∧
      e.family = .type ∧ e'.family = .input := by
  refine ⟨rfl, by decide, fun d hd => ?_, _, _, rfl, rfl, rfl, rfl⟩
  rcases List.mem_pair.mp hd with rfl | rfl <;> exact ⟨⟨_, rfl⟩, ⟨_, rfl⟩, nofun⟩

end Generator

end FluxFleet
