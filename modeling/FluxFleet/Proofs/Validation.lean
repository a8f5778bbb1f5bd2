import FluxFleet.CommandLine.Generate
import FluxFleet.CommandLine.Validate
import FluxFleet.Proofs.Acceptance
import FluxFleet.Proofs.Faults
import FluxFleet.Proofs.Namespaces
import FluxFleet.Proofs.Project
import FluxFleet.Proofs.Session
import FluxFleet.Proofs.Tuning

/-!
# What validates can be generated

The command `validate` goes through the checks of the graph, of the enablement and of the values
(`Checked`), and with these a run without plugins resolves, groups and renders all kustomizations.
Behind them only two things can still be wrong with a cluster, and no check looks for them: the tag
of its artifacts, if it is to be set by hand, and the numbers of its tuned controllers
(`CommandLine.generate_of_validate`).
-/

namespace FluxFleet

open FluxFleet.Graph (declared mem_declared)

variable {cluster : Cluster} {templates : List Template} {resolved : List Resolved}

/-- The cluster passes the checks of the graph, of the enablement and of the values. -/
structure Checked (cluster : Cluster) (templates : List Template) : Prop where
  order : ∃ order, Graph.validate templates = .ok order
  enablement : Enablement.check cluster templates = .ok ()
  values : ∀ t ∈ templates, ∃ report, Checks.ofTemplate cluster t = .ok report

/-- The artifacts of the cluster have a tag that is set by hand, and none is set. -/
def Cluster.LacksTag (c : Cluster) : Prop :=
  ∃ source, c.oci = some source ∧ source.tagStrategy = "manual" ∧
    ArtifactRepository.nonEmpty? source.tag = none

/-- The number that each tuned controller gets can be written. -/
def Cluster.TuningWritable (c : Cluster) : Prop :=
  ∀ t, c.system.bind (·.controllers) = some t → ∀ k n, (Controller.tuning t k).concurrent = some n →
    isWritable n = true

theorem Cluster.tuningWritable_iff :
    cluster.TuningWritable ↔ ∀ t, cluster.system.bind (·.controllers) = some t → t.Short := by
  simp only [TuningWritable, ControllerTuning.Short, Controller.concurrency_iff, isWritable_iff]

/-! ## Checks of values -/

/-- The check of the values of a selected template has looked at all its names and types. -/
theorem Checks.keyed_of_ofTemplate {t : Template} {s : Selection} {report : Report}
    (hsel : cluster.selection? (.str t.name) = some s) (h : ofTemplate cluster t = .ok report) :
    (∀ v ∈ t.versions, ∃ k, v.name.asKey = .ok k) ∧
      ∀ ks ∈ t.kustomizations, ∀ sub ∈ ks.substitutions,
        (∃ k, sub.type.asKey = .ok k) ∧ ∃ k, sub.name.asKey = .ok k := by
  rw [ofTemplate, hsel] at h
  obtain ⟨_, hversions, h⟩ := bind_eq_ok.mp h
  obtain ⟨_, hvariables, -⟩ := bind_eq_ok.mp h
  constructor
  · intro v hv
    have hstep := of_forIn_eq_ok hversions (fun v _ step hstep => by
      obtain ⟨_, -, hstep⟩ := bind_eq_ok.mp hstep
      cases hstep
      rfl) hv
    obtain ⟨_, hkey, -⟩ := bind_eq_ok.mp hstep
    exact discard_eq_ok.mp hkey
  · intro ks hks sub hsub
    have hrow := of_forIn_eq_ok hvariables (fun ks _ step hstep => by
      obtain ⟨_, -, hstep⟩ := bind_eq_ok.mp hstep
      cases hstep
      rfl) hks
    obtain ⟨_, hrow, -⟩ := bind_eq_ok.mp hrow
    have hstep := of_forIn_eq_ok hrow (fun sub _ step hstep => by
      obtain ⟨_, -, hstep⟩ := bind_eq_ok.mp hstep
      obtain ⟨_, -, hstep⟩ := bind_eq_ok.mp hstep
      cases hstep
      rfl) hsub
    obtain ⟨_, htype, hstep⟩ := bind_eq_ok.mp hstep
    obtain ⟨_, hname, -⟩ := bind_eq_ok.mp hstep
    exact ⟨discard_eq_ok.mp htype, discard_eq_ok.mp hname⟩

namespace Resolution

/-- A checked cluster is resolved. -/
theorem exists_resolveAll_of_checked (h : Checked cluster templates) :
    ∃ resolved, resolveAll cluster templates = .ok resolved := by
  have hrow : ∀ t ∈ templates, ∃ row, resolveTemplate cluster t = .ok row := by
    intro t ht
    rw [resolveTemplate]
    rcases hsel : cluster.selection? (.str t.name) with _ | s
    · exact ⟨[], rfl⟩
    · obtain ⟨report, hreport⟩ := h.values t ht
      obtain ⟨hversions, hvariables⟩ := Checks.keyed_of_ofTemplate hsel hreport
      exact exists_mapM_eq_ok fun ks hks =>
        exists_resolve_of_keyed hversions fun sub hsub => (hvariables ks hks sub hsub).2
  obtain ⟨rows, hrows⟩ := exists_mapM_eq_ok hrow
  exact ⟨rows.flatten, by rw [resolveAll_eq]; exact bind_eq_ok.mpr ⟨rows, hrows, rfl⟩⟩

/-- The variables of a checked cluster have types that can be keys. -/
theorem external_of_checked (h : Checked cluster templates)
    (hresolved : resolveAll cluster templates = .ok resolved) :
    ∃ groups, external resolved = .ok groups := by
  refine exists_external_iff.mpr fun r hr _ sub hsub => ?_
  obtain ⟨t, ks, s, hd, hsel, hres⟩ := (mem_resolveAll hresolved).mp hr
  obtain ⟨rfl, rfl, -⟩ := resolve_eq_ok hres
  obtain ⟨ht, hks⟩ := mem_declared.mp hd
  obtain ⟨report, hreport⟩ := h.values _ ht
  obtain ⟨k, hk⟩ := ((Checks.keyed_of_ofTemplate hsel hreport).2 _ hks sub hsub).1
  rw [hk, (Value.key?_isSome_of_asKey hk).2]

end Resolution

/-! ## Rendering -/

/-- A well-typed kustomization with references that can be parsed has a manifest. -/
theorem Manifest.exists_ofResolved {r : Resolved} {s : Settings} {preserved includePreserved : Bool}
    (hr : r.Renderable includePreserved)
    (hparsed : ∀ d ∈ r.kustomization.dependsOn, ∃ ref, d.reference = .ok ref) :
    ∃ m, ofResolved r s [] preserved = .ok m := by
  obtain ⟨name, hname⟩ := hr.name
  obtain ⟨path, hpath⟩ := hr.path
  have hrequired : ∀ d ∈ r.kustomization.dependsOn, ∃ q, requirement r d = .ok q := by
    intro d hd
    obtain ⟨ref, href⟩ := hparsed d hd
    rw [requirement, href]
    cases ref <;> exact ⟨_, rfl⟩
  obtain ⟨row, hrow⟩ := exists_mapM_eq_ok hrequired
  obtain ⟨source, hsource⟩ : ∃ source, sourcePath r s.basePath = .ok source := by
    rw [sourcePath, hpath]
    exact ⟨_, rfl⟩
  have hwritten : discard r.kustomization.name.written = (.ok () : Except Error Unit) := by
    rw [hname]
    rfl
  exact ⟨_, bind_eq_ok.mpr ⟨(), hwritten, bind_eq_ok.mpr ⟨row, hrow,
    bind_eq_ok.mpr ⟨(), rfl, bind_eq_ok.mpr ⟨source, hsource, rfl⟩⟩⟩⟩⟩

/-! ## Runs -/

namespace Generator

variable {η π τ : Type} {plugins : Plugins η π τ} {d : GeneratorDefaults} {options : Options}
variable {s : Settings}

/-- A tag is missing exactly if the repository cannot be described. -/
theorem repository_of_lacksTag (h : cluster.LacksTag) :
    repository cluster s = .error (.configuration (.noTag cluster.name)) := by
  obtain ⟨source, hoci, hmanual, htag⟩ := h
  have hnone : ArtifactRepository.tagOf cluster source =
      .error (.configuration (.noTag cluster.name)) := by
    rw [ArtifactRepository.tagOf, hmanual]
    rcases ht : source.tag with _ | tag
    · rfl
    · have hempty : tag.isEmpty = true := by
        by_contra hgiven
        rw [ht, ArtifactRepository.nonEmpty?, Option.filter_some, if_pos (by simp [hgiven])] at htag
        cases htag
      simp only [hempty, if_true]
      rfl
  rw [repository, hoci]
  simp only [ArtifactRepository.ofCluster, hnone]
  rfl

theorem exists_repository (h : ¬ cluster.LacksTag) : ∃ r, repository cluster s = .ok r := by
  rw [repository]
  rcases hoci : cluster.oci with _ | source
  · exact ⟨none, rfl⟩
  · have htag : ∃ tag, ArtifactRepository.tagOf cluster source = .ok tag := by
      rw [ArtifactRepository.tagOf]
      split
      · exact ⟨_, rfl⟩
      · next hmanual =>
        rcases ht : source.tag with _ | tag
        · exact absurd ⟨source, hoci, hmanual, by rw [ht]; rfl⟩ h
        · by_cases hempty : tag.isEmpty = true
          · refine absurd ⟨source, hoci, hmanual, ?_⟩ h
            rw [ht, ArtifactRepository.nonEmpty?, Option.filter_some, hempty]
            rfl
          · simp only [hempty]
            exact ⟨_, rfl⟩
      · exact ⟨_, rfl⟩
    obtain ⟨tag, htag⟩ := htag
    dsimp only
    rw [ArtifactRepository.ofCluster, htag]
    exact ⟨_, rfl⟩

/-- No policy is looked at where nothing is preserved. -/
theorem renderable_of_wellTyped (hks : ∀ d ∈ declared templates, d.2.WellTyped)
    (hresolved : Resolution.resolveAll cluster templates = .ok resolved) {r : Resolved}
    (hr : r ∈ resolved) : r.Renderable false :=
  Resolution.renderable_of_mem (fun h : false = true => nomatch h) hks hresolved hr

/-- A kustomization of a checked cluster is rendered. -/
theorem exists_render_of_checked (h : Checked cluster templates)
    (hks : ∀ d ∈ declared templates, d.2.WellTyped)
    (hresolved : Resolution.resolveAll cluster templates = .ok resolved) {r : Resolved}
    (hr : r ∈ resolved) : ∃ m, render s false r = .ok m := by
  obtain ⟨hd, -⟩ := Resolution.enabled_of_mem hresolved hr
  obtain ⟨order, horder⟩ := h.order
  have hreferred := Graph.problems_build_eq_nil_iff.mp (Graph.of_validate_eq_ok horder).1
  have hparsed : ∀ dep ∈ r.kustomization.dependsOn, ∃ ref, dep.reference = .ok ref :=
    fun dep hdep => hreferred.parsed _ (Graph.mem_declarations.mpr ⟨_, _, dep, hd, hdep, rfl⟩)
  rw [render]
  by_cases hon : r.enabled.truthy = true
  · rw [if_pos hon]
    obtain ⟨m, hm⟩ :=
      Manifest.exists_ofResolved (renderable_of_wellTyped hks hresolved hr) hparsed
    exact ⟨_, bind_eq_ok.mpr ⟨m, hm, rfl⟩⟩
  · rw [if_neg hon]
    exact ⟨none, rfl⟩

/-- The manifests and the namespaces of a checked cluster are found, so the rest decides. -/
theorem build_of_checked (h : Checked cluster templates)
    (hks : ∀ d ∈ declared templates, d.2.WellTyped) (hpreserved : options.includePreserved = false)
    (hresolved : Resolution.resolveAll cluster templates = .ok resolved) :
    ∃ manifests namespaces, build cluster s options resolved = (do
      let repository ← repository cluster s
      let controllerPatches ← Patch.ofSystem? cluster.system
      return { cluster := cluster.name, directory := options.directory, manifests, repository,
               namespaces, controllerPatches }) := by
  obtain ⟨row, hrow⟩ := exists_mapM_eq_ok fun r (hr : r ∈ resolved) =>
    exists_render_of_checked (s := s) h hks hresolved hr
  obtain ⟨names, hnames⟩ := Namespaces.exists_names fun r hr =>
    (renderable_of_wellTyped hks hresolved hr).targetNamespace
  refine ⟨row.filterMap id, names.map fun n => { name := .str n }, ?_⟩
  rw [build, renderAll, hpreserved, hrow, hnames]
  rfl

/-- A run for a checked cluster fails for its tag, or for the number of a controller, or not at
all. -/
theorem generate_of_checked (h : Checked cluster templates)
    (hks : ∀ d ∈ declared templates, d.2.WellTyped)
    (hpreserved : options.includePreserved = false) :
    (cluster.LacksTag → (generate plugins .new d cluster templates options).2 =
      .error (.configuration (.noTag cluster.name))) ∧
    (¬ cluster.LacksTag → ¬ cluster.TuningWritable →
      (generate plugins .new d cluster templates options).2 = .error (.digits .writing)) ∧
    (¬ cluster.LacksTag → cluster.TuningWritable →
      ∃ g, (generate plugins .new d cluster templates options).2 = .ok g) := by
  obtain ⟨resolved, hresolved⟩ := Resolution.exists_resolveAll_of_checked h
  obtain ⟨manifests, namespaces, hbuild⟩ :=
    build_of_checked (s := .ofCluster cluster d) h hks hpreserved hresolved
  have hvalid : validate cluster templates = .ok () :=
    bind_eq_ok.mpr ⟨(), discard_eq_ok.mpr h.order, h.enablement⟩
  have hstart : start cluster templates options =
      .ok { cluster, templates, kustomizations := resolved } := by
    rw [start, hvalid, hresolved]
    cases options.skipValidation <;> rfl
  have hgrouping : grouping resolved = .ok () :=
    grouping_eq_ok.mpr (Resolution.external_of_checked h hresolved)
  have hrun : (generate plugins .new d cluster templates options).2 = (do
      let repository ← repository cluster (.ofCluster cluster d)
      let controllerPatches ← Patch.ofSystem? cluster.system
      return { cluster := cluster.name, directory := options.directory, manifests, repository,
               namespaces, controllerPatches }) := by
    rw [generate_new_eq, hstart, ← hbuild]
    change (grouping resolved >>= fun _ =>
      build cluster (.ofCluster cluster d) options resolved) = _
    rw [hgrouping]
    rfl
  rw [hrun]
  refine ⟨fun htag => ?_, fun htag htuning => ?_, fun htag htuning => ?_⟩
  · rw [repository_of_lacksTag htag]
    rfl
  · obtain ⟨r, hr⟩ := exists_repository htag
    simp only [Cluster.tuningWritable_iff, not_forall] at htuning
    obtain ⟨t, ht, hlong⟩ := htuning
    rw [hr, Patch.ofSystem?_of_overlong ht hlong]
    rfl
  · obtain ⟨r, hr⟩ := exists_repository htag
    obtain ⟨patches, hpatches⟩ := Patch.exists_ofSystem? (Cluster.tuningWritable_iff.mp htuning)
    exact ⟨_, bind_eq_ok.mpr ⟨r, hr, bind_eq_ok.mpr ⟨patches, hpatches, rfl⟩⟩⟩

end Generator

/-! ## The command -/

namespace CommandLine

variable {stack : Stack} {a : ValidateArguments} {path : Path} {p : Project}
  {console console' : Console}

/-- A cluster that the command has accepted passes the checks of the enablement and of the
values. -/
theorem Validate.of_cluster {c : Cluster} {missing : List String}
    (h : (Validate.cluster p c).run console = (.ok missing, console')) :
    Enablement.check c p.templates = .ok () ∧
      ∀ t ∈ p.templates, ∃ report, Checks.ofTemplate c t = .ok report := by
  obtain ⟨_, left, hcheck, h⟩ := Session.bind_eq_ok.mp h
  obtain ⟨_, left', hvalues, -⟩ := Session.bind_eq_ok.mp h
  refine ⟨(Session.lift_eq_ok.mp hcheck).1, fun t ht => ?_⟩
  obtain ⟨_, _, hfound, -⟩ := Session.bind_eq_ok.mp hvalues
  obtain ⟨_, _, _, ht⟩ := Session.exists_of_mapM_eq_ok hfound ht
  obtain ⟨report, _, hreport, -⟩ := Session.bind_eq_ok.mp ht
  exact ⟨report, (Session.lift_eq_ok.mp hreport).1⟩

/-- After the command all clusters of the project are checked. -/
theorem Validate.checked_of_run (hpath : a.path = some path) (hall : a.cluster = "")
    (hload : Project.load stack console.files path = .ok p)
    (h : (Validate.run stack a).run console = (.ok (), console')) :
    ∀ c ∈ p.clusters, Checked c p.templates := by
  -- the files, the path and the project come before the checks
  obtain ⟨found, left, hget, h⟩ := Session.bind_eq_ok.mp h
  cases hget
  obtain ⟨path', left, hpath', h⟩ := Session.bind_eq_ok.mp h
  rw [hpath] at hpath'
  cases hpath'
  obtain ⟨p', left, hload', h⟩ := Session.bind_eq_ok.mp h
  obtain ⟨hload', -⟩ := Session.lift_eq_ok.mp hload'
  obtain rfl : p' = p := Except.ok.inj (hload'.symm.trans hload)
  obtain ⟨_, left, horder, h⟩ := Session.bind_eq_ok.mp h
  obtain ⟨selected, left', hselected, h⟩ := Session.bind_eq_ok.mp h
  obtain ⟨hselected, -⟩ := Session.lift_eq_ok.mp hselected
  obtain ⟨_, _, hclusters, -⟩ := Session.bind_eq_ok.mp h
  rw [Validate.clusters, hall] at hselected
  obtain rfl : p'.clusters = selected := Except.ok.inj hselected
  intro c hc
  obtain ⟨_, _, _, hcluster⟩ := Session.exists_of_mapM_eq_ok hclusters hc
  obtain ⟨henablement, hvalues⟩ := Validate.of_cluster hcluster
  exact ⟨Session.exists_of_discard_lift horder, henablement, hvalues⟩

/-- **What validates can be generated, but for two settings.** If the command `validate` accepts all
clusters of a well-typed project, a run without plugins gives a result for each of them, except
that a cluster without the tag that it is to set by hand is refused for that, and otherwise one
whose controllers are tuned with a number of too many digits. -/
theorem generate_of_validate {η π τ : Type} {plugins : Plugins η π τ} {d : GeneratorDefaults}
    {options : Generator.Options} (hpath : a.path = some path) (hall : a.cluster = "")
    (hload : Project.load stack console.files path = .ok p)
    (htyped : ∀ t ∈ p.templates, ∀ ks ∈ t.kustomizations, ks.WellTyped)
    (hpreserved : options.includePreserved = false)
    (h : (Validate.run stack a).run console = (.ok (), console')) :
    ∀ c ∈ p.clusters,
      (c.LacksTag → (Generator.generate plugins .new d c p.templates options).2 =
        .error (.configuration (.noTag c.name))) ∧
      (¬ c.LacksTag → ¬ c.TuningWritable →
        (Generator.generate plugins .new d c p.templates options).2 = .error (.digits .writing)) ∧
      (¬ c.LacksTag → c.TuningWritable →
        ∃ g, (Generator.generate plugins .new d c p.templates options).2 = .ok g) := by
  intro c hc
  have hks : ∀ d ∈ declared p.templates, d.2.WellTyped := by
    rintro ⟨t, ks⟩ hd
    obtain ⟨ht, hks⟩ := mem_declared.mp hd
    exact htyped t ht ks hks
  exact Generator.generate_of_checked (Validate.checked_of_run hpath hall hload h c hc) hks
    hpreserved

/-! ## A depot whose artifacts get a tag by hand -/

/-- The file of a cluster whose artifacts get a tag by hand, with the line that sets it. -/
def depotFile (tag : String) : String :=
  "apiVersion: kustodian.io/v1\nkind: Cluster\nmetadata:\n  name: prod\nspec:\n  oci:\n" ++
    "    registry: ghcr.io\n    repository: fleet\n    tag_strategy: manual\n" ++ tag

/-- A project with this cluster and without templates. -/
def depot (tag : String) : FileSystem :=
  { root := .directory [("clusters", .directory [("prod", .directory [("cluster.yaml",
      .file (Text.bytesOf (depotFile tag)))])])] }

/-- What is read from the file of the cluster is the cluster of the project, which the command
accepts. -/
theorem exists_depot (tag : String) (accepts : Cluster → Bool)
    (h : ((Project.cluster {} (depot tag) (Path.ofString "/clusters/prod/cluster.yaml")).run
      0).toOption.any (accepts ·.1) = true) :
    ∃ p c console, Project.load {} (depot tag) (Path.ofString ".") = .ok p ∧ p.templates = [] ∧
      p.clusters = [c] ∧ accepts c = true ∧
      (Validate.run {} {}).run { files := depot tag } = (.ok (), console) := by
  rcases hread :
      (Project.cluster {} (depot tag) (Path.ofString "/clusters/prod/cluster.yaml")).run 0
    with e | ⟨c, next⟩
  · rw [hread] at h
    cases h
  rw [hread] at h
  have hfiles : Project.clusterFiles (depot tag) (((depot tag).absolute (Path.ofString ".")).child
      "clusters") = [Path.ofString "/clusters/prod/cluster.yaml"] := by
    have hnames : (depot tag).names (((depot tag).absolute (Path.ofString ".")).child "clusters") =
      ["prod"] := rfl
    rw [Project.clusterFiles, hnames, List.mergeSort_singleton]
    rfl
  have hload : Project.load {} (depot tag) (Path.ofString ".") =
      .ok { path := (depot tag).absolute (Path.ofString "."), templates := [],
            clusters := [c] } := by
    refine Project.load_eq_ok.mpr ⟨rfl, rfl, rfl, rfl,
      Project.repeated_eq_nil_iff.mpr List.nodup_nil, 0, next, rfl, ?_⟩
    rw [hfiles, List.mapM_cons, StateT.run_bind, hread]
    rfl
  -- without templates the checks have nothing to look at
  exact ⟨_, c, _, hload, rfl, rfl, h, Session.bind_eq_ok.mpr ⟨_, _, rfl,
    Session.bind_eq_ok.mpr ⟨_, _, rfl, Session.bind_eq_ok.mpr ⟨_, _,
      Session.lift_eq_ok.mpr ⟨hload, rfl⟩, rfl⟩⟩⟩⟩

/-- A cluster with its tag is generated. -/
theorem tagged_depot_generated :
    ∃ p c, Project.load {} (depot "    tag: v1\n") (Path.ofString ".") = .ok p ∧ c ∈ p.clusters ∧
      ∃ g, (Generator.generate Generate.noPlugins .new {} c p.templates {}).2 = .ok g := by
  obtain ⟨p, c, console, hload, htemplates, hclusters, hc, hrun⟩ := exists_depot "    tag: v1\n"
    (fun c => c.oci.any (·.tag == some "v1") && c.system.isNone) (by decide +kernel)
  rw [Bool.and_eq_true] at hc
  have hmem : c ∈ p.clusters := hclusters ▸ List.mem_cons_self
  have htag : ¬ c.LacksTag := by
    rintro ⟨source, hoci, -, hnone⟩
    rw [hoci, Option.any_some, beq_iff_eq] at hc
    rw [hc.1] at hnone
    cases hnone
  have htuning : c.TuningWritable := by
    intro t ht
    rw [Option.isNone_iff_eq_none.mp hc.2] at ht
    cases ht
  refine ⟨p, c, hload, hmem, ?_⟩
  refine (generate_of_validate (a := {}) rfl rfl hload ?_ rfl hrun c hmem).2.2 htag htuning
  rw [htemplates]
  exact fun t ht => absurd ht List.not_mem_nil

/-- **What validates need not be generated.** Without a tag the command accepts the project all the
same, and its cluster is refused. -/
theorem untagged_depot_refused :
    ∃ p c console, Project.load {} (depot "") (Path.ofString ".") = .ok p ∧ c ∈ p.clusters ∧
      (∀ t ∈ p.templates, ∀ ks ∈ t.kustomizations, ks.WellTyped) ∧
      (Validate.run {} {}).run { files := depot "" } = (.ok (), console) ∧
      (Generator.generate Generate.noPlugins .new {} c p.templates {}).2 =
        .error (.configuration (.noTag "prod")) := by
  obtain ⟨p, c, console, hload, htemplates, hclusters, hc, hrun⟩ := exists_depot ""
    (fun c => c.oci.any (fun s => s.tagStrategy == "manual" && s.tag.isNone) && c.name == "prod")
    (by decide +kernel)
  rw [Bool.and_eq_true, beq_iff_eq] at hc
  have htyped : ∀ t ∈ p.templates, ∀ ks ∈ t.kustomizations, ks.WellTyped := by
    rw [htemplates]
    exact fun t ht => absurd ht List.not_mem_nil
  have htag : c.LacksTag := by
    rcases hoci : c.oci with _ | source
    · rw [hoci] at hc
      cases hc.1
    · rw [hoci, Option.any_some, Bool.and_eq_true, beq_iff_eq, Option.isNone_iff_eq_none] at hc
      exact ⟨source, hoci, hc.1.1, by rw [hc.1.2]; rfl⟩
  have hmem : c ∈ p.clusters := hclusters ▸ List.mem_cons_self
  have hchecked := Validate.checked_of_run (a := {}) rfl rfl hload hrun c hmem
  have hks : ∀ d ∈ declared p.templates, d.2.WellTyped := by
    rw [htemplates]
    exact fun d hd => absurd hd List.not_mem_nil
  refine ⟨p, c, console, hload, hmem, htyped, hrun, ?_⟩
  rw [← hc.2]
  exact (Generator.generate_of_checked hchecked hks rfl).1 htag

end CommandLine

end FluxFleet
