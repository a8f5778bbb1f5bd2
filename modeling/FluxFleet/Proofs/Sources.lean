import FluxFleet.Proofs.Emission

/-!
# The source that manifests name

A cluster with a registry of artifacts gets a repository, and its manifests name it. Both are made
of the same settings, by different functions, into different documents; `Manifest.PulledFrom` says
that the documents agree where the one refers to the other. The settings come from the cluster or,
if it gives none or an empty text, from the generator (`FirstGiven`). So in what is built for such a
cluster all manifests, preserved or not, name the repository that is there, and for any other
cluster there is none (`sources_generated`).
-/

namespace FluxFleet

/-- What a document has at the end of a path of keys. -/
def Value.at? (path : List String) (doc : Value) : Option Value :=
  path.foldlM (fun v key => Manifest.child? key v) doc

/-- The cluster's text if it gives one that is not empty, and the generator's option otherwise. -/
def Settings.FirstGiven (own : Option String) (option v : Value) : Prop :=
  (∃ s, own = some s ∧ s ≠ "" ∧ v = .str s) ∨ ((own = none ∨ own = some "") ∧ v = option)

/-- The document of a manifest refers to the document of a source. -/
structure Manifest.PulledFrom (doc source : Value) : Prop where
  kind : doc.at? ["spec", "sourceRef", "kind"] = source.at? ["kind"]
  name : doc.at? ["spec", "sourceRef", "name"] = source.at? ["metadata", "name"]
  ns : doc.at? ["metadata", "namespace"] = source.at? ["metadata", "namespace"]
  interval : doc.at? ["spec", "interval"] = source.at? ["spec", "interval"]

/-! ## Settings -/

namespace Settings

theorem firstGiven_prefer (own : Option String) (option : Value) :
    FirstGiven own option (prefer own option) := by
  rcases own with _ | s
  · exact Or.inr ⟨Or.inl rfl, rfl⟩
  · by_cases hs : s = ""
    · subst hs
      exact Or.inr ⟨Or.inr rfl, rfl⟩
    · refine Or.inl ⟨s, rfl, hs, ?_⟩
      rw [prefer, if_neg]
      rwa [String.isEmpty_iff]

/-- A setting of the cluster stands before the option of the generator. -/
theorem firstGiven_default (cluster : Cluster) {field : ClusterDefaults → Option String}
    (hfield : field {} = none) (option : Value) :
    FirstGiven (cluster.defaults.bind field) option
      (prefer (field (cluster.defaults.getD {})) option) := by
  rcases cluster.defaults with _ | own
  · rw [Option.getD_none, hfield]
    exact firstGiven_prefer none option
  · exact firstGiven_prefer (field own) option

end Settings

/-! ## Documents -/

namespace Manifest

theorem at?_cons (key : String) (path : List String) (doc : Value) :
    doc.at? (key :: path) = (child? key doc).bind (·.at? path) := rfl

/-- A manifest names its source in its specification. -/
theorem child?_sourceRef (m : Manifest) : child? "sourceRef" m.spec =
    some (.record [("kind", .str m.sourceKind.resource), ("name", m.sourceName)]) := by
  rw [spec, child?_record]
  simp (disch := decide) only [List.find?_append, Value.find?_optional, find?_listField,
    Option.or_none]
  rfl

theorem at?_source (m : Manifest) (key : String) : m.document.at? ["spec", "sourceRef", key] =
    child? key (.record [("kind", .str m.sourceKind.resource), ("name", m.sourceName)]) := by
  have hspec : child? "spec" m.document = some m.spec := rfl
  rw [at?_cons, hspec, Option.bind_some, at?_cons, child?_sourceRef]
  exact Option.bind_fun_some _

/-- A document has its namespace in its metadata. -/
theorem at?_namespace_of_metadata {doc name ns : Value}
    (h : child? "metadata" doc = some (metadata name ns)) :
    doc.at? ["metadata", "namespace"] = ns.given? := by
  have hgiven : child? "namespace" (metadata name ns) = ns.given? := by
    rw [metadata, child?_record, Value.optional, Value.given?]
    split <;> rfl
  rw [at?_cons, h, Option.bind_some, at?_cons, hgiven]
  exact Option.bind_fun_some _

theorem at?_namespace (m : Manifest) :
    m.document.at? ["metadata", "namespace"] = m.systemNamespace.given? :=
  at?_namespace_of_metadata (show _ = some (metadata (.str m.name) m.systemNamespace) from rfl)

theorem at?_interval (m : Manifest) : m.document.at? ["spec", "interval"] = some m.interval := rfl

end Manifest

namespace ArtifactRepository

variable (repo : ArtifactRepository)

theorem at?_kind : repo.document.at? ["kind"] = some (.str "OCIRepository") := rfl

theorem at?_name : repo.document.at? ["metadata", "name"] = some repo.name := rfl

theorem at?_namespace : repo.document.at? ["metadata", "namespace"] = repo.ns.given? :=
  Manifest.at?_namespace_of_metadata (show _ = some (metadata repo.name repo.ns) from rfl)

theorem at?_interval : repo.document.at? ["spec", "interval"] = some repo.interval := rfl

end ArtifactRepository

/-- A manifest refers to a repository that is made of the same settings. -/
theorem Manifest.pulledFrom_of_same {m : Manifest} {repo : ArtifactRepository}
    (hkind : m.sourceKind = .oci) (hname : m.sourceName = repo.name)
    (hns : m.systemNamespace = repo.ns) (hinterval : m.interval = repo.interval) :
    PulledFrom m.document repo.document where
  kind := by rw [at?_source, hkind, repo.at?_kind]; rfl
  name := by rw [at?_source, hname, repo.at?_name]; rfl
  ns := by rw [at?_namespace, hns, repo.at?_namespace]
  interval := by rw [at?_interval, hinterval, repo.at?_interval]

/-! ## What is built -/

namespace Generator

open Settings (FirstGiven)

variable {η π τ : Type} {cluster : Cluster} {d : GeneratorDefaults} {options : Options}
variable {resolved : List Resolved} {gen : Generation}

/-- The manifests of a result name the source that the cluster has. -/
structure Sourced (cluster : Cluster) (d : GeneratorDefaults) (gen : Generation) : Prop where
  /-- for a cluster with a registry of artifacts there is a repository, and all manifests name it -/
  pulled : ∀ source, cluster.oci = some source → ∃ repo, gen.repository = some repo ∧
    repo.document.at? ["kind"] = some (.str "OCIRepository") ∧
    repo.document.at? ["metadata", "name"] = some repo.name ∧
    repo.document.at? ["metadata", "namespace"] = repo.ns.given? ∧
    repo.document.at? ["spec", "interval"] = some repo.interval ∧
    FirstGiven (cluster.defaults.bind (·.sourceName)) d.sourceName repo.name ∧
    FirstGiven (cluster.defaults.bind (·.systemNamespace)) d.systemNamespace repo.ns ∧
    FirstGiven (cluster.defaults.bind (·.interval)) d.interval repo.interval ∧
    ∀ m ∈ gen.manifests, Manifest.PulledFrom m.manifest.document repo.document
  /-- for any other there is none -/
  cloned : cluster.oci = none → gen.repository = none ∧
    ∀ m ∈ gen.manifests,
      m.manifest.document.at? ["spec", "sourceRef", "kind"] = some (.str "GitRepository")

/-- A repository is made of the settings. -/
theorem repository_of_source {s : Settings} {source : ArtifactSource}
    {o : Option ArtifactRepository}
    (hsource : cluster.oci = some source) (h : repository cluster s = .ok o) :
    ∃ repo, o = some repo ∧ repo.name = s.sourceName ∧ repo.ns = s.systemNamespace ∧
      repo.interval = s.interval := by
  rw [repository, hsource] at h
  dsimp only at h
  rcases hrepo : ArtifactRepository.ofCluster cluster source s.sourceName s.systemNamespace
    s.interval with e | repo
  · rw [hrepo] at h
    cases h
  rw [hrepo] at h
  cases h
  obtain ⟨tag, -, hrepo⟩ := bind_eq_ok.mp hrepo
  cases hrepo
  exact ⟨_, rfl, rfl, rfl, rfl⟩

theorem sourced_of_build
    (h : build cluster (Settings.ofCluster cluster d) options resolved = .ok gen) :
    Sourced cluster d gen := by
  obtain ⟨_, repository, _, _, -, hrepository, -, -, hgen⟩ := build_eq_ok h
  have hgenerated : gen.repository = repository := by rw [hgen]
  -- a manifest is rendered from its kustomization, but what it says of the source is in the
  -- settings
  have hmanifests : ∀ m ∈ gen.manifests,
      m.manifest.sourceKind = (Settings.ofCluster cluster d).sourceKind ∧
      m.manifest.sourceName = (Settings.ofCluster cluster d).sourceName ∧
      m.manifest.systemNamespace = (Settings.ofCluster cluster d).systemNamespace ∧
      m.manifest.interval = (Settings.ofCluster cluster d).interval := by
    intro m hm
    obtain ⟨r, -, hrender⟩ := (mem_manifests h).mp hm
    obtain ⟨-, -, -, kept, hmanifest⟩ := render_eq_some hrender
    obtain ⟨-, -, hns, -⟩ := Manifest.ofResolved_eq_ok hmanifest
    obtain ⟨-, hinterval, hkind, hname⟩ := Manifest.settings_of_ofResolved hmanifest
    exact ⟨hkind, hname, hns, hinterval⟩
  constructor
  · intro source hsource
    have hoci : (Settings.ofCluster cluster d).sourceKind = .oci := by
      rw [Settings.ofCluster, hsource]
      rfl
    obtain ⟨repo, rfl, hname, hns, hinterval⟩ := repository_of_source hsource hrepository
    refine ⟨repo, hgenerated, repo.at?_kind, repo.at?_name, repo.at?_namespace, repo.at?_interval,
      ?_, ?_, ?_, fun m hm => ?_⟩
    · rw [hname]
      exact Settings.firstGiven_default cluster rfl _
    · rw [hns]
      exact Settings.firstGiven_default cluster rfl _
    · rw [hinterval]
      exact Settings.firstGiven_default cluster rfl _
    · obtain ⟨hkind, hmname, hmns, hminterval⟩ := hmanifests m hm
      exact Manifest.pulledFrom_of_same (hkind.trans hoci) (hmname.trans hname.symm)
        (hmns.trans hns.symm) (hminterval.trans hinterval.symm)
  · intro hnone
    have hgit : (Settings.ofCluster cluster d).sourceKind = .git := by
      rw [Settings.ofCluster, hnone]
      rfl
    refine ⟨?_, fun m hm => ?_⟩
    · rw [Generator.repository, hnone] at hrepository
      cases hrepository
      exact hgenerated
    · rw [Manifest.at?_source, (hmanifests m hm).1, hgit]
      rfl

/-- A cluster that pulls its manifests, leaves the name of the repository empty, sets the interval
and says nothing of the namespace. -/
def pulling : Cluster :=
  { closing with
    oci := some { registry := "registry.example", repository := "fleet", tagStrategy := "cluster" }
    defaults := some { sourceName := some "", interval := some "1h" } }

end Generator

end FluxFleet
