import FluxFleet.Generator
import FluxFleet.Proofs.Resolution

/-!
# What a run gives back

The registry's own hook is the only one if no plugin has registered any (`hooksOf_afterResolve`,
`hooksOf_beforeWrite`). So a run is a resolution, what that hook makes of it, and the result built
from that (`generate_eq`); if it succeeds, the values of providers are written over what is resolved
(`generate_eq_ok`). The manifests of the result are those that single kustomizations are rendered to
(`mem_manifests`).
-/

namespace FluxFleet

variable {η π τ : Type}

/-- A context with each of its kustomizations changed. -/
def Context.mapKustomizations (f : Resolved → Resolved) (c : Context) : Context :=
  { c with kustomizations := c.kustomizations.map f }

theorem Context.mapKustomizations_id (c : Context) : c.mapKustomizations id = c := by
  rw [Context.mapKustomizations, List.map_id]

theorem Context.mapKustomizations_comp (f g : Resolved → Resolved) (c : Context) :
    (c.mapKustomizations f).mapKustomizations g = c.mapKustomizations fun r => g (f r) := by
  simp only [Context.mapKustomizations, List.map_map, Function.comp_def]

namespace Registry

variable {plugins : Plugins η π τ} {providers : OrderedMap Value π} {c c' : Context}

/-- A registry with providers and no hook but its own. -/
def withProviders (providers : OrderedMap Value π) : Registry η π :=
  { (new : Registry η π) with providers }

theorem hooksOf_afterResolve :
    (withProviders providers : Registry η π).dispatcher.hooksOf afterResolve =
      [⟨ownPriority, .provide⟩] := rfl

theorem hooksOf_beforeWrite :
    (withProviders providers : Registry η π).dispatcher.hooksOf beforeWrite = [] := rfl

/-- What the provider of a type gives for a group of variables, if there is one and it answers. -/
def answered? (plugins : Plugins η π τ) (providers : OrderedMap Value π) (cluster : Cluster)
    (templates : List Template) (type : Value) (group : List Substitution) :
    Option (OrderedMap Value Value) := do
  let p ← providers.get? type
  let v ← (plugins.provide p (requestFor { cluster, templates } type group)).2.toOption
  (Provided.mapping v).toOption

/-- The answers for groups of variables, with their types. -/
def answers (plugins : Plugins η π τ) (providers : OrderedMap Value π) (cluster : Cluster)
    (templates : List Template) (groups : List (Value × List Substitution)) :
    List (Value × OrderedMap Value Value) :=
  groups.filterMap fun g =>
    (answered? plugins providers cluster templates g.1 g.2).map fun values => (g.1, values)

/-- Without providers nothing is answered. -/
theorem answers_empty (cluster : Cluster) (templates : List Template)
    (groups : List (Value × List Substitution)) :
    answers plugins .empty cluster templates groups = [] := by
  induction groups with
  | nil => rfl
  | cons g groups ih => exact ih

/-- Write answers over the values of a kustomization, in turn. -/
def overwrite (answers : List (Value × OrderedMap Value Value)) (r : Resolved) : Resolved :=
  answers.foldl (fun r a => Provided.apply a.1 a.2 r) r

/-- Providers that all answer change nothing but the values, and those by their answers. -/
theorem resolveGroups_eq_ok :
    ∀ {groups : List (Value × List Substitution)} {c : Context} {trace trace' : List τ},
      resolveGroups plugins providers groups c trace = (c', trace', .ok ()) →
        c' = c.mapKustomizations
          (overwrite (answers plugins providers c.cluster c.templates groups)) := by
  intro groups
  induction groups with
  | nil =>
    intro c trace trace' h
    cases h
    exact (Context.mapKustomizations_id c').symm
  | cons g groups ih =>
    obtain ⟨type, group⟩ := g
    intro c trace trace' h
    rw [resolveGroups] at h
    rcases hp : providers.get? type with _ | p
    · have hnone : answered? plugins providers c.cluster c.templates type group = none := by
        simp only [answered?, hp, Option.bind_eq_bind, Option.bind_none]
      rw [hp] at h
      rw [ih h, answers, answers, List.filterMap_cons_none (by rw [hnone]; rfl)]
    · rw [hp] at h
      -- a provider that fails ends the run
      rcases hv : (plugins.provide p (requestFor c type group)).2 with e | v
      · simp only [hv] at h
        cases h
      rcases hm : Provided.mapping v with e | values
      · simp only [hv, hm] at h
        cases h
      have hsome : answered? plugins providers c.cluster c.templates type group = some values := by
        have hv' : (plugins.provide p
            (requestFor { cluster := c.cluster, templates := c.templates } type group)).2 =
            .ok v := hv
        simp only [answered?, hp, hv', hm, Except.toOption, Option.bind_eq_bind, Option.bind_some]
      simp only [hv, hm] at h
      rw [ih h, answers, answers, List.filterMap_cons_some (by rw [hsome]; rfl)]
      exact Context.mapKustomizations_comp _ _ c

/-- What the registry's own hook does when it succeeds. -/
theorem dispatch_afterResolve_eq_ok
    (h : ((withProviders providers).dispatch plugins afterResolve c).2 = .ok c') :
    ((withProviders providers).dispatch plugins afterResolve c).1.dispatcher =
        (withProviders providers).dispatcher ∧
      ∃ groups, Resolution.external c.kustomizations = .ok groups ∧
        c' = c.mapKustomizations
          (overwrite (answers plugins providers c.cluster c.templates groups.entries)) := by
  rw [dispatch, Dispatcher.dispatch, hooksOf_afterResolve] at h ⊢
  simp only [Dispatch.run, answer, provideAll] at h ⊢
  rcases hgroups : Resolution.external c.kustomizations with e | groups
  · simp only [hgroups] at h
    cases h
  · simp only [hgroups] at h ⊢
    rcases hrun : resolveGroups plugins (withProviders providers : Registry η π).providers
      groups.entries c [] with ⟨left, trace, e | ⟨⟩⟩
    · simp only [hrun, Except.map] at h
      cases h
    · simp only [hrun, Except.map, Dispatch.handOver, Dispatch.absorb] at h ⊢
      cases h
      exact ⟨trivial, groups, rfl, resolveGroups_eq_ok hrun⟩

/-- With these hooks nothing happens before a result is written. -/
theorem dispatch_beforeWrite {r : Registry η π}
    (h : r.dispatcher = (withProviders providers : Registry η π).dispatcher) :
    (r.dispatch plugins beforeWrite c).2 = .ok c := by
  rw [dispatch, Dispatcher.dispatch, h, hooksOf_beforeWrite, Dispatch.run]

end Registry

namespace Generator

open Registry (withProviders overwrite answers)

variable {plugins : Plugins η π τ} {providers : OrderedMap Value π} {d : GeneratorDefaults}
variable {cluster : Cluster} {templates : List Template} {options : Options}
variable {s : Settings} {resolved : List Resolved} {gen : Generation}

/-- A run starts with what is resolved, after the checks unless they are skipped. -/
theorem start_eq_ok {c : Context} (h : start cluster templates options = .ok c) :
    (options.skipValidation = false → validate cluster templates = .ok ()) ∧
      ∃ resolved, Resolution.resolveAll cluster templates = .ok resolved ∧
        c = { cluster, templates, kustomizations := resolved } := by
  rw [start] at h
  rcases hskip : options.skipValidation with _ | _
  · rw [hskip] at h
    simp only [Bool.not_false, if_true] at h
    obtain ⟨_, hvalid, h⟩ := bind_eq_ok.mp h
    obtain ⟨resolved, hresolved, h⟩ := bind_eq_ok.mp h
    cases h
    exact ⟨fun _ => hvalid, resolved, hresolved, rfl⟩
  · rw [hskip] at h
    obtain ⟨resolved, hresolved, h⟩ := bind_eq_ok.mp h
    cases h
    exact ⟨nofun, resolved, hresolved, rfl⟩

/-- Templates that pass the checks have acyclic dependencies, all of them on known and enabled
kustomizations. -/
theorem validate_eq_ok (h : validate cluster templates = .ok ()) :
    (∃ order, Graph.validate templates = .ok order) ∧
      Enablement.disabledDependencies cluster templates = [] := by
  obtain ⟨_, horder, hcheck⟩ := bind_eq_ok.mp h
  exact ⟨discard_eq_ok.mp horder, Enablement.check_eq_ok.mp hcheck⟩

/-- A result stays as it is if no extension is set. -/
theorem finish_of_no_extension {c : Context} (h : c.extensions = .empty)
    (hresult : c.result = some gen) : finish c = .ok gen := by
  have hextension : c.extension additionalFiles .dict = .ok .null := by
    rw [Context.extension, h]
    rfl
  rw [finish, hresult]
  simp only [hextension]
  rfl

/-- A run without hooks of plugins: the start, the registry's own hook, and the result, which stays
as it is built. -/
theorem generate_eq : (generate plugins (withProviders providers) d cluster templates options).2 =
    (do
      let c ← start cluster templates options
      let c ← ((withProviders providers).dispatch plugins afterResolve c).2
      build cluster (Settings.ofCluster cluster d) options c.kustomizations) := by
  rw [generate]
  rcases hstart : start cluster templates options with e | c
  · rfl
  obtain ⟨-, resolved, -, rfl⟩ := start_eq_ok hstart
  change _ = (do
    let c ← ((withProviders providers).dispatch plugins afterResolve
      { cluster, templates, kustomizations := resolved }).2
    build cluster (Settings.ofCluster cluster d) options c.kustomizations)
  rcases hfirst : (withProviders providers).dispatch plugins afterResolve
      { cluster, templates, kustomizations := resolved } with ⟨first, e | c⟩
  · simp only [hfirst]
    rfl
  obtain ⟨hdispatcher, groups, -, rfl⟩ := Registry.dispatch_afterResolve_eq_ok
    (congrArg Prod.snd hfirst)
  rw [hfirst] at hdispatcher
  simp only [hfirst, Context.mapKustomizations]
  change _ = build cluster (Settings.ofCluster cluster d) options (resolved.map
    (overwrite (answers plugins providers cluster templates groups.entries)))
  rcases build cluster (Settings.ofCluster cluster d) options (resolved.map
      (overwrite (answers plugins providers cluster templates groups.entries))) with e | g
  · rfl
  · dsimp only
    rw [Registry.dispatch_beforeWrite hdispatcher, Except.bind, finish_of_no_extension]
    · rfl
    · rfl

/-- If it succeeds, its result is built from what is resolved, with the values of providers written
over it. -/
theorem generate_eq_ok
    (h : (generate plugins (withProviders providers) d cluster templates options).2 = .ok gen) :
    (options.skipValidation = false → validate cluster templates = .ok ()) ∧
      ∃ resolved groups, Resolution.resolveAll cluster templates = .ok resolved ∧
        Resolution.external resolved = .ok groups ∧
        build cluster (Settings.ofCluster cluster d) options (resolved.map
          (overwrite (answers plugins providers cluster templates groups.entries))) = .ok gen := by
  rw [generate_eq] at h
  obtain ⟨c, hstart, h⟩ := bind_eq_ok.mp h
  obtain ⟨c', hfirst, hbuild⟩ := bind_eq_ok.mp h
  obtain ⟨hvalid, resolved, hresolved, rfl⟩ := start_eq_ok hstart
  obtain ⟨-, groups, hgroups, rfl⟩ := Registry.dispatch_afterResolve_eq_ok hfirst
  exact ⟨hvalid, resolved, groups, hresolved, hgroups, hbuild⟩

/-- A run with any hooks, if it succeeds: some hooks leave what a result is built from, others what
is made of this result. -/
theorem generate_hooked_eq_ok {registry : Registry η π}
    (h : (generate plugins registry d cluster templates options).2 = .ok gen) :
    ∃ c first left g second after, start cluster templates options = .ok c ∧
      registry.dispatch plugins afterResolve c = (first, .ok left) ∧
      build cluster (Settings.ofCluster cluster d) options left.kustomizations = .ok g ∧
      Registry.dispatch plugins { registry with dispatcher := first.dispatcher } beforeWrite
        { left with result := some g } = (second, .ok after) ∧
      finish after = .ok gen := by
  rw [generate] at h
  rcases hstart : start cluster templates options with e | c
  · rw [hstart] at h
    cases h
  rw [hstart] at h
  rcases hfirst : registry.dispatch plugins afterResolve c with ⟨first, e | left⟩
  · simp only [hfirst] at h
    cases h
  simp only [hfirst] at h
  rcases hbuild : build cluster (Settings.ofCluster cluster d) options left.kustomizations with
    e | g
  · simp only [hbuild] at h
    cases h
  simp only [hbuild] at h
  rcases hsecond : Registry.dispatch plugins { registry with dispatcher := first.dispatcher }
      beforeWrite { left with result := some g } with ⟨second, e | after⟩
  · simp only [hsecond] at h
    cases h
  simp only [hsecond] at h
  exact ⟨c, first, left, g, second, after, rfl, hfirst, hbuild, hsecond, h⟩

/-- The stages of a run that gives `gen`: hooks leave the context `left`, from which `built` is
built, and other hooks make `gen` of this. -/
def Stages (plugins : Plugins η π τ) (registry : Registry η π) (d : GeneratorDefaults)
    (cluster : Cluster) (templates : List Template) (options : Options) (left : Context)
    (built gen : Generation) : Prop :=
  ∃ c first second after, start cluster templates options = .ok c ∧
    registry.dispatch plugins afterResolve c = (first, .ok left) ∧
    build cluster (Settings.ofCluster cluster d) options left.kustomizations = .ok built ∧
    Registry.dispatch plugins { registry with dispatcher := first.dispatcher } beforeWrite
      { left with result := some built } = (second, .ok after) ∧
    finish after = .ok gen

theorem exists_stages {registry : Registry η π}
    (h : (generate plugins registry d cluster templates options).2 = .ok gen) :
    ∃ left built, Stages plugins registry d cluster templates options left built gen := by
  obtain ⟨c, first, left, built, second, after, hstages⟩ := generate_hooked_eq_ok h
  exact ⟨left, built, c, first, second, after, hstages⟩

theorem Stages.build {registry : Registry η π} {left : Context} {built : Generation}
    (h : Stages plugins registry d cluster templates options left built gen) :
    Generator.build cluster (Settings.ofCluster cluster d) options left.kustomizations =
      .ok built := by
  obtain ⟨_, _, _, _, -, -, hbuild, -⟩ := h
  exact hbuild

/-! ## Manifests -/

/-- What a result is built from: each kustomization is rendered, whether to a manifest or not. -/
theorem build_eq_ok (h : build cluster s options resolved = .ok gen) :
    ∃ row repository controllerPatches names,
      resolved.mapM (render s options.includePreserved) = .ok row ∧
      Generator.repository cluster s = .ok repository ∧
      Patch.ofSystem? cluster.system = .ok controllerPatches ∧
      Namespaces.names resolved = .ok names ∧
      gen = { cluster := cluster.name, directory := options.directory,
              manifests := row.filterMap id, repository,
              namespaces := names.map fun n => { name := .str n }, controllerPatches } := by
  obtain ⟨manifests, hmanifests, h⟩ := bind_eq_ok.mp h
  obtain ⟨repository, hrepository, h⟩ := bind_eq_ok.mp h
  obtain ⟨controllerPatches, hpatches, h⟩ := bind_eq_ok.mp h
  obtain ⟨names, hnames, h⟩ := bind_eq_ok.mp h
  cases h
  obtain ⟨row, hrow, hmanifests⟩ := bind_eq_ok.mp hmanifests
  cases hmanifests
  exact ⟨row, repository, controllerPatches, names, hrow, hrepository, hpatches, hnames, rfl⟩

/-- The manifests of a result are those that kustomizations are rendered to. -/
theorem mem_manifests (h : build cluster s options resolved = .ok gen) {m : Generated} :
    m ∈ gen.manifests ↔ ∃ r ∈ resolved, render s options.includePreserved r = .ok (some m) := by
  obtain ⟨row, _, _, _, hrow, -, -, -, rfl⟩ := build_eq_ok h
  rw [List.mem_filterMap, ← mem_iff_of_mapM_eq_ok hrow]
  constructor
  · rintro ⟨o, ho, rfl⟩
    exact ho
  · intro ho
    exact ⟨some m, ho, rfl⟩

/-- What a kustomization is rendered to: an enabled one to its manifest, a disabled one, if that is
asked for and it keeps resources, to a preserved manifest, and any other one to nothing. -/
theorem render_eq_ok {includePreserved : Bool} {r : Resolved} {o : Option Generated}
    (h : render s includePreserved r = .ok o) :
    (r.enabled.truthy = true ∧ ∃ manifest, Manifest.ofResolved r s [] false = .ok manifest ∧
      o = some { name := r.name, template := r.template.name, manifest }) ∨
    (r.enabled.truthy = false ∧ includePreserved = true ∧ ∃ kinds manifest,
      r.preservation.kinds = .ok kinds ∧ kinds ≠ [] ∧
      Manifest.ofResolved r s kinds true = .ok manifest ∧
      o = some { name := r.name, template := r.template.name, manifest, preserved := true }) ∨
    (r.enabled.truthy = false ∧ (includePreserved = false ∨ r.preservation.kinds = .ok []) ∧
      o = none) := by
  rw [render] at h
  by_cases hon : r.enabled.truthy = true
  · rw [if_pos hon] at h
    obtain ⟨manifest, hmanifest, h⟩ := bind_eq_ok.mp h
    cases h
    exact Or.inl ⟨hon, manifest, hmanifest, rfl⟩
  · rw [if_neg hon] at h
    rw [Bool.not_eq_true] at hon
    cases includePreserved with
    | false =>
      cases h
      exact Or.inr (Or.inr ⟨hon, Or.inl rfl, rfl⟩)
    | true =>
      obtain ⟨kinds, hkinds, h⟩ := bind_eq_ok.mp h
      cases kinds with
      | nil =>
        cases h
        exact Or.inr (Or.inr ⟨hon, Or.inr hkinds, rfl⟩)
      | cons kind kinds =>
        obtain ⟨manifest, hmanifest, h⟩ := bind_eq_ok.mp h
        cases h
        exact Or.inr (Or.inl ⟨hon, rfl, kind :: kinds, manifest, hkinds, List.cons_ne_nil _ _,
          hmanifest, rfl⟩)

/-- A manifest carries the names of its kustomization, and it is preserved exactly if the
kustomization is disabled. -/
theorem render_eq_some {includePreserved : Bool} {r : Resolved} {m : Generated}
    (h : render s includePreserved r = .ok (some m)) :
    m.name = r.name ∧ m.template = r.template.name ∧ m.preserved = !r.enabled.truthy ∧
      ∃ kept, Manifest.ofResolved r s kept m.preserved = .ok m.manifest := by
  rcases render_eq_ok h with ⟨hon, manifest, hmanifest, ho⟩ |
    ⟨hoff, -, kinds, manifest, -, -, hmanifest, ho⟩ | ⟨-, -, ho⟩
  · cases ho
    exact ⟨rfl, rfl, by rw [hon]; rfl, [], hmanifest⟩
  · cases ho
    exact ⟨rfl, rfl, by rw [hoff]; rfl, kinds, hmanifest⟩
  · cases ho

/-- A kustomization that is enabled gets a manifest. -/
theorem exists_manifest (h : build cluster s options resolved = .ok gen) {r : Resolved}
    (hr : r ∈ resolved) (hon : r.enabled.truthy = true) :
    ∃ m ∈ gen.manifests, render s options.includePreserved r = .ok (some m) := by
  obtain ⟨row, _, _, _, hrow, -, -, -, -⟩ := build_eq_ok h
  obtain ⟨o, -, ho⟩ := exists_of_mapM_eq_ok hrow hr
  have hsome := ho
  rw [render, if_pos hon] at hsome
  obtain ⟨manifest, -, hpure⟩ := bind_eq_ok.mp hsome
  cases hpure
  exact ⟨_, (mem_manifests h).mpr ⟨r, hr, ho⟩, ho⟩

end Generator

/-- What a manifest takes over from its kustomization. -/
theorem Manifest.ofResolved_eq_ok {r : Resolved} {s : Settings} {kept : List Value}
    {preserved : Bool} {m : Manifest} (h : ofResolved r s kept preserved = .ok m) :
    m.name = r.name ∧ m.values = r.values ∧ m.systemNamespace = s.systemNamespace ∧
      r.kustomization.dependsOn.mapM (requirement r) = .ok m.dependsOn := by
  obtain ⟨_, -, h⟩ := bind_eq_ok.mp h
  obtain ⟨dependsOn, hdependsOn, h⟩ := bind_eq_ok.mp h
  obtain ⟨_, -, h⟩ := bind_eq_ok.mp h
  obtain ⟨path, -, h⟩ := bind_eq_ok.mp h
  cases h
  exact ⟨rfl, rfl, rfl, hdependsOn⟩

/-- What it takes over from the settings, and where it goes. -/
theorem Manifest.settings_of_ofResolved {r : Resolved} {s : Settings} {kept : List Value}
    {preserved : Bool} {m : Manifest} (h : ofResolved r s kept preserved = .ok m) :
    m.targetNamespace = r.targetNamespace ∧ m.interval = s.interval ∧
      m.sourceKind = s.sourceKind ∧ m.sourceName = s.sourceName := by
  obtain ⟨_, -, h⟩ := bind_eq_ok.mp h
  obtain ⟨dependsOn, -, h⟩ := bind_eq_ok.mp h
  obtain ⟨_, -, h⟩ := bind_eq_ok.mp h
  obtain ⟨path, -, h⟩ := bind_eq_ok.mp h
  cases h
  exact ⟨rfl, rfl, rfl, rfl⟩

/-- A kustomization with nothing but what it waits for. -/
def Kustomization.bare (name : String) (dependsOn : List Dependency) : Kustomization :=
  { name, path := "./" ++ name, target := none, substitutions := [], dependsOn, healthChecks := [],
    healthExpressions := [], prune := .bool true, wait := .bool true, timeout := .null,
    retryInterval := .null, enabled := .bool true, preservation := none }

end FluxFleet
