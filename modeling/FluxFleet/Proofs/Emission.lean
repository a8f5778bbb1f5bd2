import FluxFleet.Proofs.Precedence

/-!
# Which kustomizations get a manifest

Each resolved kustomization comes to one manifest or to none (`Resolved.Emits`). An enabled one is
deployed as it is, without patches and with its own prune flag. A disabled one is only kept if that
is asked for and there are kinds of resources to keep; its manifest is never pruned and labels these
kinds. The manifests of a run are those of its kustomizations in their order (`Emitted`), whatever
hooks have made of them.

Which kinds are kept follows from two policies, that of the template and that of the cluster's
override (`Kustomization.keptUnder`). Providers change values only, so in a run without hooks of
plugins the kinds are these (`manifests_emitted`).
-/

namespace FluxFleet

/-! ## Kinds to keep -/

/-- The kinds of resources that a mode keeps, if the policy lists `listed`. -/
def PreservationMode.kept (listed : List Value) : PreservationMode → List Value
  | .none => []
  | .stateful => Preservation.statefulKinds
  | .custom => listed

/-- The kinds that a policy keeps; without a list there are none for the custom mode. -/
def Preservation.kept (p : Preservation) : List Value :=
  p.mode.kept ((p.keepResources.given?.bind Value.items?).getD [])

/-- The policy that an override sets, if it does. -/
def Override.policy? : Override → Option Preservation
  | .switch _ => none
  | .adjust _ policy => policy

/-- The kinds that are kept of a kustomization under a selection of its template. The mode is that
of the override's policy, or else that of the template's, which is stateful by default. The list is
that of the override's policy if that has one, or else that of the template's. -/
def Kustomization.keptUnder (ks : Kustomization) (selection : Option Selection) : List Value :=
  let override? := (selection.bind (·.override? ks)).bind Override.policy?
  let mode := ((override?.or ks.preservation).map (·.mode)).getD .stateful
  let list? := (override?.bind (·.keepResources.given?)).or
    (ks.preservation.bind (·.keepResources.given?))
  mode.kept ((list?.bind Value.items?).getD [])

namespace Value

theorem items?_of_not_truthy {v : Value} (h : v.truthy = false) : v.items?.getD [] = [] := by
  cases v <;> simp_all [truthy, items?]
  case list mark _ | tuple mark _ => cases mark <;> rfl

theorem given?_bind_items? (v : Value) : v.given?.bind items? = v.items? := by
  cases v <;> rfl

/-- A value stands in for another one that is absent. -/
theorem given?_of_absent (v w : Value) :
    (if v.isNull then w else v).given? = v.given?.or w.given? := by
  by_cases hnull : v.isNull = true
  · have hnone : v.given? = none := if_pos hnull
    rw [if_pos hnull, hnone, Option.none_or]
  · have hsome : v.given? = some v := if_neg hnull
    rw [if_neg hnull, hsome, Option.some_or]

/-- What is run through are the items, none if there are none to run through. -/
theorem eachGiven_eq_ok {v : Value} {items : List Value} (h : v.eachGiven = .ok items) :
    v.items?.getD [] = items := by
  rw [eachGiven] at h
  split at h
  · rw [each] at h
    split at h
    · next hitems =>
      cases h
      rw [hitems, Option.getD_some]
    · cases h
  · next hgiven =>
    cases h
    exact items?_of_not_truthy (Bool.eq_false_iff.mpr hgiven)

end Value

theorem Preservation.kept_of_kinds {p : Preservation} {kinds : List Value}
    (h : p.kinds = .ok kinds) : p.kept = kinds := by
  rw [kept, Value.given?_bind_items?]
  obtain ⟨mode, keepResources⟩ := p
  cases mode with
  | none =>
    cases h
    rfl
  | stateful =>
    cases h
    rfl
  | custom => exact Value.eachGiven_eq_ok h

/-- The policy of a kustomization under a selection keeps what its two policies say together. -/
theorem Kustomization.kept_preservationUnder (ks : Kustomization) (selection : Option Selection) :
    (ks.preservationUnder selection).kept = ks.keptUnder selection := by
  rw [preservationUnder, keptUnder, Preservation.kept]
  rcases hover : selection.bind (·.override? ks) with _ | ⟨on⟩ | ⟨enabled, _ | p⟩
  case some.adjust.some =>
    -- the mode is that of the override's policy, and only its list may be absent
    simp only [Value.given?_of_absent, Option.bind_some, Override.policy?]
    cases ks.preservation <;> rfl
  all_goals
    cases ks.preservation <;> rfl

/-! ## Manifests -/

theorem Manifest.patches_of_ofResolved {r : Resolved} {s : Settings} {kept : List Value}
    {preserved : Bool} {m : Manifest} (h : ofResolved r s kept preserved = .ok m) :
    m.patches = kept.map Patch.preserving ∧
      ∀ prune, r.kustomization.prune = .bool prune → m.prune = .bool (prune && !preserved) := by
  obtain ⟨_, -, h⟩ := bind_eq_ok.mp h
  obtain ⟨_, -, h⟩ := bind_eq_ok.mp h
  obtain ⟨_, -, h⟩ := bind_eq_ok.mp h
  obtain ⟨_, -, h⟩ := bind_eq_ok.mp h
  cases h
  refine ⟨rfl, fun prune hprune => ?_⟩
  simp only [hprune]
  cases prune <;> rfl

/-- A generated manifest carries the names of a kustomization. -/
structure Generated.Names (m : Generated) (r : Resolved) : Prop where
  name : m.name = r.name
  template : m.template = r.template.name
  manifest : m.manifest.name = r.name

/-- What a resolved kustomization comes to, if `kinds` are the kinds of resources kept of it. -/
inductive Resolved.Emits (includePreserved : Bool) (kinds : List Value) (r : Resolved) :
    Option Generated → Prop
  /-- an enabled one is deployed -/
  | deployed {m : Generated} (on : r.enabled.truthy = true) (names : m.Names r)
      (preserved : m.preserved = false) (patches : m.manifest.patches = [])
      (prune : m.manifest.prune = r.kustomization.prune) : Emits includePreserved kinds r (some m)
  /-- a disabled one with something to keep is preserved, if that is asked for -/
  | preserved {m : Generated} (off : r.enabled.truthy = false) (included : includePreserved = true)
      (keeps : kinds ≠ []) (names : m.Names r) (preserved : m.preserved = true)
      (patches : m.manifest.patches = kinds.map Patch.preserving)
      (targets : m.manifest.patches.map (·.kind) = kinds)
      (prune : m.manifest.prune = .bool false) : Emits includePreserved kinds r (some m)
  /-- any other one is dropped -/
  | dropped (off : r.enabled.truthy = false) (nothing : includePreserved = false ∨ kinds = []) :
      Emits includePreserved kinds r none

/-- The manifests are what the kustomizations come to, in their order. -/
def Emitted (includePreserved : Bool) (kinds : Resolved → List Value) (resolved : List Resolved)
    (generated : List Generated) : Prop :=
  ∃ row, List.Forall₂ (fun r o => r.Emits includePreserved (kinds r) o) resolved row ∧
    generated = row.filterMap id

namespace Generator

open Registry (withProviders overwrite answers)

variable {s : Settings} {includePreserved : Bool}

/-- Rendering a kustomization emits what it should. -/
theorem emits_of_render {r : Resolved} {o : Option Generated}
    (hprune : ∃ b, r.kustomization.prune = .bool b) (h : render s includePreserved r = .ok o) :
    r.Emits includePreserved r.preservation.kept o := by
  obtain ⟨b, hb⟩ := hprune
  rcases render_eq_ok h with ⟨hon, manifest, hmanifest, rfl⟩ |
    ⟨hoff, hincluded, kinds, manifest, hkinds, hne, hmanifest, rfl⟩ | ⟨hoff, hnothing, rfl⟩
  · obtain ⟨hname, -⟩ := Manifest.ofResolved_eq_ok hmanifest
    obtain ⟨hpatches, hprune⟩ := Manifest.patches_of_ofResolved hmanifest
    refine .deployed hon ⟨rfl, rfl, hname⟩ rfl hpatches ?_
    rw [hprune b hb, hb, Bool.not_false, Bool.and_true]
  · obtain ⟨hname, -⟩ := Manifest.ofResolved_eq_ok hmanifest
    obtain ⟨hpatches, hprune⟩ := Manifest.patches_of_ofResolved hmanifest
    rw [Preservation.kept_of_kinds hkinds]
    refine .preserved hoff hincluded hne ⟨rfl, rfl, hname⟩ rfl hpatches ?_ ?_
    · rw [hpatches, List.map_map]
      exact List.map_id kinds
    · rw [hprune b hb, Bool.not_true, Bool.and_false]
  · exact .dropped hoff (hnothing.imp_right Preservation.kept_of_kinds)

/-- So does rendering a list of kustomizations. -/
theorem emitted_of_renderAll {resolved : List Resolved} {generated : List Generated}
    (hprune : ∀ r ∈ resolved, ∃ b, r.kustomization.prune = .bool b)
    (h : renderAll s includePreserved resolved = .ok generated) :
    Emitted includePreserved (fun r => r.preservation.kept) resolved generated := by
  obtain ⟨row, hrow, h⟩ := bind_eq_ok.mp h
  cases h
  have hboth := (List.forall₂_and_left _ _).mpr ⟨hprune, mapM_eq_ok_iff.mp hrow⟩
  exact ⟨row, hboth.imp fun _ _ hr => emits_of_render hr.1 hr.2, rfl⟩

theorem renderAll_of_build {cluster : Cluster} {options : Options} {resolved : List Resolved}
    {gen : Generation} (h : build cluster s options resolved = .ok gen) :
    renderAll s options.includePreserved resolved = .ok gen.manifests := by
  obtain ⟨row, _, _, _, hrow, -, -, -, rfl⟩ := build_eq_ok h
  exact bind_eq_ok.mpr ⟨row, hrow, rfl⟩

/-- A kustomization that is resolved for a run has the policy that its template and its override
give. -/
theorem kept_of_mem {cluster : Cluster} {templates : List Template} {resolved : List Resolved}
    (h : Resolution.resolveAll cluster templates = .ok resolved) {r : Resolved}
    (hr : r ∈ resolved) : r.preservation.kept =
      r.kustomization.keptUnder (cluster.selection? (.str r.template.name)) := by
  obtain ⟨t, ks, s, -, hsel, hres⟩ := (Resolution.mem_resolveAll h).mp hr
  obtain ⟨_, -, hres⟩ := bind_eq_ok.mp hres
  cases hres
  rw [hsel]
  exact Kustomization.kept_preservationUnder ks (some s)

/-- Values have no part in what is emitted. -/
theorem emits_of_values {r : Resolved} {kinds : List Value} {values : OrderedMap Value Value}
    {o : Option Generated}
    (h : Resolved.Emits includePreserved kinds { r with values } o) :
    r.Emits includePreserved kinds o := by
  cases h with
  | deployed on names preserved patches prune =>
    exact .deployed on ⟨names.name, names.template, names.manifest⟩ preserved patches prune
  | preserved off included keeps names preserved patches targets prune =>
    exact .preserved off included keeps ⟨names.name, names.template, names.manifest⟩ preserved
      patches targets prune
  | dropped off nothing => exact .dropped off nothing

/-- So what is emitted after a change of values is emitted without it. -/
theorem emitted_of_map {resolved : List Resolved} {generated : List Generated}
    {kinds : Resolved → List Value} {f : Resolved → Resolved}
    (hf : ∀ r, f r = { r with values := (f r).values })
    (hkinds : ∀ r ∈ resolved, r.preservation.kept = kinds r)
    (h : Emitted includePreserved (fun r => r.preservation.kept) (resolved.map f) generated) :
    Emitted includePreserved kinds resolved generated := by
  obtain ⟨row, hrow, hgenerated⟩ := h
  rw [List.forall₂_map_left_iff] at hrow
  have hboth := (List.forall₂_and_left _ _).mpr ⟨hkinds, hrow⟩
  refine ⟨row, hboth.imp fun r o hr => ?_, hgenerated⟩
  have hemits : (f r).Emits includePreserved (f r).preservation.kept o := hr.2
  have hsame : (f r).preservation = r.preservation := by rw [hf r]
  rw [hsame, hr.1, hf r] at hemits
  exact emits_of_values hemits

/-- **Emission.** Whatever resolved kustomizations hooks have left, the manifests are what these
come to: the enabled ones are deployed with their own prune flag, and the disabled ones that keep
resources are preserved if that is asked for, without being pruned and with a patch for each kind
that is kept. So it is in every run, with the manifests that are handed to the hooks before writing.
Without hooks of plugins, the kustomizations are those that are resolved, and the kinds follow from
the policies of the template and of the cluster's override. -/
theorem manifests_emitted {η π τ : Type} :
    (∀ (s : Settings) (includePreserved : Bool) (resolved : List Resolved)
        (generated : List Generated),
      (∀ r ∈ resolved, ∃ b, r.kustomization.prune = .bool b) →
      renderAll s includePreserved resolved = .ok generated →
        Emitted includePreserved (fun r => r.preservation.kept) resolved generated) ∧
    (∀ (plugins : Plugins η π τ) (registry : Registry η π) (d : GeneratorDefaults)
        (cluster : Cluster) (templates : List Template) (options : Options) (gen : Generation),
      (generate plugins registry d cluster templates options).2 = .ok gen →
        ∃ c first left g second after, start cluster templates options = .ok c ∧
          registry.dispatch plugins afterResolve c = (first, .ok left) ∧
          ((∀ r ∈ left.kustomizations, ∃ b, r.kustomization.prune = .bool b) →
            Emitted options.includePreserved (fun r => r.preservation.kept) left.kustomizations
              g.manifests) ∧
          Registry.dispatch plugins { registry with dispatcher := first.dispatcher } beforeWrite
            { left with result := some g } = (second, .ok after) ∧
          finish after = .ok gen) ∧
    (∀ (plugins : Plugins η π τ) (providers : OrderedMap Value π) (d : GeneratorDefaults)
        (cluster : Cluster) (templates : List Template) (options : Options) (gen : Generation),
      (∀ t ∈ templates, ∀ ks ∈ t.kustomizations, ∃ b, ks.prune = .bool b) →
      (generate plugins (withProviders providers) d cluster templates options).2 = .ok gen →
        ∃ resolved, Resolution.resolveAll cluster templates = .ok resolved ∧
          Emitted options.includePreserved
            (fun r => r.kustomization.keptUnder (cluster.selection? (.str r.template.name)))
            resolved gen.manifests) := by
  refine ⟨fun s includePreserved resolved generated => emitted_of_renderAll, ?_, ?_⟩
  · intro plugins registry d cluster templates options gen h
    obtain ⟨c, first, left, g, second, after, hstart, hfirst, hbuild, hsecond, hfinish⟩ :=
      generate_hooked_eq_ok h
    exact ⟨c, first, left, g, second, after, hstart, hfirst,
      fun hprune => emitted_of_renderAll hprune (renderAll_of_build hbuild), hsecond, hfinish⟩
  · intro plugins providers d cluster templates options gen hprune h
    obtain ⟨-, resolved, groups, hresolved, -, hbuild⟩ := generate_eq_ok h
    -- the registry's own hook leaves all but the values of what is resolved
    have hvalues :=
      Registry.overwrite_eq (answers plugins providers cluster templates groups.entries)
    refine ⟨resolved, hresolved, emitted_of_map hvalues (fun r hr => kept_of_mem hresolved hr) ?_⟩
    refine emitted_of_renderAll (fun r' hr' => ?_) (renderAll_of_build hbuild)
    obtain ⟨r, hr, rfl⟩ := List.mem_map.mp hr'
    obtain ⟨hd, -⟩ := Resolution.enabled_of_mem hresolved hr
    obtain ⟨ht, hks⟩ := Graph.mem_declared.mp hd
    rw [hvalues r]
    exact hprune _ ht _ hks

/-! ## A shop that keeps its secrets -/

/-- A shop without a cache, whose database lists what is to be kept of it. -/
def keeper : Template :=
  { name := "shop"
    kustomizations := [Kustomization.bare "web" [],
      { Kustomization.bare "db" [] with
        preservation := some { mode := .none, keepResources := .ofList ["Secret"] } },
      { Kustomization.bare "cache" [] with
        enabled := .bool false, preservation := some { mode := .none } }]
    versions := [] }

/-- A cluster that switches the database off and wants what is listed to be kept. -/
def closing : Cluster :=
  { name := "closing"
    selections := [{ name := "shop", overrides :=
      ⟨[("db", .adjust (.bool false) (some { mode := .custom }))]⟩ }] }

theorem prune_keeper : ∀ t ∈ [keeper], ∀ ks ∈ t.kustomizations, ∃ b, ks.prune = .bool b := by
  simp [keeper, Kustomization.bare]

/-- The web of the shop is deployed; of the database the mode of the cluster and the list of the
template keep the secrets; the cache is dropped. -/
theorem closing_keeps_secrets :
    ∃ gen web db, (generate constantly vaults {} closing [keeper] { includePreserved := true }).2 =
        .ok gen ∧ gen.manifests = [web, db] ∧
      web.name = "shop-web" ∧ web.manifest.patches = [] ∧ web.manifest.prune = .bool true ∧
      db.name = "shop-db" ∧ db.manifest.patches = [.preserving "Secret"] ∧
      db.manifest.prune = .bool false := by
  have hrun : (generate constantly vaults {} closing [keeper] { includePreserved := true }).2 =
    .ok _ := rfl
  obtain ⟨resolved, hresolved, row, hrow, hmanifests⟩ :=
    manifests_emitted.2.2 constantly _ _ _ _ _ _ prune_keeper hrun
  have hthree : Resolution.resolveAll closing [keeper] = .ok [_, _, _] := rfl
  obtain rfl := Except.ok.inj (hthree.symm.trans hresolved)
  cases hrow with | cons hweb hrow =>
  cases hrow with | cons hdb hrow =>
  cases hrow with | cons hcache hrow =>
  cases hrow
  cases hweb with
  | dropped off _ => cases off
  | preserved off _ _ _ _ _ _ _ => cases off
  | @deployed web _ hwebNames _ hwebPatches hwebPrune =>
  cases hdb with
  | dropped _ nothing => rcases nothing with h | h <;> cases h
  | deployed on _ _ _ _ => cases on
  | @preserved db _ _ _ hdbNames _ hdbPatches _ hdbPrune =>
  cases hcache with
  | deployed on _ _ _ _ => cases on
  | preserved _ _ keeps _ _ _ _ _ => exact absurd rfl keeps
  | dropped _ _ =>
  exact ⟨_, web, db, hrun, hmanifests, hwebNames.name, hwebPatches, hwebPrune, hdbNames.name,
    hdbPatches, hdbPrune⟩

end Generator

end FluxFleet
