import FluxFleet.Proofs.Deployment

/-!
# Which conflicts the check of enablement reports

A run deploys a kustomization if its flag counts as given (`deploys_iff_of_resolveAll`). A conflict
is a reference of a deployed kustomization to one that is not deployed. The check looks for targets
whose flag is the truth value `false`, so it reports the conflicts with such a target and nothing
else (`mem_disabledDependencies_iff`). These are all conflicts if every flag that does not count as
given is `false`; a flag like `0` is not (`zero_escapes_check`).
-/

namespace FluxFleet

namespace Enablement

open FluxFleet.Graph (declared identities mem_declared Refers)
open Resolution (resolveAll)

variable {cluster : Cluster} {templates : List Template} {id : String}

/-- A deployed kustomization refers to a known one that is not deployed. -/
structure Conflict (cluster : Cluster) (templates : List Template) (c : DisabledDependency) :
    Prop where
  source : Deploys cluster templates c.source
  reference : Refers templates c.source c.target
  known : c.target ∈ identities templates
  target : ¬ Deploys cluster templates c.target

/-- What counts as deployed is what is resolved and then rendered. -/
theorem deploys_iff_of_resolveAll {resolved : List Resolved}
    (h : resolveAll cluster templates = .ok resolved) :
    Deploys cluster templates id ↔ ∃ r ∈ resolved, r.name = id ∧ r.enabled.truthy = true := by
  constructor
  · rintro ⟨t, ks, hd, rfl, hon⟩
    obtain ⟨r, hr, rfl, rfl, hflag⟩ := Resolution.exists_resolved_of_enabled h hd hon
    exact ⟨r, hr, rfl, by rwa [hflag]⟩
  · rintro ⟨r, hr, rfl, hon⟩
    obtain ⟨hd, hflag⟩ := Resolution.enabled_of_mem h hr
    exact ⟨r.template, r.kustomization, hd, rfl, by rwa [← hflag]⟩

/-- What is switched off is known and not deployed. -/
theorem SwitchedOff.not_deploys (hids : (identities templates).Nodup)
    (h : SwitchedOff cluster templates id) :
    id ∈ identities templates ∧ ¬ Deploys cluster templates id := by
  obtain ⟨t, ks, hd, rfl, hflag⟩ := h
  refine ⟨List.mem_map.mpr ⟨(t, ks), hd, rfl⟩, ?_⟩
  rintro ⟨t', ks', hd', hid, hon⟩
  obtain ⟨rfl, rfl⟩ := eq_of_identity_eq hids hd hd' hid.symm
  rw [hflag] at hon
  cases hon

/-- **What the check reports.** It reports exactly the conflicts with a target whose flag is
`false`, and these are all conflicts if no other flag fails to count as given. What is deployed here
is what a run resolves and deploys. -/
theorem mem_disabledDependencies_iff (hids : (identities templates).Nodup) :
    (∀ resolved, resolveAll cluster templates = .ok resolved → ∀ id,
      Deploys cluster templates id ↔ ∃ r ∈ resolved, r.name = id ∧ r.enabled.truthy = true) ∧
    (∀ c, c ∈ disabledDependencies cluster templates ↔
      Conflict cluster templates c ∧ SwitchedOff cluster templates c.target) ∧
    ((∀ d ∈ declared templates, (flag cluster d.1 d.2).truthy = false →
        flag cluster d.1 d.2 = .bool false) →
      ∀ c, c ∈ disabledDependencies cluster templates ↔ Conflict cluster templates c) := by
  have hreported : ∀ c, c ∈ disabledDependencies cluster templates ↔
      Conflict cluster templates c ∧ SwitchedOff cluster templates c.target := by
    intro c
    rw [mem_disabledDependencies hids]
    constructor
    · rintro ⟨hsource, href, hoff⟩
      obtain ⟨hknown, htarget⟩ := hoff.not_deploys hids
      exact ⟨⟨hsource, href, hknown, htarget⟩, hoff⟩
    · rintro ⟨hconflict, hoff⟩
      exact ⟨hconflict.source, hconflict.reference, hoff⟩
  refine ⟨fun resolved h id => deploys_iff_of_resolveAll h, hreported, fun hflags c => ?_⟩
  rw [hreported c]
  refine ⟨And.left, fun hconflict => ⟨hconflict, ?_⟩⟩
  obtain ⟨⟨t, ks⟩, hd, hid⟩ := List.mem_map.mp hconflict.known
  refine ⟨t, ks, hd, hid, hflags (t, ks) hd (Bool.eq_false_iff.mpr fun hon => ?_)⟩
  exact hconflict.target ⟨t, ks, hd, hid, hon⟩

/-! ## A stall without its storeroom -/

/-- The document of a template whose `web` waits for its `db`, which has the given flag. -/
def stallDocument (enabled : Value) : Value :=
  .record [("apiVersion", "kustodian.io/v1"), ("kind", "Template"),
    ("metadata", .record [("name", "shop")]),
    ("spec", .record [("kustomizations", .ofList [
      .record [("name", "web"), ("path", "./web"), ("depends_on", .ofList ["db"])],
      .record [("name", "db"), ("path", "./db"), ("enabled", enabled)]])])]

/-- The template of that document. -/
def stall (enabled : Value) : Template :=
  { name := "shop"
    kustomizations := [Kustomization.bare "web" [.written "db"],
      { Kustomization.bare "db" [] with enabled }]
    versions := [] }

/-- The document of a cluster that deploys the template as it is. -/
def marketDocument : Value :=
  .record [("apiVersion", "kustodian.io/v1"), ("kind", "Cluster"),
    ("metadata", .record [("name", "market")]),
    ("spec", .record [("git", .record [("owner", "example"), ("repository", "fleet")]),
      ("templates", .ofList [.record [("name", "shop")]])])]

/-- The cluster of that document. -/
def market : Cluster :=
  { name := "market", git := some { owner := "example", repository := "fleet" },
    selections := [{ name := "shop" }] }

/-- What `web` waits for. -/
def webToDb : DisabledDependency := ⟨"shop-web", "shop-db"⟩

/-- If `db` has a flag that does not count as given, `web` is deployed and waits for it. -/
theorem conflict_of_stall {enabled : Value} (h : enabled.truthy = false) :
    Conflict market [stall enabled] webToDb := by
  have hweb : (stall enabled, Kustomization.bare "web" [.written "db"]) ∈
      declared [stall enabled] := List.mem_cons_self
  refine ⟨⟨_, _, hweb, rfl, rfl⟩, ⟨_, _, _, .within "db", hweb, rfl, List.mem_cons_self, rfl, rfl⟩,
    List.mem_cons_of_mem _ List.mem_cons_self, ?_⟩
  rintro ⟨t, ks, hd, hid, hon⟩
  rcases List.mem_pair.mp hd with heq | heq
  · cases heq
    have hne : "shop-web" ≠ "shop-db" := by decide
    exact hne hid
  · cases heq
    have hon : enabled.truthy = true := hon
    rw [h] at hon
    cases hon

/-- A `db` that is switched off is reported. -/
theorem stall_reported :
    (identities [stall (.bool false)]).Nodup ∧
      webToDb ∈ disabledDependencies market [stall (.bool false)] := by
  have hids : (identities [stall (.bool false)]).Nodup := by decide
  obtain ⟨-, hreported, -⟩ := @mem_disabledDependencies_iff market _ hids
  exact ⟨hids, (hreported webToDb).mpr ⟨conflict_of_stall rfl,
    _, _, List.mem_cons_of_mem _ List.mem_cons_self, rfl, rfl⟩⟩

/-- **A conflict that is not reported.** If the flag of `db` is `0`, it is not deployed and `web`
is, so a manifest waits for one that does not exist. The check passes. -/
theorem zero_escapes_check :
    (stall (.int 0)).Read ∧ Cluster.ofDocument marketDocument = .ok market ∧
    (identities [stall (.int 0)]).Nodup ∧ Conflict market [stall (.int 0)] webToDb ∧
    disabledDependencies market [stall (.int 0)] = [] ∧
    ∃ gen, (Generator.generate Generator.noPlugins .new {} market [stall (.int 0)] {}).2 = .ok gen ∧
      gen.manifests.map (fun m => (m.manifest.name, m.manifest.dependsOn.map (·.name))) =
        [("shop-web", [.str "shop-db"])] :=
  ⟨⟨stallDocument (.int 0), rfl⟩, rfl, by decide, conflict_of_stall rfl, rfl, _, rfl, rfl⟩

end Enablement

end FluxFleet
