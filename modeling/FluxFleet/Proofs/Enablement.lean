import FluxFleet.Enablement
import FluxFleet.Proofs.Graph.Build

/-!
# What the check of enablement says

With pairwise different identities the table holds the flag of each kustomization (`get?_table`), so
the check reports the references of deployed kustomizations to ones that are switched off
(`mem_disabledDependencies`). If the flags are truth values, a cluster passes the check only if
every reference of an enabled kustomization leads to an enabled one (`enabled_of_refers`).
-/

namespace FluxFleet

namespace Enablement

open FluxFleet.Graph (declared identities Refers)

variable {cluster : Cluster} {templates : List Template} {id : String}

/-- Whether a kustomization of a template is deployed to a cluster, as it was written. -/
def flag (cluster : Cluster) (t : Template) (ks : Kustomization) : Value :=
  ks.enabledUnder (cluster.selection? (.str t.name))

/-- The flags of kustomizations and of overrides are truth values, as far as there are any. -/
structure BooleanFlags (cluster : Cluster) (templates : List Template) : Prop where
  own : ∀ t ∈ templates, ∀ ks ∈ t.kustomizations, ∃ b, ks.enabled = .bool b
  overridden : ∀ s ∈ cluster.selections, ∀ k enabled policy,
    (k, Override.adjust enabled policy) ∈ s.overrides.entries → enabled = .null ∨
      ∃ b, enabled = .bool b

/-- Pairwise different identities tell kustomizations apart. -/
theorem eq_of_identity_eq (hids : (identities templates).Nodup) {t t' : Template}
    {ks ks' : Kustomization} (hd : (t, ks) ∈ declared templates)
    (hd' : (t', ks') ∈ declared templates) (h : ks.identity t.name = ks'.identity t'.name) :
    t = t' ∧ ks = ks' :=
  Prod.mk.inj (List.inj_on_of_nodup_map hids hd hd' h)

/-- The flag of a kustomization is a truth value if all flags are. -/
theorem BooleanFlags.flag_eq (h : BooleanFlags cluster templates) {t : Template}
    {ks : Kustomization} (hd : (t, ks) ∈ declared templates) :
    ∃ b, flag cluster t ks = .bool b := by
  obtain ⟨ht, hks⟩ := Graph.mem_declared.mp hd
  rcases hsel : cluster.selection? (.str t.name) with _ | s
  · exact ⟨false, by simp only [flag, hsel, Kustomization.enabledUnder]⟩
  · have hs : s ∈ cluster.selections := List.mem_of_find?_eq_some hsel
    obtain ⟨own, hown⟩ := h.own t ht ks hks
    rcases hov : s.override? ks with _ | on | ⟨enabled, policy⟩
    · exact ⟨own, by simp only [flag, hsel, Kustomization.enabledUnder, hov, hown]⟩
    · exact ⟨on, by simp only [flag, hsel, Kustomization.enabledUnder, hov]⟩
    · obtain ⟨k, hk⟩ := OrderedMap.exists_mem_of_get?_eq_some hov
      rcases h.overridden s hs k enabled policy hk with rfl | ⟨b, rfl⟩
      · exact ⟨own, by simp [flag, hsel, Kustomization.enabledUnder, hov, hown, Value.isNull]⟩
      · exact ⟨b, by simp [flag, hsel, Kustomization.enabledUnder, hov, Value.isNull]⟩

theorem table_eq_ofList (cluster : Cluster) (templates : List Template) :
    table cluster templates = OrderedMap.ofList ((declared templates).map fun d =>
      (d.2.identity d.1.name, flag cluster d.1 d.2)) := by
  rw [OrderedMap.ofList, OrderedMap.insertAll, List.foldl_map]
  rfl

/-- The table holds the flag of each kustomization. -/
theorem get?_table (hids : (identities templates).Nodup) {t : Template} {ks : Kustomization}
    (hd : (t, ks) ∈ declared templates) :
    (table cluster templates).get? (ks.identity t.name) = some (flag cluster t ks) := by
  rw [table_eq_ofList]
  refine OrderedMap.get?_ofList_of_mem ?_ (List.mem_map.mpr ⟨(t, ks), hd, rfl⟩)
  rw [List.map_map]
  exact hids

theorem check_eq_ok {u : Unit} :
    check cluster templates = .ok u ↔ disabledDependencies cluster templates = [] := by
  rw [check]
  rcases disabledDependencies cluster templates with _ | ⟨d, ds⟩
  · exact ⟨fun _ => rfl, fun _ => rfl⟩
  · constructor
    · intro h
      cases h
    · intro h
      cases h

/-- A conflict of a kustomization is a reference of an enabled one to a target that is off. -/
theorem mem_conflicts {enabled : OrderedMap String Value} {template : String} {ks : Kustomization}
    {c : DisabledDependency} :
    c ∈ conflicts enabled template ks ↔
      ((enabled.get? (ks.identity template)).getD .null).truthy = true ∧
        (∃ dep ∈ ks.dependsOn, target? template dep = some c.target) ∧
          isOff enabled c.target = true ∧ c.source = ks.identity template := by
  rw [conflicts]
  by_cases hon : ((enabled.get? (ks.identity template)).getD .null).truthy = true
  · simp only [hon, if_true, List.mem_filterMap, true_and]
    constructor
    · rintro ⟨target, hdep, hc⟩
      by_cases hoff : isOff enabled target = true
      · rw [if_pos hoff] at hc
        cases hc
        exact ⟨hdep, hoff, rfl⟩
      · rw [if_neg hoff] at hc
        cases hc
    · rintro ⟨hdep, hoff, hsource⟩
      refine ⟨c.target, hdep, ?_⟩
      rw [if_pos hoff, ← hsource]
  · simp [hon]

/-- The kustomization of an identity is deployed: its flag counts as given. -/
def Deploys (cluster : Cluster) (templates : List Template) (id : String) : Prop :=
  ∃ t ks, (t, ks) ∈ declared templates ∧ ks.identity t.name = id ∧
    (flag cluster t ks).truthy = true

/-- The flag of the kustomization of an identity is `false`, also since its template is not
selected. -/
def SwitchedOff (cluster : Cluster) (templates : List Template) (id : String) : Prop :=
  ∃ t ks, (t, ks) ∈ declared templates ∧ ks.identity t.name = id ∧ flag cluster t ks = .bool false

theorem target?_eq_some {template : String} {d : Dependency} :
    target? template d = some id ↔
      ∃ ref, d.reference = .ok ref ∧ ref.target? template = some id := by
  rw [target?]
  rcases d.reference with fault | ref
  · simp
  · simp

/-- The table holds `false` for what is switched off, and for nothing else. -/
theorem isOff_table_iff (hids : (identities templates).Nodup) :
    isOff (table cluster templates) id = true ↔ SwitchedOff cluster templates id := by
  constructor
  · intro h
    rw [isOff] at h
    split at h
    · next hget =>
      rw [table_eq_ofList] at hget
      obtain ⟨⟨t, ks⟩, hd, heq⟩ := List.mem_map.mp (OrderedMap.mem_of_get?_ofList hget)
      obtain ⟨hid, hflag⟩ := Prod.mk.inj heq
      exact ⟨t, ks, hd, hid, hflag⟩
    · cases h
  · rintro ⟨t, ks, hd, rfl, hflag⟩
    rw [isOff, get?_table hids hd, hflag]

/-- What is reported is a reference of a deployed kustomization to one that is switched off. -/
theorem mem_disabledDependencies (hids : (identities templates).Nodup) {c : DisabledDependency} :
    c ∈ disabledDependencies cluster templates ↔
      Deploys cluster templates c.source ∧ Refers templates c.source c.target ∧
        SwitchedOff cluster templates c.target := by
  rw [disabledDependencies, List.mem_flatMap]
  constructor
  · rintro ⟨⟨t, ks⟩, hd, hc⟩
    obtain ⟨hon, ⟨dep, hdep, htarget⟩, hoff, hsource⟩ := mem_conflicts.mp hc
    obtain ⟨ref, href, htarget⟩ := target?_eq_some.mp htarget
    rw [get?_table hids hd, Option.getD_some] at hon
    exact ⟨⟨t, ks, hd, hsource.symm, hon⟩, ⟨t, ks, dep, ref, hd, hsource.symm, hdep, href, htarget⟩,
      (isOff_table_iff hids).mp hoff⟩
  · rintro ⟨⟨t, ks, hd, hid, hon⟩, ⟨t', ks', dep, ref, hd', hid', hdep, href, htarget⟩, hoff⟩
    -- the deployed kustomization is the one that declares the reference
    obtain ⟨rfl, rfl⟩ := eq_of_identity_eq hids hd hd' (hid.trans hid'.symm)
    refine ⟨(t, ks), hd,
      mem_conflicts.mpr ⟨?_, ⟨dep, hdep, target?_eq_some.mpr ⟨ref, href, htarget⟩⟩,
      (isOff_table_iff hids).mpr hoff, hid.symm⟩⟩
    rw [get?_table hids hd, Option.getD_some]
    exact hon

/-- If a cluster passes the check, a reference of an enabled kustomization leads to one that is
enabled as well. -/
theorem enabled_of_refers (hids : (identities templates).Nodup)
    (hflags : BooleanFlags cluster templates) (hcheck : disabledDependencies cluster templates = [])
    {t t' : Template} {ks ks' : Kustomization} (hd : (t, ks) ∈ declared templates)
    (hd' : (t', ks') ∈ declared templates) (hon : (flag cluster t ks).truthy = true)
    (href : Refers templates (ks.identity t.name) (ks'.identity t'.name)) :
    (flag cluster t' ks').truthy = true := by
  obtain ⟨b, hb⟩ := hflags.flag_eq hd'
  cases b with
  | true => rw [hb, Value.truthy]
  | false =>
    -- a target that is off would be reported
    have hreported : (⟨ks.identity t.name, ks'.identity t'.name⟩ : DisabledDependency) ∈
        disabledDependencies cluster templates :=
      (mem_disabledDependencies hids).mpr
        ⟨⟨t, ks, hd, rfl, hon⟩, href, t', ks', hd', rfl, hb⟩
    rw [hcheck] at hreported
    exact absurd hreported List.not_mem_nil

end Enablement

end FluxFleet
