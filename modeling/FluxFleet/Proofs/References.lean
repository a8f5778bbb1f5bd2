import FluxFleet.Proofs.Deployment

/-!
# What a reference is to its readers

A declared reference is read three times: the graph draws an edge or records a problem, a manifest
requires what the reference leads to, and the check of enablement looks up whether that is switched
off. Each reader resolves the reference on its own. All three resolve it to the same identity
(`Graph.resolved?_outcome`, `Manifest.renders_iff`), and only the manifest stops at a reference that
cannot be parsed.

With pairwise different identities the part of a kustomization in the graph is that of its own
references (`Graph.problems_of_source`, `Graph.dependencies_of_source`), so what is said of one
reference carries over to the whole list that a kustomization declares (`Graph.readers_agree`).
-/

namespace FluxFleet

/-- The identity that a reference was resolved to: that of an edge, or that of a problem which
leads somewhere. -/
def Outcome.resolved? : Outcome → Option String
  | .edge target => some target
  | .problem (.selfReference source) => some source
  | .problem (.missing _ target) => some target
  | .outside | .problem (.malformed _ _ _) => none

/-- The fault that a manifest has instead of a problem of the graph: a reference that cannot be
parsed cannot be required. -/
def GraphProblem.fault? : GraphProblem → Option InputFault
  | .malformed source _ reason => some (.kustomization source reason)
  | .selfReference _ | .missing _ _ => none

/-- The requirement stands for a declared reference with an outcome in the graph: it names the
outside resource as it is given, or else the identity that the graph resolved, without a
namespace. -/
inductive Requirement.Renders (d : Dependency) : Outcome → Requirement → Prop
  | outside {resource : Outside} (h : d.reference = .ok (.external resource)) :
    Renders d .outside { name := resource.name, ns := resource.ns }
  | inside {id : String} {o : Outcome} (h : o.resolved? = some id) :
    Renders d o { name := .str id }

/-- The rows that an owner has in a table are those that it was given, if no two owners have the
same key. -/
theorem filter_flatMap_of_owner {α β κ : Type} [DecidableEq κ] (owner : α → κ) {rows : α → List β}
    (key : β → κ) (hkey : ∀ a, ∀ b ∈ rows a, key b = owner a) {xs : List α}
    (hnodup : (xs.map owner).Nodup) {a : α} (ha : a ∈ xs) :
    (xs.flatMap rows).filter (key · = owner a) = rows a := by
  induction xs with
  | nil => cases ha
  | cons x xs ih =>
    obtain ⟨hx, hxs⟩ := List.nodup_cons.mp hnodup
    rw [List.flatMap_cons, List.filter_append]
    rcases List.mem_cons.mp ha with rfl | hmem
    · have hown : (rows a).filter (key · = owner a) = rows a :=
        List.filter_eq_self.mpr fun b hb => decide_eq_true (hkey a b hb)
      have hrest : (xs.flatMap rows).filter (key · = owner a) = [] := by
        refine List.filter_eq_nil_iff.mpr fun b hb => ?_
        obtain ⟨a', ha', hb'⟩ := List.mem_flatMap.mp hb
        rw [decide_eq_true_iff, hkey a' b hb']
        exact fun heq => hx (heq ▸ List.mem_map_of_mem ha')
      rw [hown, hrest, List.append_nil]
    · have hother : (rows x).filter (key · = owner a) = [] := by
        refine List.filter_eq_nil_iff.mpr fun b hb => ?_
        rw [decide_eq_true_iff, hkey x b hb]
        exact fun heq => hx (heq ▸ List.mem_map_of_mem hmem)
      rw [hother, List.nil_append, ih hxs hmem]

namespace Graph

variable {templates : List Template} {t : Template} {ks : Kustomization}

/-! ## One reference -/

/-- The graph resolves a reference as the check of enablement does. -/
theorem resolved?_outcome (g : Graph) (template source : String) (d : Dependency) :
    (outcome g template source d).resolved? = Enablement.target? template d := by
  rw [outcome, Enablement.target?]
  rcases d.reference with fault | ref
  · rfl
  · rcases htarget : ref.target? template with _ | target
    · simp only [htarget, Outcome.resolved?]
    · by_cases hself : target = source
      · simp only [htarget, hself, if_true, Outcome.resolved?]
      · by_cases hknown : g.contains target = true
        · simp only [htarget, if_neg hself, if_pos hknown, Outcome.resolved?]
        · simp only [htarget, if_neg hself, if_neg hknown, Outcome.resolved?]

/-- A problem is that of the kustomization that declares the reference. -/
theorem source_of_outcome {g : Graph} {template source : String} {d : Dependency}
    {p : GraphProblem} (h : (outcome g template source d).problem? = some p) :
    p.source = source := by
  rw [outcome] at h
  split at h
  · cases h
    rfl
  · split at h
    · cases h
    · split at h
      · cases h
        rfl
      · split at h
        · cases h
        · cases h
          rfl

/-- What is resolved is an edge, the kustomization itself, or an identity that is missing. -/
theorem of_resolved? {g : Graph} {template source id : String} {d : Dependency}
    (h : (outcome g template source d).resolved? = some id) :
    (outcome g template source d).edge? = some id ∨
      (outcome g template source d).problem? = some (.selfReference source) ∧ id = source ∨
      (outcome g template source d).problem? = some (.missing source id) := by
  rcases ho : outcome g template source d with _ | target | p
  · rw [ho] at h
    cases h
  · rw [ho] at h
    cases h
    exact Or.inl rfl
  · have hp : (outcome g template source d).problem? = some p := by
      rw [ho]
      rfl
    have hsource : p.source = source := source_of_outcome hp
    rw [ho] at h
    cases p with
    | malformed s reference reason => cases h
    | selfReference s =>
      cases h
      cases hsource
      exact Or.inr (Or.inl ⟨rfl, rfl⟩)
    | missing s target =>
      cases h
      cases hsource
      exact Or.inr (Or.inr rfl)

/-- Where no outcome is a problem, what is resolved are the edges. -/
theorem resolved_eq_edges {os : List Outcome} (h : os.filterMap Outcome.problem? = []) :
    os.filterMap Outcome.resolved? = os.filterMap Outcome.edge? := by
  refine List.filterMap_congr fun o ho => ?_
  have hnone : o.problem? = none := List.filterMap_eq_nil_iff.mp h o ho
  cases o with
  | outside => rfl
  | edge target => rfl
  | problem p => cases hnone

/-! ## The references of one kustomization -/

/-- What becomes of the references of a kustomization, in the order of declaration. -/
def outcomes (templates : List Template) (t : Template) (ks : Kustomization) : List Outcome :=
  ks.dependsOn.map (outcome (build templates).1 t.name (ks.identity t.name))

/-- Each identity that is resolved is that of an edge or of a problem. -/
theorem of_mem_resolved {id : String}
    (h : id ∈ (outcomes templates t ks).filterMap Outcome.resolved?) :
    id ∈ (outcomes templates t ks).filterMap Outcome.edge? ∨
      .selfReference (ks.identity t.name) ∈
          (outcomes templates t ks).filterMap Outcome.problem? ∧ id = ks.identity t.name ∨
      .missing (ks.identity t.name) id ∈
        (outcomes templates t ks).filterMap Outcome.problem? := by
  obtain ⟨o, ho, hid⟩ := List.mem_filterMap.mp h
  obtain ⟨d, hd, rfl⟩ := List.mem_map.mp ho
  rcases of_resolved? hid with hedge | ⟨hself, hid⟩ | hmissing
  · exact Or.inl (List.mem_filterMap.mpr ⟨_, ho, hedge⟩)
  · exact Or.inr (Or.inl ⟨List.mem_filterMap.mpr ⟨_, ho, hself⟩, hid⟩)
  · exact Or.inr (Or.inr (List.mem_filterMap.mpr ⟨_, ho, hmissing⟩))

/-- The declared references of an identity are those of its kustomization. -/
theorem declarations_of_source (hids : (identities templates).Nodup)
    (hd : (t, ks) ∈ declared templates) :
    (declarations templates).filter (·.source = ks.identity t.name) =
      ks.dependsOn.map fun dep => ⟨t.name, ks.identity t.name, dep⟩ := by
  refine filter_flatMap_of_owner (fun d : Template × Kustomization => d.2.identity d.1.name)
    Declaration.source ?_ hids hd
  intro d r hr
  obtain ⟨dep, -, rfl⟩ := List.mem_map.mp hr
  rfl

/-- What is read off the outcomes of an identity's references is read off the outcomes of its
kustomization. -/
theorem filterMap_outcomes {β : Type} (hids : (identities templates).Nodup)
    (hd : (t, ks) ∈ declared templates) (f : Outcome → Option β) :
    ((declarations templates).filter (·.source = ks.identity t.name)).filterMap
        (fun r => f (r.outcome (nodes templates))) = (outcomes templates t ks).filterMap f := by
  rw [declarations_of_source hids hd, outcomes, List.filterMap_map, List.filterMap_map]
  refine List.filterMap_congr fun dep _ => congrArg f ?_
  exact outcome_congr (fun id => (contains_build templates id).symm)
    ⟨t.name, ks.identity t.name, dep⟩

/-- The dependencies of a kustomization are the edges of its own references. -/
theorem dependencies_of_source (hids : (identities templates).Nodup)
    (hd : (t, ks) ∈ declared templates) :
    (build templates).1.dependencies (ks.identity t.name) =
      (outcomes templates t ks).filterMap Outcome.edge? := by
  rw [dependencies_build]
  exact filterMap_outcomes hids hd Outcome.edge?

/-- The problems of a kustomization are those of its own references. -/
theorem problems_of_source (hids : (identities templates).Nodup)
    (hd : (t, ks) ∈ declared templates) :
    (build templates).2.filter (·.source = ks.identity t.name) =
      (outcomes templates t ks).filterMap Outcome.problem? := by
  rw [problems_build, ← filterMap_outcomes hids hd, List.filter_filterMap, List.filterMap_filter]
  refine List.filterMap_congr fun r _ => ?_
  rcases hp : (r.outcome (nodes templates)).problem? with _ | p
  · simp
  · have hsource : p.source = r.source := source_of_outcome hp
    by_cases hid : r.source = ks.identity t.name <;> simp [hid, hsource, Option.filter]

end Graph

/-! ## Requirements -/

namespace Manifest

variable {r : Resolved} {d : Dependency} {g : Graph}

/-- A reference that cannot be parsed is not required, with the fault of its problem. -/
theorem requirement_eq_error {e : Error} :
    requirement r d = .error e ↔
      ((Graph.outcome g r.template.name r.name d).problem?.bind GraphProblem.fault?).map .input =
        some e := by
  rw [requirement, Graph.outcome]
  rcases d.reference with fault | ref
  · constructor
    · intro h
      cases h
      rfl
    · intro h
      cases h
      rfl
  · constructor
    · intro h
      cases ref <;> cases h
    · intro h
      rcases htarget : ref.target? r.template.name with _ | target
      · simp [htarget, Outcome.problem?] at h
      · by_cases hself : target = r.name
        · simp [htarget, hself, Outcome.problem?, GraphProblem.fault?] at h
        · by_cases hknown : g.contains target = true
          · simp [htarget, hself, hknown, Outcome.problem?] at h
          · simp [htarget, hself, hknown, Outcome.problem?, GraphProblem.fault?] at h

/-- A declaration with a target among kustomizations is required without a namespace. -/
theorem requirement_of_target {ref : Reference} {id : String} (href : d.reference = .ok ref)
    (htarget : ref.target? r.template.name = some id) :
    requirement r d = .ok { name := .str id } := by
  rw [requirement, href]
  cases ref <;> cases htarget <;> rfl

theorem renders_of_target {ref : Reference} {id : String} (href : d.reference = .ok ref)
    (htarget : ref.target? r.template.name = some id) :
    Requirement.Renders d (Graph.outcome g r.template.name r.name d) { name := .str id } := by
  refine .inside ?_
  rw [Graph.resolved?_outcome, Enablement.target?_eq_some]
  exact ⟨ref, href, htarget⟩

/-- A requirement is what its reference is in the graph. -/
theorem renders_iff {q : Requirement} :
    Requirement.Renders d (Graph.outcome g r.template.name r.name d) q ↔
      requirement r d = .ok q := by
  constructor
  · intro h
    generalize ho : Graph.outcome g r.template.name r.name d = o at h
    cases h with
    | outside href =>
      rw [requirement, href]
      rfl
    | inside hid =>
      rw [← ho, Graph.resolved?_outcome] at hid
      obtain ⟨ref, href, htarget⟩ := Enablement.target?_eq_some.mp hid
      exact requirement_of_target href htarget
  · intro h
    rcases href : d.reference with fault | ref
    · rw [requirement, href] at h
      cases h
    cases ref with
    | within name =>
      rw [requirement_of_target href rfl] at h
      cases h
      exact renders_of_target href rfl
    | across template name =>
      rw [requirement_of_target href rfl] at h
      cases h
      exact renders_of_target href rfl
    | external resource =>
      rw [requirement, href] at h
      cases h
      have houtside : Graph.outcome g r.template.name r.name d = .outside := by
        rw [Graph.outcome, href]
        rfl
      rw [houtside]
      exact .outside href

end Manifest

/-- The names of the requirements without a namespace are the identities that were resolved. -/
theorem names_of_renders {o : Dependency → Outcome} {ds : List Dependency}
    {row : List Requirement}
    (hrow : List.Forall₂ (fun d q => Requirement.Renders d (o d) q) ds row) :
    (row.filter (·.ns.isNull)).map (·.name) =
      ((ds.map o).filterMap Outcome.resolved?).map .str := by
  induction hrow with
  | nil => rfl
  | @cons d q ds row hq _ ih =>
    generalize ho : o d = od at hq
    cases hq with
    | @outside resource _ =>
      rw [List.filter_cons_of_neg (by simp [resource.given]), ih, List.map_cons, ho]
      rfl
    | inside hid =>
      rw [List.filter_cons_of_pos rfl, List.map_cons, ih, List.map_cons, ho,
        List.filterMap_cons_some hid, List.map_cons]

namespace Graph

variable {templates : List Template} {r : Resolved}

/-- Rendering the references of a kustomization fails as the first malformed one says. -/
theorem requirements_eq_error (hids : (identities templates).Nodup)
    (hr : (r.template, r.kustomization) ∈ declared templates) {e : Error} :
    r.kustomization.dependsOn.mapM (Manifest.requirement r) = .error e ↔
      ∃ f, ((build templates).2.filter (·.source = r.name)).findSome? GraphProblem.fault? = some f ∧
        .input f = e := by
  have hproblems : (build templates).2.filter (·.source = r.name) =
      (outcomes templates r.template r.kustomization).filterMap Outcome.problem? :=
    problems_of_source hids hr
  rw [mapM_eq_error_iff fun d e => Manifest.requirement_eq_error (g := (build templates).1),
    ← Option.map_eq_some_iff, hproblems, ← List.head?_filterMap, ← List.head?_filterMap,
    ← List.head?_map, List.filterMap_filterMap, List.map_filterMap, outcomes, List.filterMap_map]
  rfl

/-- So it fails exactly if one of them is malformed. -/
theorem requirements_fails_iff (hids : (identities templates).Nodup)
    (hr : (r.template, r.kustomization) ∈ declared templates) :
    (∃ f, r.kustomization.dependsOn.mapM (Manifest.requirement r) = .error (.input f)) ↔
      ∃ reference reason, .malformed r.name reference reason ∈ (build templates).2 := by
  constructor
  · rintro ⟨f, hf⟩
    obtain ⟨f', hfirst, -⟩ := (requirements_eq_error hids hr).mp hf
    obtain ⟨p, hp, hfault⟩ := List.exists_of_findSome?_eq_some hfirst
    obtain ⟨hp, hsource⟩ := List.mem_filter.mp hp
    have hsource := of_decide_eq_true hsource
    cases p with
    | malformed source reference reason =>
      cases hsource
      exact ⟨reference, reason, hp⟩
    | selfReference source => cases hfault
    | missing source target => cases hfault
  · rintro ⟨reference, reason, hp⟩
    have hown : .malformed r.name reference reason ∈
        (build templates).2.filter (·.source = r.name) :=
      List.mem_filter.mpr ⟨hp, decide_eq_true rfl⟩
    have hsome : (((build templates).2.filter (·.source = r.name)).findSome?
        GraphProblem.fault?).isSome = true :=
      List.findSome?_isSome_iff.mpr ⟨_, hown, rfl⟩
    obtain ⟨f, hf⟩ := Option.isSome_iff_exists.mp hsome
    exact ⟨f, (requirements_eq_error hids hr).mpr ⟨f, hf, rfl⟩⟩

/-- A template whose kustomization refers to its neighbour, to an outside resource, to itself and to
something that does not exist, by texts and by references that have been read. -/
def mixture : Template :=
  { name := "mix", versions := [], kustomizations :=
      [Kustomization.bare "app" [.written " db ", .external "redis" "infra",
        .parsed (.across "mix" "app"), .parsed (.within "app"), .written "lost"],
        Kustomization.bare "db" []] }

end Graph

end FluxFleet
