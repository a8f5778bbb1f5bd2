import FluxFleet.Proofs.Acceptance
import FluxFleet.Proofs.References

/-!
# The graph accounts for every reference

What becomes of a declared reference is said here of the templates alone (`Graph.Becomes`): it leads
outside, it is an edge to another kustomization, or it is flawed. Each reference becomes exactly one
of these. If no two kustomizations share an identity, the graph is made of nothing else: a
node for each kustomization, which holds the edges of that one's references, and the problems of all
references in the order of declaration (`Graph.build_accounts`). Where identities clash, the edges
of several kustomizations may be drawn from one node, but they still lead to other nodes only.
-/

namespace FluxFleet

/-- Whether a declared reference leads to a resource outside the templates. -/
def Dependency.isExternal (d : Dependency) : Bool :=
  match d.reference with
  | .ok (.external _) => true
  | _ => false

namespace Graph

variable {templates : List Template} {r : Declaration} {o : Outcome}

/-- What becomes of a declared reference: nothing if it leads outside, an edge if it leads to
another kustomization of the templates, or else the problem that is its flaw. -/
inductive Becomes (templates : List Template) (r : Declaration) : Outcome → Prop
  | outside (h : r.dependency.isExternal = true) : Becomes templates r .outside
  | edge {ref : Reference} {id : String} (h : r.dependency.reference = .ok ref)
    (htarget : ref.target? r.template = some id) (hself : id ≠ r.source)
    (hknown : id ∈ identities templates) : Becomes templates r (.edge id)
  | problem {p : GraphProblem} (h : Flawed templates r p) : Becomes templates r (.problem p)

/-- A reference without a target is one that leads outside. -/
theorem isExternal_iff : r.dependency.isExternal = true ↔
    ∃ ref, r.dependency.reference = .ok ref ∧ ref.target? r.template = none := by
  rw [Dependency.isExternal]
  constructor
  · intro h
    split at h
    · next resource href => exact ⟨_, href, rfl⟩
    · cases h
  · rintro ⟨ref, href, htarget⟩
    cases ref with
    | within name => cases htarget
    | across template name => cases htarget
    | external resource => rw [href]

/-- The graph takes a reference for what it becomes. -/
theorem becomes_iff : Becomes templates r o ↔ r.outcome (nodes templates) = o := by
  constructor
  · intro h
    cases h with
    | outside h =>
      obtain ⟨ref, href, htarget⟩ := isExternal_iff.mp h
      simp only [Declaration.outcome, outcome, href, htarget]
    | edge href htarget hself hmem =>
      exact Outcome.edge?_eq_some.mp
        (edge?_eq_some.mpr ⟨_, href, htarget, hself, contains_nodes_iff.mpr hmem⟩)
    | problem h => exact Outcome.problem?_eq_some.mp (problem?_eq_some.mpr h)
  · intro h
    cases o with
    | outside =>
      refine .outside (isExternal_iff.mpr ?_)
      rw [Declaration.outcome, outcome] at h
      split at h
      · cases h
      · next ref href =>
        split at h
        · next htarget => exact ⟨ref, href, htarget⟩
        · split at h
          · cases h
          · split at h <;> cases h
    | edge id =>
      obtain ⟨ref, href, htarget, hself, hnode⟩ := edge?_eq_some.mp (Outcome.edge?_eq_some.mpr h)
      exact .edge href htarget hself (contains_nodes_iff.mp hnode)
    | problem p => exact .problem (problem?_eq_some.mp (Outcome.problem?_eq_some.mpr h))

/-- Every reference becomes exactly one thing. -/
theorem existsUnique_becomes (templates : List Template) (r : Declaration) :
    ∃! o, Becomes templates r o :=
  ⟨_, becomes_iff.mpr rfl, fun _ h => (becomes_iff.mp h).symm⟩

/-! ## Rows of outcomes -/

/-- The node of a kustomization whose references have these outcomes. -/
def nodeOf (d : Template × Kustomization) (row : List Outcome) : GraphNode :=
  { id := d.2.identity d.1.name, template := d.1.name, kustomization := d.2.name,
    dependencies := row.filterMap Outcome.edge? }

/-- The references of a kustomization become its outcomes in the graph. -/
theorem becomes_outcomes (templates : List Template) (d : Template × Kustomization) :
    List.Forall₂ (fun dep => Becomes templates ⟨d.1.name, d.2.identity d.1.name, dep⟩)
      d.2.dependsOn (outcomes templates d.1 d.2) := by
  rw [outcomes, List.forall₂_map_right_iff, List.forall₂_same]
  intro dep _
  exact becomes_iff.mpr (outcome_congr (fun id => (contains_build templates id).symm) _)

/-- The node of a kustomization holds the edges of its own references. -/
theorem get?_build_of_nodup (hids : (identities templates).Nodup) {d : Template × Kustomization}
    (hd : d ∈ declared templates) :
    (build templates).1.get? (d.2.identity d.1.name) =
      some (nodeOf d (outcomes templates d.1 d.2)) := by
  have hnode : (nodes templates).get? (d.2.identity d.1.name) = some (nodeOf d []) := by
    rw [nodes_eq_ofList]
    refine OrderedMap.get?_ofList_of_mem ?_ (List.mem_map.mpr ⟨d, hd, rfl⟩)
    rw [List.map_map]
    exact hids
  rw [get?_build, hnode, filterMap_outcomes hids hd]
  rfl

/-- If no two kustomizations share an identity, the graph holds the nodes of all kustomizations, in
the order of declaration, and nothing else. -/
theorem entries_build (hids : (identities templates).Nodup) :
    (build templates).1.entries = (declared templates).map fun d =>
      (d.2.identity d.1.name, nodeOf d (outcomes templates d.1 d.2)) :=
  OrderedMap.entries_eq_of_get? (keys_build_eq_identities_iff.mpr hids) hids
    fun _ hd => get?_build_of_nodup hids hd

/-- The outcomes of all kustomizations are those of all declared references. -/
theorem flatMap_outcomes (templates : List Template) :
    ((declared templates).flatMap fun d => outcomes templates d.1 d.2) =
      (declarations templates).map (·.outcome (nodes templates)) := by
  rw [declarations, List.map_flatMap]
  refine List.flatMap_congr fun d _ => ?_
  rw [outcomes, List.map_map]
  exact List.map_congr_left fun dep _ => outcome_congr (contains_build templates) ⟨_, _, dep⟩

/-- A row of outcomes has as many members as it has edges, problems and references that lead
outside. -/
theorem length_outcomes (row : List Outcome) :
    row.length = (row.filterMap Outcome.edge?).length + (row.filterMap Outcome.problem?).length +
      row.count .outside := by
  induction row with
  | nil => rfl
  | cons o row ih =>
    cases o with
    | outside =>
      rw [List.filterMap_cons_none rfl, List.filterMap_cons_none rfl, List.count_cons_self,
        List.length_cons, ih]
      omega
    | edge target =>
      rw [List.filterMap_cons_some (f := Outcome.edge?) rfl, List.filterMap_cons_none rfl,
        List.count_cons_of_ne (by simp), List.length_cons, List.length_cons, ih]
      omega
    | problem p =>
      rw [List.filterMap_cons_none rfl, List.filterMap_cons_some (f := Outcome.problem?) rfl,
        List.count_cons_of_ne (by simp), List.length_cons, List.length_cons, ih]
      omega

theorem count_outside (templates : List Template) :
    ((declarations templates).map (·.outcome (nodes templates))).count .outside =
      (declarations templates).countP (·.dependency.isExternal) := by
  rw [List.count, List.countP_map]
  refine List.countP_congr fun r _ => ?_
  rw [Function.comp_apply, beq_iff_eq, ← becomes_iff]
  constructor
  · rintro ⟨h⟩
    exact h
  · exact .outside

/-- Whatever the templates, a node stands under its own identity, and its edges lead to other
nodes. -/
theorem of_get?_build {id : String} {n : GraphNode} (h : (build templates).1.get? id = some n) :
    n.id = id ∧ ∀ target ∈ n.dependencies, target ∈ (build templates).1.keys ∧ target ≠ id := by
  rw [get?_build] at h
  obtain ⟨bare, hbare, rfl⟩ := Option.map_eq_some_iff.mp h
  obtain ⟨hid, hnone⟩ := of_get?_nodes hbare
  refine ⟨hid, fun target htarget => ?_⟩
  rw [GraphNode.extend, hnone, List.nil_append] at htarget
  obtain ⟨r, hr, hedge⟩ := List.mem_filterMap.mp htarget
  obtain ⟨-, -, -, hself, hnode⟩ := edge?_eq_some.mp hedge
  refine ⟨?_, of_decide_eq_true (List.mem_filter.mp hr).2 ▸ hself⟩
  rwa [← OrderedMap.contains_iff_mem_keys, contains_build]

/-- **Accounting for references.** Every declared reference becomes one thing: nothing, an edge or a
problem. If no two kustomizations share an identity, the nodes are those of the kustomizations in
the order of declaration, each with the edges of its own references in their order, and the problems
are those of all references in order, so that references are edges, problems and references that
lead outside, counted together. In any case an edge leads to another node. -/
theorem build_accounts (templates : List Template) :
    (∀ r, ∃! o, Becomes templates r o) ∧
    ((identities templates).Nodup → ∃ rows : List (List Outcome),
      List.Forall₂ (fun d row =>
        List.Forall₂ (fun dep => Becomes templates ⟨d.1.name, d.2.identity d.1.name, dep⟩)
          d.2.dependsOn row) (declared templates) rows ∧
      (build templates).1.keys = identities templates ∧
      (build templates).1.values = List.zipWith nodeOf (declared templates) rows ∧
      (build templates).2 = rows.flatten.filterMap Outcome.problem? ∧
      (declarations templates).length =
        ((build templates).1.values.map (·.dependencies.length)).sum + (build templates).2.length +
          (declarations templates).countP (·.dependency.isExternal)) ∧
    ∀ id n, (build templates).1.get? id = some n →
      n.id = id ∧ ∀ target ∈ n.dependencies, target ∈ (build templates).1.keys ∧ target ≠ id := by
  refine ⟨existsUnique_becomes templates, fun hids => ?_, fun id n => of_get?_build⟩
  have hvalues : (build templates).1.values =
      (declared templates).map fun d => nodeOf d (outcomes templates d.1 d.2) := by
    rw [OrderedMap.values, entries_build hids, List.map_map]
    rfl
  have hproblems : (build templates).2 =
      ((declarations templates).map (·.outcome (nodes templates))).filterMap
        Outcome.problem? := by
    rw [problems_build, List.filterMap_map]
    rfl
  refine ⟨(declared templates).map fun d => outcomes templates d.1 d.2, ?_,
    keys_build_eq_identities_iff.mpr hids, ?_, ?_, ?_⟩
  · rw [List.forall₂_map_right_iff, List.forall₂_same]
    exact fun d _ => becomes_outcomes templates d
  · rw [hvalues, List.zipWith_map_right, List.zipWith_self]
  · rw [hproblems, ← List.flatMap_def, flatMap_outcomes]
  · have hedges : ((build templates).1.values.map (·.dependencies.length)).sum =
        (((declarations templates).map (·.outcome (nodes templates))).filterMap
          Outcome.edge?).length := by
      rw [← flatMap_outcomes, List.filterMap_flatMap, List.length_flatMap, hvalues, List.map_map]
      rfl
    rw [hedges, hproblems, ← count_outside, ← length_outcomes, List.length_map]

/-- A template whose kustomization has a reference of each kind: to a template that comes later, to
outside resources, three that cannot be read, to itself, to something that does not exist, and to a
neighbour. -/
def errands : Template :=
  { name := "shop", versions := [], kustomizations :=
      [Kustomization.bare "web" [.written "storage/disk", .external "redis" "tools",
        .value (.record [("raw", .record [("name", "mq"), ("namespace", "tools")])]) rfl,
        .written "a/b/c", .value .null rfl, .value (.record [("raw", "mq")]) rfl,
        .written " web ", .written "cache", .parsed (.within "db")],
        Kustomization.bare "db" []] }

/-- Of its nine references two are edges, five are problems and two lead outside. -/
theorem accounts_of_errands :
    (identities [errands, Generator.storage]).Nodup ∧
    (build [errands, Generator.storage]).1.keys = ["shop-web", "shop-db", "storage-disk"] ∧
    (build [errands, Generator.storage]).1.dependencies "shop-web" = ["storage-disk", "shop-db"] ∧
    (build [errands, Generator.storage]).2.map GraphProblem.message =
      ["Kustomization 'shop-web': Invalid dependency reference format: 'a/b/c' - expected " ++
          "'kustomization' or 'template/kustomization'",
        "Kustomization 'shop-web': Invalid dependency reference: None",
        "Kustomization 'shop-web': Invalid raw dependency reference: \x7b'raw': 'mq'\x7d - " ++
          "expected raw.name and raw.namespace",
        "Kustomization 'shop-web' cannot depend on itself",
        "Kustomization 'shop-web' depends on 'shop-cache' which does not exist"] ∧
    (declarations [errands, Generator.storage]).length = 2 + 5 + 2 := by
  have hids : (identities [errands, Generator.storage]).Nodup := by decide
  obtain ⟨rows, -, hkeys, -, -, hcount⟩ := (build_accounts [errands, Generator.storage]).2.1 hids
  exact ⟨hids, hkeys.trans rfl, rfl, rfl, hcount.trans rfl⟩

end Graph

end FluxFleet
