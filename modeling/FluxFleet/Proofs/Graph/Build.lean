import FluxFleet.Proofs.Graph.Cycles
import FluxFleet.Proofs.Success

/-!
# What becomes of the declared references

The graph of a set of templates is built by going through all declared references. Whatever was
built before, a reference has the outcome that it has in the graph without edges, since no step adds
or removes a node. So the problems are those of the references one by one, in order
(`problems_build`), and the dependencies of a node are the edges of its own references
(`dependencies_build`). Without problems every reference between kustomizations is an edge.
-/

namespace FluxFleet

/-- The problem that a reference has, if it has one. -/
def Outcome.problem? : Outcome → Option GraphProblem
  | .problem p => some p
  | _ => none

/-- The node that a reference leads to, if it is an edge. -/
def Outcome.edge? : Outcome → Option String
  | .edge target => some target
  | _ => none

theorem Outcome.problem?_eq_some {o : Outcome} {p : GraphProblem} :
    o.problem? = some p ↔ o = .problem p := by
  cases o <;> simp [problem?]

theorem Outcome.edge?_eq_some {o : Outcome} {target : String} :
    o.edge? = some target ↔ o = .edge target := by
  cases o <;> simp [edge?]

/-- The node with more dependencies behind its own. -/
def GraphNode.extend (n : GraphNode) (targets : List String) : GraphNode :=
  { n with dependencies := n.dependencies ++ targets }

@[simp] theorem GraphNode.extend_nil (n : GraphNode) : n.extend [] = n := by
  simp [extend]

@[simp] theorem GraphNode.extend_extend (n : GraphNode) (targets targets' : List String) :
    (n.extend targets).extend targets' = n.extend (targets ++ targets') := by
  simp [extend]

namespace Graph

/-- The identities of all kustomizations, in the order of declaration. -/
def identities (templates : List Template) : List String :=
  (declared templates).map fun d => d.2.identity d.1.name

/-- A declared reference with the place where it stands. -/
structure Declaration where
  template : String
  /-- the identity of the kustomization -/
  source : String
  dependency : Dependency

/-- All declared references, in the order of declaration. -/
def declarations (templates : List Template) : List Declaration :=
  (declared templates).flatMap fun d =>
    d.2.dependsOn.map fun dep => ⟨d.1.name, d.2.identity d.1.name, dep⟩

/-- The outcome of a declared reference in a graph. -/
def Declaration.outcome (g : Graph) (r : Declaration) : Outcome :=
  Graph.outcome g r.template r.source r.dependency

/-- The kustomization `a` declares a reference that leads to the identity `b`. -/
def Refers (templates : List Template) (a b : String) : Prop :=
  ∃ t ks dep ref, (t, ks) ∈ declared templates ∧ ks.identity t.name = a ∧ dep ∈ ks.dependsOn ∧
    dep.reference = .ok ref ∧ ref.target? t.name = some b

variable {g g' : Graph} {templates : List Template}

theorem mem_declared {t : Template} {ks : Kustomization} :
    (t, ks) ∈ declared templates ↔ t ∈ templates ∧ ks ∈ t.kustomizations := by
  constructor
  · intro h
    obtain ⟨t', ht', hmem⟩ := List.mem_flatMap.mp h
    obtain ⟨ks', hks', heq⟩ := List.mem_map.mp hmem
    cases heq
    exact ⟨ht', hks'⟩
  · rintro ⟨ht, hks⟩
    exact List.mem_flatMap.mpr ⟨t, ht, List.mem_map.mpr ⟨ks, hks, rfl⟩⟩

theorem mem_declarations {r : Declaration} :
    r ∈ declarations templates ↔ ∃ t ks dep, (t, ks) ∈ declared templates ∧ dep ∈ ks.dependsOn ∧
      r = ⟨t.name, ks.identity t.name, dep⟩ := by
  constructor
  · intro h
    obtain ⟨⟨t, ks⟩, hd, hmem⟩ := List.mem_flatMap.mp h
    obtain ⟨dep, hdep, rfl⟩ := List.mem_map.mp hmem
    exact ⟨t, ks, dep, hd, hdep, rfl⟩
  · rintro ⟨t, ks, dep, hd, hdep, rfl⟩
    exact List.mem_flatMap.mpr ⟨(t, ks), hd, List.mem_map.mpr ⟨dep, hdep, rfl⟩⟩

/-! ## Nodes -/

theorem nodes_eq_ofList (templates : List Template) :
    nodes templates = OrderedMap.ofList ((declared templates).map fun d =>
      (d.2.identity d.1.name, { id := d.2.identity d.1.name, template := d.1.name,
                                kustomization := d.2.name })) := by
  rw [OrderedMap.ofList, OrderedMap.insertAll, List.foldl_map]
  rfl

/-- The nodes are the identities of the declared kustomizations. -/
theorem mem_keys_nodes {id : String} : id ∈ (nodes templates).keys ↔ id ∈ identities templates := by
  rw [nodes_eq_ofList, OrderedMap.mem_keys_ofList, List.map_map]
  rfl

theorem contains_nodes_iff {id : String} :
    (nodes templates).contains id = true ↔ id ∈ identities templates := by
  rw [OrderedMap.contains_iff_mem_keys, mem_keys_nodes]

/-! ## Edges -/

/-- An edge becomes the last dependency of its source. -/
theorem get?_addEdge (source target id : String) : (addEdge g source target).get? id =
    (g.get? id).map fun n => n.extend (if source = id then [target] else []) := by
  rw [addEdge, OrderedMap.modify]
  by_cases hid : id = source
  · subst hid
    rcases hn : g.get? id with _ | n
    · simp [hn]
    · simp [GraphNode.extend]
  · rcases hn : g.get? source with _ | n
    · simp [Ne.symm hid]
    · simp [OrderedMap.get?_insert_of_ne _ hid, Ne.symm hid]

/-- The outcome of a reference depends on which nodes there are only. -/
theorem outcome_congr (h : ∀ id, g.contains id = g'.contains id) (r : Declaration) :
    r.outcome g = r.outcome g' := by
  simp only [Declaration.outcome, outcome, h]

/-- A reference is an edge if it leads to another node. -/
theorem edge?_eq_some {r : Declaration} {id : String} :
    (r.outcome g).edge? = some id ↔ ∃ ref, r.dependency.reference = .ok ref ∧
      ref.target? r.template = some id ∧ id ≠ r.source ∧ g.contains id = true := by
  rw [Declaration.outcome, outcome]
  constructor
  · intro h
    split at h
    · cases h
    · next ref href =>
      split at h
      · cases h
      · next target htarget =>
        by_cases hself : target = r.source
        · rw [if_pos hself] at h
          cases h
        · by_cases hnode : g.contains target = true
          · rw [if_neg hself, if_pos hnode] at h
            cases h
            exact ⟨ref, href, htarget, hself, hnode⟩
          · rw [if_neg hself, if_neg hnode] at h
            cases h
  · rintro ⟨ref, href, htarget, hself, hnode⟩
    simp only [href, htarget, if_neg hself, if_pos hnode, Outcome.edge?]

/-- Taking in one reference adds its edge to its source and leaves all else in the graph. -/
theorem get?_addReference (r : Declaration) (ps : List GraphProblem) (id : String) :
    (addReference r.template r.source (g, ps) r.dependency).1.get? id =
      (g.get? id).map fun n =>
        n.extend (if r.source = id then (r.outcome g).edge?.toList else []) := by
  have hout : outcome g r.template r.source r.dependency = r.outcome g := rfl
  rcases ho : r.outcome g with _ | target | p
  · simp [addReference, hout, ho, Outcome.edge?]
  · simp [addReference, hout, ho, Outcome.edge?, get?_addEdge]
  · simp [addReference, hout, ho, Outcome.edge?]

/-- Taking in one reference adds its problem. -/
theorem problems_addReference (r : Declaration) (ps : List GraphProblem) :
    (addReference r.template r.source (g, ps) r.dependency).2 =
      ps ++ (r.outcome g).problem?.toList := by
  have hout : outcome g r.template r.source r.dependency = r.outcome g := rfl
  rcases ho : r.outcome g with _ | target | p <;> simp [addReference, hout, ho, Outcome.problem?]

/-- What is done to the nodes one by one adds and removes none. -/
theorem contains_of_get?_map {f : String → GraphNode → GraphNode}
    (h : ∀ id, g'.get? id = (g.get? id).map (f id)) (id : String) :
    g'.contains id = g.contains id := by
  rw [OrderedMap.contains, OrderedMap.contains, h, Option.isSome_map]

/-- Taking in references one after another, in a graph with the nodes of `base`. -/
theorem foldl_addReference (base : Graph) (rs : List Declaration) :
    ∀ acc : Graph × List GraphProblem, (∀ id, acc.1.contains id = base.contains id) →
      let out := rs.foldl (fun acc r => addReference r.template r.source acc r.dependency) acc
      (∀ id, out.1.get? id = (acc.1.get? id).map fun n =>
        n.extend ((rs.filter (·.source = id)).filterMap fun r => (r.outcome base).edge?)) ∧
      out.2 = acc.2 ++ rs.filterMap fun r => (r.outcome base).problem? := by
  induction rs with
  | nil =>
    intro acc _
    simp
  | cons r rs ih =>
    intro acc hacc
    obtain ⟨g, ps⟩ := acc
    have hget := get?_addReference (g := g) r ps
    obtain ⟨hget', hprob'⟩ := ih _ fun id => (contains_of_get?_map hget id).trans (hacc id)
    have hsame : r.outcome g = r.outcome base := outcome_congr hacc r
    refine ⟨fun id => ?_, ?_⟩
    · rw [List.foldl_cons, hget', hget, hsame, Option.map_map]
      refine congrArg (fun f => (g.get? id).map f) (funext fun n => ?_)
      by_cases hid : r.source = id
      · rcases ho : (r.outcome base).edge? with _ | target <;> simp [hid, ho]
      · simp [hid]
    · rw [List.foldl_cons, hprob', problems_addReference, hsame, List.append_assoc]
      rcases ho : (r.outcome base).problem? with _ | p <;> simp [ho]

theorem build_eq_foldl (templates : List Template) :
    build templates = (declarations templates).foldl
      (fun acc r => addReference r.template r.source acc r.dependency) (nodes templates, []) := by
  rw [declarations, List.foldl_flatMap, build]
  simp only [List.foldl_map]

/-- A node of the graph is a node without edges that has been given the edges of its references, in
the order of declaration. -/
theorem get?_build (templates : List Template) (id : String) :
    (build templates).1.get? id = ((nodes templates).get? id).map fun n =>
      n.extend (((declarations templates).filter (·.source = id)).filterMap fun r =>
        (r.outcome (nodes templates)).edge?) := by
  rw [build_eq_foldl]
  exact (foldl_addReference (nodes templates) _ (nodes templates, []) fun _ => rfl).1 id

/-- Building the graph adds and removes no node. -/
theorem contains_build (templates : List Template) (id : String) :
    (build templates).1.contains id = (nodes templates).contains id :=
  contains_of_get?_map (get?_build templates) id

theorem keys_addEdge (source target : String) : (addEdge g source target).keys = g.keys := by
  rw [addEdge, OrderedMap.modify]
  rcases hn : g.get? source with _ | n
  · rfl
  · exact OrderedMap.keys_insert_of_contains g _ (by rw [OrderedMap.contains, hn]; rfl)

/-- So the graph has its nodes in the order in which they were without edges. -/
theorem keys_build (templates : List Template) :
    (build templates).1.keys = (nodes templates).keys := by
  have hkeep : ∀ (rs : List Declaration) (acc : Graph × List GraphProblem),
      (rs.foldl (fun acc r => addReference r.template r.source acc r.dependency) acc).1.keys =
        acc.1.keys := by
    intro rs
    induction rs with
    | nil =>
      intro acc
      rfl
    | cons r rs ih =>
      intro acc
      rw [List.foldl_cons, ih, addReference]
      split
      · rfl
      · exact keys_addEdge _ _
      · rfl
  rw [build_eq_foldl]
  exact hkeep _ _

theorem mem_keys_build {id : String} :
    id ∈ (build templates).1.keys ↔ id ∈ identities templates := by
  rw [← OrderedMap.contains_iff_mem_keys, contains_build, contains_nodes_iff]

/-- The nodes are the identities, one for each kustomization, exactly if those are pairwise
different. -/
theorem keys_build_eq_identities_iff :
    (build templates).1.keys = identities templates ↔ (identities templates).Nodup := by
  have hkeys : (identities templates) =
      ((declared templates).map fun d => (d.2.identity d.1.name,
        ({ id := d.2.identity d.1.name, template := d.1.name, kustomization := d.2.name } :
          GraphNode))).map (·.1) := by
    rw [List.map_map]
    rfl
  rw [keys_build, nodes_eq_ofList]
  constructor
  · intro h
    rw [← h]
    exact OrderedMap.keys_nodup_ofList _
  · intro h
    rw [hkeys] at h ⊢
    exact OrderedMap.keys_ofList_of_nodup h

/-- The problems are those of the references one by one, in the order of declaration. -/
theorem problems_build (templates : List Template) :
    (build templates).2 =
      (declarations templates).filterMap fun r => (r.outcome (nodes templates)).problem? := by
  rw [build_eq_foldl]
  simpa using (foldl_addReference (nodes templates) _ (nodes templates, []) fun _ => rfl).2

/-- Without edges no node has dependencies, and each has the identity under which it stands. -/
theorem of_get?_nodes {id : String} {n : GraphNode} (h : (nodes templates).get? id = some n) :
    n.id = id ∧ n.dependencies = [] := by
  rw [nodes_eq_ofList] at h
  obtain ⟨d, -, hd⟩ := List.mem_map.mp (OrderedMap.mem_of_get?_ofList h)
  obtain ⟨rfl, rfl⟩ := Prod.mk.inj hd
  exact ⟨rfl, rfl⟩

/-- The kustomization that declares a reference is a node. -/
theorem contains_source {r : Declaration} (hr : r ∈ declarations templates) :
    (nodes templates).contains r.source = true := by
  obtain ⟨t, ks, dep, hd, -, rfl⟩ := mem_declarations.mp hr
  exact contains_nodes_iff.mpr (List.mem_map.mpr ⟨(t, ks), hd, rfl⟩)

/-- The dependencies of a node are the edges of its references, in the order of declaration. -/
theorem dependencies_build (templates : List Template) (id : String) :
    (build templates).1.dependencies id =
      ((declarations templates).filter (·.source = id)).filterMap fun r =>
        (r.outcome (nodes templates)).edge? := by
  rw [dependencies, get?_build]
  rcases hn : (nodes templates).get? id with _ | n
  · have hnone : (declarations templates).filter (·.source = id) = [] := by
      refine List.filter_eq_nil_iff.mpr fun r hr hid => ?_
      have hsource := contains_source hr
      rw [of_decide_eq_true hid, OrderedMap.contains, hn] at hsource
      cases hsource
    rw [hnone]
    rfl
  · simp [GraphNode.extend, (of_get?_nodes hn).2]

/-! ## Graphs without problems -/

/-- Without problems a reference between kustomizations is an edge to another node. -/
theorem edge_of_refers (h : (build templates).2 = []) {a b : String}
    (hab : Refers templates a b) : (build templates).1.Edge a b ∧ b ≠ a := by
  obtain ⟨t, ks, dep, ref, hd, rfl, hdep, href, htarget⟩ := hab
  have hr : ⟨t.name, ks.identity t.name, dep⟩ ∈ declarations templates :=
    mem_declarations.mpr ⟨t, ks, dep, hd, hdep, rfl⟩
  have hnone : (Declaration.outcome (nodes templates)
      ⟨t.name, ks.identity t.name, dep⟩).problem? = none := by
    rw [problems_build, List.filterMap_eq_nil_iff] at h
    exact h _ hr
  have hout : Declaration.outcome (nodes templates) ⟨t.name, ks.identity t.name, dep⟩ =
      if b = ks.identity t.name then .problem (.selfReference (ks.identity t.name))
      else if (nodes templates).contains b then .edge b
      else .problem (.missing (ks.identity t.name) b) := by
    simp only [Declaration.outcome, outcome, href, htarget]
  by_cases hself : b = ks.identity t.name
  · rw [hout, if_pos hself] at hnone
    cases hnone
  · by_cases hnode : (nodes templates).contains b = true
    · rw [if_neg hself, if_pos hnode] at hout
      refine ⟨⟨mem_keys_build.mpr (List.mem_map.mpr ⟨(t, ks), hd, rfl⟩), ?_, ?_⟩, hself⟩
      · rw [← OrderedMap.contains_iff_mem_keys, contains_build]
        exact hnode
      · rw [dependencies_build]
        refine List.mem_filterMap.mpr ⟨_, List.mem_filter.mpr ⟨hr, by simp⟩, ?_⟩
        rw [hout]
        rfl
    · rw [hout, if_neg hself, if_neg hnode] at hnone
      cases hnone

/-- Templates whose dependencies are accepted have a graph without problems, and the order that is
returned is its order. -/
theorem order?_of_validate {order : List String} (h : validate templates = .ok order) :
    (build templates).2 = [] ∧ (build templates).1.order? = some order := by
  obtain ⟨_, -, h⟩ := bind_eq_ok.mp h
  rcases hproblems : (build templates).2 with _ | ⟨p, ps⟩
  · refine ⟨rfl, ?_⟩
    rcases horder : (build templates).1.order? with _ | order'
    · simp only [hproblems, horder] at h
      cases h
    · simp only [hproblems, horder] at h
      cases h
      rfl
  · simp only [hproblems] at h
    cases h

/-- So their graph has no cycles either. -/
theorem of_validate_eq_ok {order : List String} (h : validate templates = .ok order) :
    (build templates).2 = [] ∧ (build templates).1.Acyclic := by
  obtain ⟨hproblems, horder⟩ := order?_of_validate h
  exact ⟨hproblems, cycles_eq_nil_iff.mp (order?_eq_some_iff.mp horder).1⟩

end Graph

end FluxFleet
