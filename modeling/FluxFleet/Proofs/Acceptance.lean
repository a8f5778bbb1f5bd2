import FluxFleet.Proofs.Verdict

/-!
# Which templates have an order of deployment

What stands in the way of an order is said here of the templates, without a graph. A reference can
be flawed in three ways (`Flawed`), and references without a flaw can still lead in a circle. The
check accepts templates exactly if neither occurs. Otherwise it reports every flaw, one for each
flawed reference in the order of declaration, or else cycles of references
(`validate_accepts_iff`).
-/

namespace FluxFleet

namespace Graph

variable {templates : List Template}

/-- What is wrong with a declared reference: it cannot be read, it leads back to the kustomization
that declares it, or it leads to no kustomization of the templates. -/
inductive Flawed (templates : List Template) (r : Declaration) : GraphProblem → Prop
  | malformed {fault : ReferenceFault} (h : r.dependency.reference = .error fault) :
    Flawed templates r (.malformed r.source r.dependency.text fault.message)
  | selfReference {ref : Reference} (h : r.dependency.reference = .ok ref)
    (htarget : ref.target? r.template = some r.source) :
    Flawed templates r (.selfReference r.source)
  | missing {ref : Reference} {id : String} (h : r.dependency.reference = .ok ref)
    (htarget : ref.target? r.template = some id) (hself : id ≠ r.source)
    (hunknown : id ∉ identities templates) : Flawed templates r (.missing r.source id)

/-- Every reference can be read and leads to another kustomization of the templates, or to a
resource outside them. -/
structure WellReferred (templates : List Template) : Prop where
  parsed : ∀ r ∈ declarations templates, ∃ ref, r.dependency.reference = .ok ref
  other : ∀ a b, Refers templates a b → b ≠ a
  known : ∀ a b, Refers templates a b → b ∈ identities templates

/-- The problem that the graph has with a reference is its flaw. -/
theorem problem?_eq_some {r : Declaration} {p : GraphProblem} :
    (r.outcome (nodes templates)).problem? = some p ↔ Flawed templates r p := by
  constructor
  · intro h
    rw [Declaration.outcome, outcome] at h
    split at h
    · next fault hfault =>
      cases h
      exact .malformed hfault
    · next ref href =>
      split at h
      · cases h
      · next id htarget =>
        by_cases hself : id = r.source
        · subst hself
          rw [if_pos rfl] at h
          cases h
          exact .selfReference href htarget
        · rw [if_neg hself] at h
          by_cases hid : (nodes templates).contains id = true
          · rw [if_pos hid] at h
            cases h
          · rw [if_neg hid] at h
            cases h
            exact .missing href htarget hself fun hmem => hid (contains_nodes_iff.mpr hmem)
  · intro h
    rw [Declaration.outcome, outcome]
    cases h with
    | malformed hfault => simp only [hfault, Outcome.problem?]
    | selfReference href htarget => simp only [href, htarget, if_true, Outcome.problem?]
    | @missing ref id href htarget hself hunknown =>
      have hid : ¬ (nodes templates).contains id = true :=
        fun h => hunknown (contains_nodes_iff.mp h)
      simp only [href, htarget, if_neg hself, if_neg hid, Outcome.problem?]

/-- Whether a reference is flawed can be decided by what becomes of it in the graph. -/
instance (r : Declaration) : Decidable (∃ p, Flawed templates r p) :=
  decidable_of_iff ((r.outcome (nodes templates)).problem?.isSome = true) (by
    simp only [Option.isSome_iff_exists, problem?_eq_some])

/-- The references of templates are in order exactly if none is flawed. -/
theorem wellReferred_iff :
    WellReferred templates ↔ ∀ r ∈ declarations templates, ¬ ∃ p, Flawed templates r p := by
  constructor
  · rintro ⟨hparsed, hother, hknown⟩ r hr ⟨p, hp⟩
    obtain ⟨t, ks, dep, hd, hdep, rfl⟩ := mem_declarations.mp hr
    cases hp with
    | malformed hfault =>
      obtain ⟨ref, href⟩ := hparsed _ hr
      rw [hfault] at href
      cases href
    | selfReference href htarget =>
      exact hother _ _ ⟨t, ks, dep, _, hd, rfl, hdep, href, htarget⟩ rfl
    | missing href htarget _ hunknown =>
      exact hunknown (hknown _ _ ⟨t, ks, dep, _, hd, rfl, hdep, href, htarget⟩)
  · intro h
    have hsound : ∀ a b, Refers templates a b → b ≠ a ∧ b ∈ identities templates := by
      rintro a b ⟨t, ks, dep, ref, hd, rfl, hdep, href, htarget⟩
      have hr : ⟨t.name, ks.identity t.name, dep⟩ ∈ declarations templates :=
        mem_declarations.mpr ⟨t, ks, dep, hd, hdep, rfl⟩
      have hself : b ≠ ks.identity t.name := by
        rintro rfl
        exact h _ hr ⟨_, .selfReference href htarget⟩
      refine ⟨hself, ?_⟩
      by_contra hunknown
      exact h _ hr ⟨_, .missing href htarget hself hunknown⟩
    refine ⟨fun r hr => ?_, fun a b hab => (hsound a b hab).1, fun a b hab => (hsound a b hab).2⟩
    rcases href : r.dependency.reference with fault | ref
    · exact absurd ⟨_, .malformed href⟩ (h r hr)
    · exact ⟨ref, rfl⟩

/-- What a function gives for the members for which it gives anything, one by one. -/
theorem forall₂_filterMap {α β : Type} (f : α → Option β) (xs : List α) :
    List.Forall₂ (fun x y => f x = some y) (xs.filter fun x => (f x).isSome) (xs.filterMap f) := by
  induction xs with
  | nil => exact .nil
  | cons x xs ih =>
    rcases hx : f x with _ | y
    · rw [List.filter_cons_of_neg (by simp [hx]), List.filterMap_cons_none hx]
      exact ih
    · rw [List.filter_cons_of_pos (by simp [hx]), List.filterMap_cons_some hx]
      exact .cons hx ih

/-- The problems of the graph are the flaws of the flawed references, one by one. -/
theorem flawed_problems_build (templates : List Template) :
    List.Forall₂ (Flawed templates)
      ((declarations templates).filter fun r => ∃ p, Flawed templates r p) (build templates).2 := by
  have hfilter : ((declarations templates).filter fun r => ∃ p, Flawed templates r p) =
      (declarations templates).filter fun r => (r.outcome (nodes templates)).problem?.isSome := by
    refine List.filter_congr fun r _ => ?_
    rw [Bool.eq_iff_iff, decide_eq_true_iff, Option.isSome_iff_exists]
    simp only [problem?_eq_some]
  rw [hfilter, problems_build]
  exact (forall₂_filterMap (fun r : Declaration => (r.outcome (nodes templates)).problem?) _).imp
    fun _ _ h => problem?_eq_some.mp h

theorem problems_build_eq_nil_iff : (build templates).2 = [] ↔ WellReferred templates := by
  rw [wellReferred_iff, problems_build, List.filterMap_eq_nil_iff]
  refine forall₂_congr fun r _ => ?_
  rw [Option.eq_none_iff_forall_ne_some]
  simp only [ne_eq, problem?_eq_some, not_exists]

/-- An edge of the graph is a reference. -/
theorem refers_of_edge {a b : String} (h : (build templates).1.Edge a b) :
    Refers templates a b := by
  have hdeclared := h.declared
  rw [dependencies_build, List.mem_filterMap] at hdeclared
  obtain ⟨r, hr, hedge⟩ := hdeclared
  obtain ⟨hr, hsource⟩ := List.mem_filter.mp hr
  obtain ⟨t, ks, dep, hd, hdep, rfl⟩ := mem_declarations.mp hr
  obtain ⟨ref, href, htarget, -, -⟩ := edge?_eq_some.mp hedge
  exact ⟨t, ks, dep, ref, hd, of_decide_eq_true hsource, hdep, href, htarget⟩

/-- If no reference is flawed, the edges of the graph are the references. -/
theorem edge_build_iff (h : WellReferred templates) {a b : String} :
    (build templates).1.Edge a b ↔ Refers templates a b :=
  ⟨refers_of_edge, fun hab => (edge_of_refers (problems_build_eq_nil_iff.mpr h) hab).1⟩

theorem acyclic_build_iff (h : WellReferred templates) :
    (build templates).1.Acyclic ↔ ∀ a, ¬ Relation.TransGen (Refers templates) a a := by
  have hsame : (build templates).1.Edge = Refers templates := by
    funext a b
    exact propext (edge_build_iff h)
  rw [Acyclic, hsame]

/-- A closed walk of references that never lead back at once passes through two kustomizations. -/
theorem exists_ne_of_closedWalk {g : Graph} {walk : List String} (h : g.ClosedWalk walk)
    (hother : ∀ a b, g.Edge a b → b ≠ a) : ∃ a ∈ walk, ∃ b ∈ walk, a ≠ b := by
  rcases walk with _ | ⟨a, _ | ⟨b, rest⟩⟩
  · exact absurd h.two_le (by simp)
  · exact absurd h.two_le (by simp)
  · obtain ⟨hab, -⟩ := List.isChain_cons_cons.mp h.edges
    exact ⟨a, by simp, b, by simp, (hother a b hab).symm⟩

/-- **The order of deployment.** Templates are accepted exactly if every reference can be read, none
leads to its own kustomization, each that does not lead outside leads to a kustomization, and the
references form no cycle. The order that is returned then holds every kustomization once, behind all
that it refers to. A flawed reference is always reported, with all other flaws and whatever cycles
there are; without flaws a cycle is, and each reported cycle passes through two kustomizations at
least. -/
theorem validate_accepts_iff
    (hnames : ∀ d ∈ declared templates, ∃ name, d.2.name.written = .ok name)
    (hids : (identities templates).Nodup) :
    ((∃ order, validate templates = .ok order) ↔
      WellReferred templates ∧ ∀ a, ¬ Relation.TransGen (Refers templates) a a) ∧
    (∀ order, validate templates = .ok order →
      order.Perm (identities templates) ∧
        ∀ a b, Refers templates a b → order.idxOf b < order.idxOf a) ∧
    (¬ WellReferred templates → ∃ problems, validate templates = .error (.graph problems) ∧
      problems ≠ [] ∧ List.Forall₂ (Flawed templates)
        ((declarations templates).filter fun r => ∃ p, Flawed templates r p) problems) ∧
    (WellReferred templates → (∃ a, Relation.TransGen (Refers templates) a a) →
      ∃ cycles, validate templates = .error (.cycles cycles) ∧ cycles ≠ [] ∧
        ∀ c ∈ cycles, c.path.IsChain (Refers templates) ∧ c.path.head? = c.path.getLast? ∧
          ∃ a ∈ c.path, ∃ b ∈ c.path, a ≠ b) := by
  have hok := checkNames_eq_ok hnames
  refine ⟨⟨?_, ?_⟩, fun order horder => ?_, fun hflawed => ?_, fun hsound hcyclic => ?_⟩
  · rintro ⟨order, horder⟩
    obtain ⟨hproblems, hacyclic⟩ := of_validate_eq_ok horder
    have hsound := problems_build_eq_nil_iff.mp hproblems
    exact ⟨hsound, (acyclic_build_iff hsound).mp hacyclic⟩
  · rintro ⟨hsound, hacyclic⟩
    exact exists_validate_eq_ok hok (problems_build_eq_nil_iff.mpr hsound)
      ((acyclic_build_iff hsound).mpr hacyclic)
  · obtain ⟨hproblems, hfound⟩ := order?_of_validate horder
    have hsound := problems_build_eq_nil_iff.mp hproblems
    obtain ⟨hnodup, hmem, hbefore⟩ := (order?_isSome_iff_acyclic _).2 order hfound
    refine ⟨(List.perm_ext_iff_of_nodup hnodup hids).mpr fun id => ?_, fun a b hab => ?_⟩
    · rw [hmem, mem_keys_build]
    · exact hbefore a b ((edge_build_iff hsound).mpr hab)
  · have hproblems : (build templates).2 ≠ [] := fun h => hflawed (problems_build_eq_nil_iff.mp h)
    exact ⟨_, validate_of_problems hok hproblems, hproblems, flawed_problems_build templates⟩
  · have hcyclic' : ¬ (build templates).1.Acyclic := by
      rw [acyclic_build_iff hsound]
      obtain ⟨a, haa⟩ := hcyclic
      exact fun h => h a haa
    refine ⟨_, validate_of_cyclic hok (problems_build_eq_nil_iff.mpr hsound) hcyclic', ?_,
      fun c hc => ?_⟩
    · exact fun h => hcyclic' (cycles_eq_nil_iff.mp h)
    · have hwalk := closedWalk_of_mem_cycles hc
      refine ⟨hwalk.edges.imp fun _ _ => refers_of_edge, hwalk.closed, ?_⟩
      exact exists_ne_of_closedWalk hwalk fun a b hab => hsound.other a b (refers_of_edge hab)

/-- The references of a shop are in order if its database waits for a disk, and the database comes
before the web. -/
theorem order_of_shop :
    (identities [Generator.shop (.written " storage/disk"), Generator.storage]).Nodup ∧
    WellReferred [Generator.shop (.written " storage/disk"), Generator.storage] ∧
    ∃ order, validate [Generator.shop (.written " storage/disk"), Generator.storage] = .ok order ∧
      order.idxOf "shop-db" < order.idxOf "shop-web" := by
  have hids : (identities
      [Generator.shop (.written " storage/disk"), Generator.storage]).Nodup := by decide
  have hnames : ∀ d ∈ declared [Generator.shop (.written " storage/disk"), Generator.storage],
      ∃ name, d.2.name.written = .ok name := by
    intro d hd
    rcases List.mem_cons.mp hd with rfl | hd
    · exact ⟨"web", rfl⟩
    rcases List.mem_pair.mp hd with rfl | rfl
    · exact ⟨"db", rfl⟩
    · exact ⟨"disk", rfl⟩
  obtain ⟨haccepted, hordered, -, -⟩ := validate_accepts_iff hnames hids
  refine ⟨hids, (haccepted.mp ⟨_, rfl⟩).1, _, rfl, (hordered _ rfl).2 _ _ ?_⟩
  exact ⟨_, _, _, .within "db", List.mem_cons_self, rfl, List.mem_cons_self, rfl, rfl⟩

/-- A missing kustomization is reported although two others wait for each other. -/
example : validate [{ name := "shop", versions := [], kustomizations :=
    [Kustomization.bare "web" [.written "db", .written "cache"],
      Kustomization.bare "db" [.written "web"]] }] =
      .error (.graph [.missing "shop-web" "shop-cache"]) := rfl

end Graph

end FluxFleet
