import FluxFleet.Proofs.Conflict
import FluxFleet.Proofs.Failure

/-!
# The verdict of the checks

The checks go through the templates in order, and what they report first depends on that order.
Whether they report anything does not: templates in another order declare the same kustomizations
and references, so the graph has the same nodes and edges, its problems are empty together, it is
acyclic together, and the same conflicts are reported. So the checks of two orders agree
(`Generator.agree_validate`), with one exception: if two kustomizations share an identity, the flag
that stands in the table is that of the later one.
-/

namespace FluxFleet

variable {templates templates' : List Template} {cluster : Cluster}

namespace Graph

/-! ## The graph -/

theorem declared_perm (h : templates.Perm templates') :
    (declared templates).Perm (declared templates') := h.flatMap_right _

theorem declarations_perm (h : templates.Perm templates') :
    (declarations templates).Perm (declarations templates') := (declared_perm h).flatMap_right _

theorem identities_perm (h : templates.Perm templates') :
    (identities templates).Perm (identities templates') := (declared_perm h).map _

theorem contains_nodes_of_perm (h : templates.Perm templates') (id : String) :
    (nodes templates).contains id = (nodes templates').contains id := by
  rw [Bool.eq_iff_iff, contains_nodes_iff, contains_nodes_iff, (identities_perm h).mem_iff]

/-- A reference has the same outcome in both graphs. -/
theorem outcome_of_perm (h : templates.Perm templates') (r : Declaration) :
    r.outcome (nodes templates) = r.outcome (nodes templates') :=
  outcome_congr (contains_nodes_of_perm h) r

theorem problems_of_perm (h : templates.Perm templates') (hnil : (build templates).2 = []) :
    (build templates').2 = [] := by
  rw [problems_build, List.filterMap_eq_nil_iff] at hnil ⊢
  intro r hr
  rw [← outcome_of_perm h]
  exact hnil r ((declarations_perm h).mem_iff.mpr hr)

theorem Edge.of_perm (h : templates.Perm templates') {a b : String}
    (hab : (build templates).1.Edge a b) : (build templates').1.Edge a b := by
  have hids := identities_perm h
  obtain ⟨hsource, htarget, hdeclared⟩ := hab
  rw [mem_keys_build] at hsource htarget
  refine ⟨mem_keys_build.mpr (hids.mem_iff.mp hsource),
    mem_keys_build.mpr (hids.mem_iff.mp htarget), ?_⟩
  rw [dependencies_build, List.mem_filterMap] at hdeclared ⊢
  obtain ⟨r, hr, hedge⟩ := hdeclared
  refine ⟨r, ?_, by rwa [← outcome_of_perm h]⟩
  exact ((declarations_perm h).filter _).mem_iff.mp hr

theorem acyclic_of_perm (h : templates.Perm templates') (hacyclic : (build templates).1.Acyclic) :
    (build templates').1.Acyclic :=
  fun a haa => hacyclic a (Relation.TransGen.mono (fun _ _ => Edge.of_perm h.symm) a a haa)

theorem checkNames_eq (templates : List Template) :
    checkNames templates =
      (do discard ((declared templates).mapM fun d => d.2.name.written); return ()) := by
  rw [← forIn_discard]
  rfl

/-- Every name that can be written passes. -/
theorem checkNames_eq_ok (h : ∀ d ∈ declared templates, ∃ s, d.2.name.written = .ok s) :
    checkNames templates = .ok () := by
  obtain ⟨names, hnames⟩ := @exists_mapM_eq_ok Error _ _ (fun d => d.2.name.written)
    (declared templates) h
  rw [checkNames_eq, hnames]
  rfl

theorem validate_of_problems (hnames : checkNames templates = .ok ())
    (h : (build templates).2 ≠ []) :
    validate templates = .error (.graph (build templates).2) := by
  rw [validate, hnames]
  rcases hbuild : build templates with ⟨g, _ | ⟨p, ps⟩⟩
  · rw [hbuild] at h
    exact absurd rfl h
  · rfl

theorem validate_of_cyclic (hnames : checkNames templates = .ok ())
    (hproblems : (build templates).2 = []) (h : ¬ (build templates).1.Acyclic) :
    validate templates = .error (.cycles (build templates).1.cycles) := by
  have horder : (build templates).1.order? = none := by
    rcases horder : (build templates).1.order? with _ | order
    · rfl
    · exact absurd (cycles_eq_nil_iff.mp (order?_eq_some_iff.mp horder).1) h
  rw [validate, hnames]
  simp only [hproblems, horder]
  rfl

theorem exists_validate_eq_ok (hnames : checkNames templates = .ok ())
    (hproblems : (build templates).2 = []) (h : (build templates).1.Acyclic) :
    ∃ order, validate templates = .ok order := by
  have horder := order?_eq_some_iff.mpr ⟨cycles_eq_nil_iff.mpr h, rfl⟩
  refine ⟨(Search.complete (build templates).1).order, ?_⟩
  rw [validate, hnames]
  simp only [hproblems, horder]
  rfl

/-- The references of both orders are accepted, or refused for the same kind of reason. -/
theorem agree_validate (h : templates.Perm templates')
    (hnames : ∀ d ∈ declared templates, ∃ s, d.2.name = .str s) :
    Agree (fun _ _ => True) (validate templates) (validate templates') := by
  have hwritten : ∀ d ∈ declared templates, ∃ s, d.2.name.written = .ok s := by
    intro d hd
    obtain ⟨s, hs⟩ := hnames d hd
    exact ⟨s, by rw [hs]; rfl⟩
  have hok := checkNames_eq_ok hwritten
  have hok' := checkNames_eq_ok fun d hd => hwritten d ((declared_perm h).mem_iff.mpr hd)
  by_cases hproblems : (build templates).2 = []
  · have hproblems' := problems_of_perm h hproblems
    by_cases hacyclic : (build templates).1.Acyclic
    · obtain ⟨order, horder⟩ := exists_validate_eq_ok hok hproblems hacyclic
      obtain ⟨order', horder'⟩ := exists_validate_eq_ok hok' hproblems' (acyclic_of_perm h hacyclic)
      rw [horder, horder']
      exact .ok trivial
    · rw [validate_of_cyclic hok hproblems hacyclic,
        validate_of_cyclic hok' hproblems' fun h' => hacyclic (acyclic_of_perm h.symm h')]
      exact .error rfl
  · rw [validate_of_problems hok hproblems,
      validate_of_problems hok' fun h' => hproblems (problems_of_perm h.symm h')]
    exact .error rfl

theorem Refers.of_perm (h : templates.Perm templates') {a b : String} (hab : Refers templates a b) :
    Refers templates' a b := by
  obtain ⟨t, ks, dep, ref, hd, hab⟩ := hab
  exact ⟨t, ks, dep, ref, (declared_perm h).mem_iff.mp hd, hab⟩

end Graph

/-! ## Enablement -/

namespace Enablement

open FluxFleet.Graph (declared_perm identities identities_perm)

theorem Deploys.of_perm (h : templates.Perm templates') {id : String}
    (hid : Deploys cluster templates id) : Deploys cluster templates' id := by
  obtain ⟨t, ks, hd, hid⟩ := hid
  exact ⟨t, ks, (declared_perm h).mem_iff.mp hd, hid⟩

theorem SwitchedOff.of_perm (h : templates.Perm templates') {id : String}
    (hid : SwitchedOff cluster templates id) : SwitchedOff cluster templates' id := by
  obtain ⟨t, ks, hd, hid⟩ := hid
  exact ⟨t, ks, (declared_perm h).mem_iff.mp hd, hid⟩

/-- What is reported for one order is reported for the other. -/
theorem mem_disabledDependencies_of_perm (h : templates.Perm templates')
    (hids : (identities templates).Nodup) {c : DisabledDependency}
    (hc : c ∈ disabledDependencies cluster templates) :
    c ∈ disabledDependencies cluster templates' := by
  obtain ⟨hsource, href, hoff⟩ := (mem_disabledDependencies hids).mp hc
  exact (mem_disabledDependencies ((identities_perm h).nodup_iff.mp hids)).mpr
    ⟨hsource.of_perm h, href.of_perm h, hoff.of_perm h⟩

theorem family_of_check_eq_error {e : Error} (h : check cluster templates = .error e) :
    e.family = .enablement := by
  rw [check] at h
  split at h
  · cases h
  · cases h
    rfl

/-- The enablement of both orders is accepted, or refused. -/
theorem agree_check (h : templates.Perm templates') (hids : (identities templates).Nodup) :
    Agree (fun _ _ => True) (check cluster templates) (check cluster templates') := by
  have hids' := (identities_perm h).nodup_iff.mp hids
  refine .of_family (fun u hu => ⟨u, ?_, trivial⟩) (fun u hu => ⟨u, ?_⟩)
    (fun e => family_of_check_eq_error) fun e => family_of_check_eq_error
  · rw [check_eq_ok, List.eq_nil_iff_forall_not_mem] at hu ⊢
    exact fun c hc => hu c (mem_disabledDependencies_of_perm h.symm hids' hc)
  · rw [check_eq_ok, List.eq_nil_iff_forall_not_mem] at hu ⊢
    exact fun c hc => hu c (mem_disabledDependencies_of_perm h hids hc)

end Enablement

/-- **The verdict.** Templates whose names are texts and whose identities are pairwise different
pass the checks in any order, or fail them in any order, and then for the same kind of reason. -/
theorem Generator.agree_validate (h : templates.Perm templates')
    (hids : (Graph.identities templates).Nodup)
    (hnames : ∀ d ∈ Graph.declared templates, ∃ s, d.2.name = .str s) :
    Agree (fun _ _ => True) (validate cluster templates) (validate cluster templates') := by
  have hgraph : Agree (fun _ _ => True) (discard (Graph.validate templates))
      (discard (Graph.validate templates')) :=
    (Graph.agree_validate h hnames).bind fun _ _ _ => .ok trivial
  exact hgraph.bind fun _ _ _ => Enablement.agree_check h hids

end FluxFleet
