import Mathlib.Data.List.Nodup
import FluxFleet.Project
import FluxFleet.Proofs.Success

/-!
# Loaded projects

A project is loaded from its files one after the other (`load_eq_ok`). Afterwards the names of its
templates are pairwise different (`names_nodup_of_load`). Those of its clusters need not be, and a
cluster is found by its name only if no earlier one has the name (`clusterNamed_eq_ok`).
-/

namespace FluxFleet.Project

variable {stack : Stack} {fs : FileSystem} {path : Path} {p : Project}

/-- What is loaded from a directory that is there: the templates, then the clusters. -/
theorem load_eq_ok : load stack fs path = .ok p ↔
    home? path = none ∧ Path.checkStarts path.root [] path.parts = .ok () ∧
      fs.isDirectory (fs.absolute path) = true ∧ p.path = fs.absolute path ∧
      repeated (p.templates.map (·.name)) = [] ∧ ∃ next last,
        ((templateFiles fs ((fs.absolute path).child "templates")).mapM
          (template stack fs ((fs.absolute path).child "templates"))).run 0 =
            .ok (p.templates, next) ∧
        ((clusterFiles fs ((fs.absolute path).child "clusters")).mapM (cluster stack fs)).run next =
          .ok (p.clusters, last) := by
  constructor
  · intro h
    rw [load] at h
    rcases hhome : home? path with _ | name
    · simp only [hhome] at h
      obtain ⟨_, hstarts, h⟩ := bind_eq_ok.mp h
      rcases hdir : fs.isDirectory (fs.absolute path) with _ | _
      · simp only [hdir] at h
        cases h
      · simp only [hdir] at h
        obtain ⟨⟨templates, next⟩, htemplates, h⟩ := bind_eq_ok.mp h
        obtain ⟨⟨clusters, last⟩, hclusters, h⟩ := bind_eq_ok.mp h
        rcases hrepeated : repeated (templates.map (·.name)) with _ | ⟨name, names⟩
        · simp only [hrepeated] at h
          cases h
          exact ⟨rfl, hstarts, rfl, rfl, hrepeated, next, last, htemplates, hclusters⟩
        · simp only [hrepeated] at h
          cases h
    · simp only [hhome] at h
      split at h <;> cases h
  · obtain ⟨root, templates, clusters⟩ := p
    rintro ⟨hhome, hstarts, hdir, rfl, hrepeated, next, last, htemplates, hclusters⟩
    rw [load]
    simp only [hhome, hdir]
    refine bind_eq_ok.mpr ⟨(), hstarts, bind_eq_ok.mpr ⟨(templates, next), htemplates,
      bind_eq_ok.mpr ⟨(clusters, last), hclusters, ?_⟩⟩⟩
    simp only [hrepeated]
    rfl

/-- No name occurs more than once exactly if the names are pairwise different. -/
theorem repeated_eq_nil_iff {names : List String} : repeated names = [] ↔ names.Nodup := by
  rw [List.eq_nil_iff_forall_not_mem, List.nodup_iff_count_le_one]
  simp only [repeated, List.mem_eraseDups, List.mem_mergeSort, List.mem_filter, decide_eq_true_iff,
    not_and, Nat.not_lt]
  constructor
  · intro h n
    by_cases hn : n ∈ names
    · exact h n hn
    · rw [List.count_eq_zero_of_not_mem hn]
      exact Nat.zero_le 1
  · intro h n _
    exact h n

/-- The templates of a loaded project have pairwise different names. -/
theorem names_nodup_of_load (h : load stack fs path = .ok p) : (p.templates.map (·.name)).Nodup :=
  repeated_eq_nil_iff.mp (load_eq_ok.mp h).2.2.2.2.1

/-- Of the clusters of one name the first one is found. -/
theorem clusterNamed_eq_ok {name : String} {c : Cluster} :
    p.clusterNamed name = .ok c ↔ p.clusters.find? (·.name == name) = some c := by
  rw [clusterNamed]
  split
  · next c' hfind =>
    rw [hfind, Option.some_inj]
    exact ⟨Except.ok.inj, congrArg Except.ok⟩
  · next hfind =>
    rw [hfind]
    exact ⟨nofun, nofun⟩

/-- So every cluster is found by its name if no two have one name. -/
theorem clusterNamed_of_nodup (h : (p.clusters.map (·.name)).Nodup) {c : Cluster}
    (hc : c ∈ p.clusters) : p.clusterNamed c.name = .ok c := by
  rw [clusterNamed_eq_ok]
  rcases hfind : p.clusters.find? (·.name == c.name) with _ | c'
  · exact absurd (beq_self_eq_true c.name) (List.find?_eq_none.mp hfind c hc)
  · have hname := List.find?_some hfind
    have hname : c'.name = c.name := beq_iff_eq.mp hname
    rw [hfind, List.inj_on_of_nodup_map h (List.mem_of_find?_eq_some hfind) hc hname]

end FluxFleet.Project
