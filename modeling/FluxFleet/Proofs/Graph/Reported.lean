import FluxFleet.Proofs.Graph.Cycles
import Mathlib.Data.List.Rotate

/-!
# Reported cycles are simple and differ from each other

The nodes that the search has reached have a lasting order: first those that are finished, then the
path back to the root (`Search.timeline`). A step only ever adds a node to it, and a node is
finished at its place. A cycle is cut out of the path, so its nodes stand in this order, and since
no node stands there twice, two cycles through the same nodes are one and the same
(`Search.Aligned`, `eq_of_perm_nodes`). A cycle can still be reported twice, namely if the
dependency that closes it is declared twice. Where no dependency is, every reported cycle is new
(`Search.Fresh`).
-/

namespace FluxFleet

/-- The nodes of a cycle, each once. -/
def Cycle.nodes (c : Cycle) : List String := c.path.dropLast

namespace Search

open FluxFleet.Graph (Closes)

variable {g : Graph} {s s' : Search}

/-! ## The order in which nodes are finished -/

/-- The nodes that have been reached, in the order in which they are finished: those of the path
follow from the current one to the root. -/
def timeline (s : Search) : List String := s.order ++ s.path

/-- Finishing a node leaves the order of all nodes as it is, and entering one adds it. -/
theorem timeline_step (hs : Step g s s') : s.timeline.Sublist s'.timeline := by
  cases hs with
  | @finish a path unread hp hu =>
    have hsame : s.timeline = (s.order ++ [a]) ++ path := by
      rw [timeline, hp, List.append_assoc]
      rfl
    exact hsame ▸ List.Sublist.refl _
  | pass hp hu hd => exact List.Sublist.refl _
  | close hp hu hk hd => exact List.Sublist.refl _
  | enter hp hu hk hd => exact (List.sublist_cons_self _ _).append_left _

/-- The nodes of every reported cycle follow each other as they are finished, last to first. -/
def Aligned (s : Search) : Prop := ∀ c ∈ s.cycles, c.nodes.reverse.Sublist s.timeline

/-- The nodes of a cycle that is closed are the beginning of the path. -/
theorem reverse_nodes_closing {a d : String} {path : List String} (hd : d ∈ a :: path) :
    (closing (a :: path) d).nodes.reverse <+: a :: path := by
  obtain ⟨rest, hpre, -, hpath⟩ := Invariant.closing_path hd
  have hnodes : (closing (a :: path) d).nodes = (a :: rest).reverse := by
    rw [Cycle.nodes, hpath]
    simp [List.dropLast_append_of_ne_nil]
  rwa [hnodes, List.reverse_reverse]

theorem Aligned.step (h : Invariant g s) (hs : Step g s s') (ha : s.Aligned) : s'.Aligned := by
  have hkept : ∀ c ∈ s.cycles, c.nodes.reverse.Sublist s'.timeline := fun c hc =>
    (ha c hc).trans (timeline_step hs)
  cases hs with
  | finish hp hu => exact hkept
  | pass hp hu hd => exact hkept
  | @close a d path ds unread hp hu hk hd =>
    intro c hc
    rcases List.mem_append.mp hc with hold | hnew
    · exact hkept c hold
    · obtain rfl := List.mem_singleton.mp hnew
      have hmem : d ∈ s.path := (h.grey_iff d).mp hd
      rw [hp] at hmem
      have hcut : (closing s.path d).nodes.reverse <+: s.path := by
        rw [hp]
        exact reverse_nodes_closing hmem
      exact hcut.sublist.trans (List.sublist_append_right _ _)
  | enter hp hu hk hd => exact hkept

theorem Aligned.enter (ha : s.Aligned) (d : String) : (enter g s d).Aligned := fun c hc =>
  (ha c hc).trans ((List.sublist_cons_self _ _).append_left _)

/-- The nodes of the cycles that the complete search reports follow each other in its order. -/
theorem aligned_complete (g : Graph) {c : Cycle} (hc : c ∈ g.cycles) :
    c.nodes.reverse.Sublist (complete g).order := by
  have hall : (complete g).Aligned :=
    complete_keeps (fun c hc => absurd hc List.not_mem_nil) (fun _ _ ha => ha.enter _) Aligned.step
  have hsub := hall c hc
  rwa [timeline, (resting_complete g).path_eq_nil, List.append_nil] at hsub

/-! ## Dependencies that are declared once -/

/-- With every dependency declared once: no dependency that is still unread has closed a cycle, and
no cycle has been reported twice. -/
structure Fresh (s : Search) : Prop where
  aligned : s.Aligned
  unread : List.Forall₂ (fun a ds => ∀ d ∈ ds, ¬ Closes s.cycles a d) s.path s.unread
  distinct : s.cycles.Pairwise (· ≠ ·)

/-- The node where the closing edge of a cycle starts has been reached. -/
theorem Aligned.mem_timeline (ha : s.Aligned) {a d : String} (h : Closes s.cycles a d) :
    a ∈ s.timeline := by
  obtain ⟨c, hc, start, hpath⟩ := h
  refine (ha c hc).subset ?_
  rw [Cycle.nodes, hpath]
  simp [List.dropLast_append_of_ne_nil]

/-- A node that has not been reached is nowhere in the order of those that have been. -/
theorem Invariant.not_mem_timeline (h : Invariant g s) {id : String} (hid : s.colour id = .white) :
    id ∉ s.timeline := by
  intro hmem
  rcases List.mem_append.mp hmem with horder | hpath
  · rw [(h.black_iff id).mpr horder] at hid
    cases hid
  · rw [(h.grey_iff id).mpr hpath] at hid
    cases hid

/-- A cycle is closed by the edge that is being read and by no other one. -/
theorem closes_append_closing {cycles : List Cycle} {a b d d' : String} {path : List String}
    (hd : d ∈ a :: path) (h : Closes (cycles ++ [closing (a :: path) d]) b d') :
    Closes cycles b d' ∨ (b = a ∧ d' = d) := by
  obtain ⟨c, hc, start, hstart⟩ := h
  rcases List.mem_append.mp hc with hold | hnew
  · exact Or.inl ⟨c, hold, start, hstart⟩
  · obtain rfl := List.mem_singleton.mp hnew
    obtain ⟨rest, -, -, hpath⟩ := Invariant.closing_path hd
    have hends : [b, d'] = [a, d] := (List.append_inj' (hstart.symm.trans hpath) rfl).2
    exact Or.inr (by simpa using hends)

/-- A cycle whose closing edge has closed none is new. -/
theorem ne_closing {cycles : List Cycle} {a d : String} {path : List String} (hd : d ∈ a :: path)
    (h : ¬ Closes cycles a d) {c : Cycle} (hc : c ∈ cycles) : c ≠ closing (a :: path) d := by
  rintro rfl
  obtain ⟨rest, -, -, hpath⟩ := Invariant.closing_path hd
  exact h ⟨_, hc, rest.reverse, hpath⟩

/-- A dependency that is declared once is not waiting any more when it is read. -/
theorem Invariant.not_mem_unread (hdeps : ∀ id ∈ g.keys, (g.dependencies id).Nodup)
    (h : Invariant g s) {a d : String} {path ds : List String} {unread : List (List String)}
    (hp : s.path = a :: path) (hu : s.unread = (d :: ds) :: unread) : d ∉ ds := by
  obtain ⟨⟨read, hread, -⟩, -⟩ := h.reading_current hp hu
  have hnodup := hdeps a (h.path_mem a (by simp [hp]))
  rw [hread] at hnodup
  exact (List.nodup_cons.mp (List.nodup_append.mp hnodup).2.1).1

theorem Fresh.step (hdeps : ∀ id ∈ g.keys, (g.dependencies id).Nodup) (h : Invariant g s)
    (hs : Step g s s') (hf : s.Fresh) : s'.Fresh := by
  have haligned : s'.Aligned := hf.aligned.step h hs
  have hunread := hf.unread
  cases hs with
  | finish hp hu =>
    rw [hp, hu] at hunread
    exact ⟨haligned, (List.forall₂_cons.mp hunread).2, hf.distinct⟩
  | pass hp hu hd =>
    rw [hp, hu] at hunread
    obtain ⟨hcur, hrest⟩ := List.forall₂_cons.mp hunread
    exact ⟨haligned,
      Invariant.forall₂_path hp (fun d hd => hcur d (List.mem_cons_of_mem _ hd)) hrest, hf.distinct⟩
  | @close a d path ds unread hp hu hk hd =>
    rw [hp, hu] at hunread
    obtain ⟨hcur, hrest⟩ := List.forall₂_cons.mp hunread
    have hmem : d ∈ a :: path := hp ▸ (h.grey_iff d).mp hd
    obtain ⟨hnot, -⟩ : a ∉ path ∧ path.Nodup := List.nodup_cons.mp (hp ▸ h.path_nodup)
    have hds : d ∉ ds := h.not_mem_unread hdeps hp hu
    -- the new cycle is closed by the edge from `a` to `d`, which no frame has still to read
    have hclose : ∀ {b d'}, Closes (s.cycles ++ [closing s.path d]) b d' →
        Closes s.cycles b d' ∨ (b = a ∧ d' = d) := by
      rw [hp]
      exact closes_append_closing hmem
    refine ⟨haligned, Invariant.forall₂_path hp (fun d' hd' hc => ?_) ?_, ?_⟩
    · rcases hclose hc with hold | ⟨-, rfl⟩
      · exact hcur d' (List.mem_cons_of_mem _ hd') hold
      · exact hds hd'
    · have hother : ∀ b ∈ path, b ≠ a := fun b hb => ne_of_mem_of_not_mem hb hnot
      refine ((List.forall₂_and_left _ _).mpr ⟨hother, hrest⟩).imp fun b ds' hb d' hd' hc => ?_
      rcases hclose hc with hold | ⟨hba, -⟩
      · exact hb.2 d' hd' hold
      · exact hb.1 hba
    · refine List.pairwise_append.mpr ⟨hf.distinct, List.pairwise_singleton _ _, ?_⟩
      intro c hc c' hc'
      rw [List.mem_singleton.mp hc', hp]
      exact ne_closing hmem (hcur d List.mem_cons_self) hc
  | @enter a d path ds unread hp hu hk hd =>
    rw [hp, hu] at hunread
    obtain ⟨hcur, hrest⟩ := List.forall₂_cons.mp hunread
    refine ⟨haligned, List.Forall₂.cons (fun d' _ hc => ?_) (Invariant.forall₂_path hp
      (fun d hd => hcur d (List.mem_cons_of_mem _ hd)) hrest), hf.distinct⟩
    exact h.not_mem_timeline hd (hf.aligned.mem_timeline hc)

theorem Fresh.enter (h : Invariant g s) {d : String} (hd : s.colour d = .white) (hf : s.Fresh) :
    (enter g s d).Fresh where
  aligned := hf.aligned.enter d
  unread := .cons (fun _ _ hc => h.not_mem_timeline hd (hf.aligned.mem_timeline hc)) hf.unread
  distinct := hf.distinct

/-- Where every dependency is declared once, the complete search reports no cycle twice. -/
theorem distinct_complete (hdeps : ∀ id ∈ g.keys, (g.dependencies id).Nodup) :
    g.cycles.Pairwise (· ≠ ·) := by
  have hfresh : (complete g).Fresh :=
    complete_keeps ⟨fun c hc => absurd hc List.not_mem_nil, .nil, .nil⟩
      (fun h hd hf => hf.enter h.invariant hd) (Fresh.step hdeps)
  exact hfresh.distinct

end Search

/-! ## The reported cycles -/

namespace Graph

variable {g : Graph}

/-- The path of a reported cycle goes through its nodes and back to the first one. -/
theorem path_of_mem_cycles {c : Cycle} (hc : c ∈ g.cycles) :
    ∃ id rest, c.nodes = id :: rest ∧ c.path = id :: rest ++ [id] := by
  have hwalk := closedWalk_of_mem_cycles hc
  have htwo := hwalk.two_le
  have hclosed := hwalk.closed
  rw [Cycle.nodes]
  rcases List.eq_nil_or_concat' c.path with hnil | ⟨nodes, last, hpath⟩
  · rw [hnil] at htwo
    exact absurd htwo (by simp)
  · rcases nodes with _ | ⟨id, rest⟩
    · rw [hpath] at htwo
      exact absurd htwo (by simp)
    · rw [hpath, List.getLast?_concat] at hclosed
      obtain rfl : id = last := Option.some.inj hclosed
      exact ⟨id, rest, by rw [hpath, List.dropLast_concat], hpath⟩

/-- Two reported cycles through the same nodes are one and the same. -/
theorem eq_of_perm_nodes {c c' : Cycle} (hc : c ∈ g.cycles) (hc' : c' ∈ g.cycles)
    (h : c.nodes.Perm c'.nodes) : c = c' := by
  have hnodup := (Search.resting_complete g).invariant.order_nodup
  have hsame : c.nodes.reverse = c'.nodes.reverse :=
    (hnodup.perm_iff_eq_of_sublist (Search.aligned_complete g hc)
      (Search.aligned_complete g hc')).mp
      ((List.reverse_perm _).trans (h.trans (List.reverse_perm _).symm))
  obtain ⟨id, rest, hnodes, hpath⟩ := path_of_mem_cycles hc
  obtain ⟨id', rest', hnodes', hpath'⟩ := path_of_mem_cycles hc'
  rw [List.reverse_inj, hnodes, hnodes'] at hsame
  obtain ⟨rfl, rfl⟩ := List.cons.inj hsame
  obtain ⟨path⟩ := c
  obtain ⟨path'⟩ := c'
  exact congrArg Cycle.mk (hpath.trans hpath'.symm)

/-- **Reported cycles.** Every reported cycle leads along dependencies from a node of the graph back
to it and passes through each of its nodes once. No two of them pass through the same nodes unless
they are equal, and where no dependency is declared twice, no two are equal, not even after
rotating one of them. -/
theorem cycles_simple_and_distinct (g : Graph) :
    (∀ c ∈ g.cycles, 2 ≤ c.path.length ∧ c.path.head? = c.path.getLast? ∧
      (∀ id ∈ c.path, id ∈ g.keys) ∧ c.nodes.Nodup ∧
      c.path.IsChain fun u v => v ∈ g.dependencies u) ∧
    (∀ c ∈ g.cycles, ∀ c' ∈ g.cycles, c.nodes.Perm c'.nodes → c = c') ∧
    ((∀ id ∈ g.keys, (g.dependencies id).Nodup) →
      g.cycles.Pairwise fun c c' => ¬ c.nodes ~r c'.nodes) := by
  have hinv := (Search.resting_complete g).invariant
  refine ⟨fun c hc => ?_, fun c hc c' hc' => eq_of_perm_nodes hc hc', fun hdeps => ?_⟩
  · have hwalk := closedWalk_of_mem_cycles hc
    have hsub := Search.aligned_complete g hc
    have hnodes : ∀ id ∈ c.nodes, id ∈ g.keys := fun id hid =>
      hinv.order_mem id (hsub.subset (List.mem_reverse.mpr hid))
    obtain ⟨id, rest, hcons, hpath⟩ := path_of_mem_cycles hc
    refine ⟨hwalk.two_le, hwalk.closed, fun id' hid' => hnodes id' ?_, ?_, ?_⟩
    · rw [hpath, ← hcons] at hid'
      rcases List.mem_append.mp hid' with hin | hend
      · exact hin
      · rw [List.mem_singleton.mp hend, hcons]
        exact List.mem_cons_self
    · exact List.nodup_reverse.mp (hinv.order_nodup.sublist hsub)
    · exact hwalk.edges.imp fun _ _ hedge => hedge.declared
  · refine (Search.distinct_complete hdeps).imp_of_mem fun hc hc' hne hrot => ?_
    exact hne (eq_of_perm_nodes hc hc' hrot.perm)

/-- Two cycles that share an edge are reported as two, and neither is a rotation of the other. -/
theorem cycles_of_overlapping :
    (∀ id ∈ (ofDependencies [("a", ["b"]), ("b", ["c"]), ("c", ["a", "b"])]).keys,
      ((ofDependencies [("a", ["b"]), ("b", ["c"]), ("c", ["a", "b"])]).dependencies id).Nodup) ∧
    (ofDependencies [("a", ["b"]), ("b", ["c"]), ("c", ["a", "b"])]).cycles =
      [⟨["a", "b", "c", "a"]⟩, ⟨["b", "c", "b"]⟩] ∧
    (ofDependencies [("a", ["b"]), ("b", ["c"]), ("c", ["a", "b"])]).cycles.Pairwise
      fun c c' => ¬ c.nodes ~r c'.nodes := by
  have hdeps : ∀ id ∈ (ofDependencies [("a", ["b"]), ("b", ["c"]), ("c", ["a", "b"])]).keys,
      ((ofDependencies [("a", ["b"]), ("b", ["c"]), ("c", ["a", "b"])]).dependencies id).Nodup := by
    decide
  exact ⟨hdeps, rfl, (cycles_simple_and_distinct _).2.2 hdeps⟩

/-- A dependency that is declared twice closes its cycle twice. -/
example : (ofDependencies [("a", ["b"]), ("b", ["a", "a"])]).cycles =
    [⟨["a", "b", "a"]⟩, ⟨["a", "b", "a"]⟩] := rfl

end Graph

end FluxFleet
