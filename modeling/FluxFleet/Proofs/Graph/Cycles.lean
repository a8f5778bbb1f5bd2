import FluxFleet.Proofs.Graph.Run

/-!
# Cycles and the order of dependencies

The complete search leaves every node behind its dependencies, unless an edge closed a reported
cycle (`edge_lowers_or_closes`). So the rank in the order falls along every edge that closes none,
and a closed walk has to use one that does. From this both readings of a search follow: an order is
found exactly for an acyclic graph, and no cycle escapes the reported ones.
-/

namespace FluxFleet

namespace Graph

variable {g : Graph}

/-- Of two members of a list without repetition the one that comes first has the lower index. -/
theorem idxOf_lt_of_sublist {a b : String} :
    ∀ {l : List String}, l.Nodup → [a, b].Sublist l → l.idxOf a < l.idxOf b := by
  intro l
  induction l with
  | nil =>
    intro _ h
    cases h
  | cons c l ih =>
    intro hnodup h
    obtain ⟨hc, hl⟩ := List.nodup_cons.mp hnodup
    cases h with
    | cons _ h =>
      have hca : c ≠ a := fun heq => hc (heq ▸ h.subset (by simp))
      have hcb : c ≠ b := fun heq => hc (heq ▸ h.subset (by simp))
      rw [List.idxOf_cons_ne l hca, List.idxOf_cons_ne l hcb]
      exact Nat.succ_lt_succ (ih hl h)
    | cons_cons _ h =>
      have hab : a ≠ b := fun heq => hc (heq ▸ h.subset (by simp))
      rw [List.idxOf_cons_self, List.idxOf_cons_ne l hab]
      exact Nat.succ_pos _

/-- A dependency is finished before its dependent, or the edge to it closes a reported cycle. -/
theorem edge_lowers_or_closes {a b : String} (h : g.Edge a b) :
    Closes g.cycles a b ∨
      (Search.complete g).order.idxOf b < (Search.complete g).order.idxOf a := by
  have hinv := (Search.resting_complete g).invariant
  rcases hinv.finished a (Search.mem_order_complete.mpr h.source) b h with hclose | hsub
  · exact Or.inl hclose
  · exact Or.inr (idxOf_lt_of_sublist hinv.order_nodup hsub)

/-- Every closed walk takes an edge that closes a reported cycle. -/
theorem ClosedWalk.exists_closes {walk : List String} (h : g.ClosedWalk walk) :
    ∃ u v, [u, v] <:+: walk ∧ Closes g.cycles u v := by
  obtain ⟨u, v, hin, hedge, hnot⟩ := h.exists_not_lowering (Search.complete g).order.idxOf
  exact ⟨u, v, hin, (edge_lowers_or_closes hedge).resolve_right hnot⟩

/-- A reported cycle is a closed walk. -/
theorem closedWalk_of_mem_cycles {c : Cycle} (hc : c ∈ g.cycles) : g.ClosedWalk c.path :=
  (Search.resting_complete g).invariant.cycles_closed c hc

/-- There is nothing to report exactly if the graph is acyclic. -/
theorem cycles_eq_nil_iff : g.cycles = [] ↔ g.Acyclic := by
  constructor
  · intro hnil a haa
    obtain ⟨rest, hwalk⟩ := exists_closedWalk haa
    obtain ⟨u, v, -, c, hc, -⟩ := hwalk.exists_closes
    rw [hnil] at hc
    exact absurd hc List.not_mem_nil
  · intro hacyclic
    refine List.eq_nil_iff_forall_not_mem.mpr fun c hc => ?_
    obtain ⟨a, -, haa⟩ := (closedWalk_of_mem_cycles hc).reaches
    exact hacyclic a haa

/-- An order is the order of the complete search, and there is one exactly if nothing is
reported. -/
theorem order?_eq_some_iff {order : List String} :
    g.order? = some order ↔ g.cycles = [] ∧ order = (Search.complete g).order := by
  rw [order?, cycles]
  by_cases hnil : (Search.complete g).cycles = []
  · simp [hnil, eq_comm]
  · simp [hnil]

/-- **Topological order.** An order is found exactly for an acyclic graph. It holds every node once
and nothing else, and every dependency stands before the nodes that depend on it. -/
theorem order?_isSome_iff_acyclic (g : Graph) :
    (g.order?.isSome ↔ g.Acyclic) ∧
      ∀ order, g.order? = some order →
        order.Nodup ∧ (∀ id, id ∈ order ↔ id ∈ g.keys) ∧
          ∀ a b, g.Edge a b → order.idxOf b < order.idxOf a := by
  constructor
  · rw [← cycles_eq_nil_iff, Option.isSome_iff_exists]
    constructor
    · rintro ⟨order, horder⟩
      exact (order?_eq_some_iff.mp horder).1
    · intro hnil
      exact ⟨_, order?_eq_some_iff.mpr ⟨hnil, rfl⟩⟩
  · intro order horder
    obtain ⟨hnil, rfl⟩ := order?_eq_some_iff.mp horder
    refine ⟨(Search.resting_complete g).invariant.order_nodup, fun _ => Search.mem_order_complete,
      fun a b hab => ?_⟩
    rcases edge_lowers_or_closes hab with ⟨c, hc, -⟩ | hlt
    · rw [hnil] at hc
      exact absurd hc List.not_mem_nil
    · exact hlt

/-- The graph with these dependencies and nothing else. -/
def ofDependencies (rows : List (String × List String)) : Graph :=
  ⟨rows.map fun (id, dependencies) =>
    (id, { id, template := "", kustomization := .null, dependencies })⟩

/-- Repeated and unknown dependencies do not stand in the way of an order, a node that depends on
itself does. -/
theorem order_of_diamond :
    (ofDependencies
        [("a", ["b", "c", "b", "x"]), ("b", ["d"]), ("c", ["d"]), ("d", [])]).Acyclic ∧
      ["d", "b", "c", "a"].idxOf "d" < ["d", "b", "c", "a"].idxOf "c" ∧
      ¬ (ofDependencies [("a", ["b"]), ("b", ["b"])]).Acyclic := by
  refine ⟨(order?_isSome_iff_acyclic _).1.mp rfl, ?_, ?_⟩
  · exact ((order?_isSome_iff_acyclic (ofDependencies
      [("a", ["b", "c", "b", "x"]), ("b", ["d"]), ("c", ["d"]), ("d", [])])).2 _ rfl).2.2 "c" "d"
        ⟨by decide, by decide, List.mem_cons_self⟩
  · intro hacyclic
    have hsome := (order?_isSome_iff_acyclic _).1.mpr hacyclic
    exact absurd hsome Bool.false_ne_true

/-- **No cycle escapes.** Every closed walk takes an edge that closes a reported cycle. So the
other edges form no cycle, and whatever reaches itself is strongly connected with a reported
cycle. -/
theorem closedWalk_takes_closing_edge (g : Graph) :
    (∀ walk, g.ClosedWalk walk → ∃ u v, [u, v] <:+: walk ∧
      ∃ c ∈ g.cycles, ∃ start, c.path = start ++ [u, v]) ∧
    (∀ a, ¬ Relation.TransGen (fun u v => g.Edge u v ∧ ¬ Closes g.cycles u v) a a) ∧
    ∀ a, Relation.TransGen g.Edge a a → ∃ c ∈ g.cycles, ∀ b ∈ c.path,
      Relation.ReflTransGen g.Edge a b ∧ Relation.ReflTransGen g.Edge b a := by
  refine ⟨fun walk hwalk => hwalk.exists_closes, fun a haa => ?_, fun a haa => ?_⟩
  · have hlow : ∀ {b}, Relation.TransGen (fun u v => g.Edge u v ∧ ¬ Closes g.cycles u v) a b →
        (Search.complete g).order.idxOf b < (Search.complete g).order.idxOf a := by
      intro b hab
      induction hab with
      | single hedge => exact (edge_lowers_or_closes hedge.1).resolve_left hedge.2
      | tail _ hedge ih =>
        exact Nat.lt_trans ((edge_lowers_or_closes hedge.1).resolve_left hedge.2) ih
    exact absurd (hlow haa) (Nat.lt_irrefl _)
  · obtain ⟨rest, hwalk⟩ := exists_closedWalk haa
    obtain ⟨u, v, hin, c, hc, start, hpath⟩ := hwalk.exists_closes
    have hu : u ∈ a :: rest := hin.subset (by simp)
    have huc : u ∈ c.path := by
      rw [hpath]
      simp
    obtain ⟨hau, hua⟩ := hwalk.connected List.mem_cons_self hu
    refine ⟨c, hc, fun b hb => ?_⟩
    obtain ⟨hub, hbu⟩ := (closedWalk_of_mem_cycles hc).connected huc hb
    exact ⟨hau.trans hub, hbu.trans hua⟩

/-- Where two cycles share an edge, the walk around the shorter one takes an edge that closes a
reported cycle. -/
theorem closing_edge_of_overlapping :
    ∃ u v, [u, v] <:+: ["b", "c", "b"] ∧
      ∃ c ∈ (ofDependencies [("a", ["b"]), ("b", ["c"]), ("c", ["a", "b"])]).cycles,
        ∃ start, c.path = start ++ [u, v] := by
  refine (closedWalk_takes_closing_edge _).1 _ ⟨?_, by decide, rfl⟩
  refine List.isChain_cons_cons.mpr ⟨⟨by decide, by decide, List.mem_cons_self⟩, ?_⟩
  refine List.isChain_cons_cons.mpr ⟨⟨by decide, by decide, ?_⟩, List.isChain_singleton _⟩
  exact List.mem_cons_of_mem _ List.mem_cons_self

end Graph

end FluxFleet
