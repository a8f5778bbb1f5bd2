import FluxFleet.Graph.Search
import Mathlib.Data.List.Chain

/-!
# The dependency relation of a graph

Dependency lists may name anything. The relation keeps what leads from a node to a node:
`g.Edge a b` says that `a` depends on `b`. A closed walk runs along edges back to where it starts,
and a graph is acyclic if no node reaches itself. A rank that every edge lowers leaves no closed
walk (`ClosedWalk.exists_not_lowering`), which is how orders and cycles are compared later on.
-/

namespace FluxFleet

namespace Graph

/-- The node `a` depends on the node `b`. -/
structure Edge (g : Graph) (a b : String) : Prop where
  source : a ∈ g.keys
  target : b ∈ g.keys
  declared : b ∈ g.dependencies a

/-- No node depends on itself, directly or through others. -/
def Acyclic (g : Graph) : Prop := ∀ a, ¬ Relation.TransGen g.Edge a a

/-- A walk along edges that takes at least one and ends where it starts. -/
structure ClosedWalk (g : Graph) (walk : List String) : Prop where
  edges : walk.IsChain g.Edge
  two_le : 2 ≤ walk.length
  closed : walk.head? = walk.getLast?

/-- The edge from `a` to `b` closes one of these cycles: its path ends with the two nodes. -/
def Closes (cycles : List Cycle) (a b : String) : Prop :=
  ∃ c ∈ cycles, ∃ start, c.path = start ++ [a, b]

theorem Closes.append {cs : List Cycle} {a b : String} (h : Closes cs a b) (cs' : List Cycle) :
    Closes (cs ++ cs') a b := by
  obtain ⟨c, hc, hp⟩ := h
  exact ⟨c, List.mem_append_left _ hc, hp⟩

variable {g : Graph}

/-- The nodes of a walk reach each other in its order. -/
theorem reaches_of_isChain {R : String → String → Prop} {a b : String} :
    ∀ {rest : List String}, (a :: rest).IsChain R → (a :: rest).getLast? = some b →
      rest ≠ [] → Relation.TransGen R a b := by
  intro rest
  induction rest generalizing a with
  | nil =>
    intro _ _ hne
    exact absurd rfl hne
  | cons c rest ih =>
    intro hchain hlast _
    obtain ⟨hac, hrest⟩ := List.isChain_cons_cons.mp hchain
    rcases rest with _ | ⟨e, rest⟩
    · obtain rfl : c = b := by simpa using hlast
      exact Relation.TransGen.single hac
    · rw [List.getLast?_cons_cons] at hlast
      exact Relation.TransGen.head hac (ih hrest hlast (List.cons_ne_nil _ _))

/-- A closed walk makes its first node reach itself. -/
theorem ClosedWalk.reaches {walk : List String} (h : g.ClosedWalk walk) :
    ∃ a, walk.head? = some a ∧ Relation.TransGen g.Edge a a := by
  rcases walk with _ | ⟨a, rest⟩
  · exact absurd h.two_le (by simp)
  · refine ⟨a, rfl, reaches_of_isChain h.edges h.closed.symm ?_⟩
    rintro rfl
    exact absurd h.two_le (by simp)

/-- The nodes of a closed walk reach each other. -/
theorem ClosedWalk.connected {walk : List String} (h : g.ClosedWalk walk) {a b : String}
    (ha : a ∈ walk) (hb : b ∈ walk) :
    Relation.ReflTransGen g.Edge a b ∧ Relation.ReflTransGen g.Edge b a := by
  have hne : walk ≠ [] := List.ne_nil_of_mem ha
  have hends : walk.head hne = walk.getLast hne := by
    have hclosed := h.closed
    rw [List.head?_eq_some_head hne, List.getLast?_eq_some_getLast hne] at hclosed
    exact Option.some.inj hclosed
  have hfrom : ∀ c ∈ walk, Relation.ReflTransGen g.Edge (walk.head hne) c :=
    h.edges.induction _ _ (fun _ _ hxy hx => hx.tail hxy) fun _ => Relation.ReflTransGen.refl
  have hto : ∀ c ∈ walk, Relation.ReflTransGen g.Edge c (walk.head hne) :=
    h.edges.backwards_induction _ _ (fun _ _ hxy hy => hy.head hxy) fun _ => by
      rw [hends]
  exact ⟨(hto a ha).trans (hfrom b hb), (hto b hb).trans (hfrom a ha)⟩

/-- A walk along which a rank falls at every step ends below where it starts. -/
theorem rank_getLast_lt {rank : String → Nat} {a b : String} {rest : List String}
    (h : (a :: rest).IsChain fun u v => rank v < rank u) (hne : rest ≠ [])
    (hlast : (a :: rest).getLast? = some b) : rank b < rank a := by
  have hlt : Relation.TransGen (fun u v => rank v < rank u) a b := reaches_of_isChain h hlast hne
  clear hlast
  induction hlt with
  | single hab => exact hab
  | tail _ hbc ih => exact Nat.lt_trans hbc ih

/-- Every closed walk has an edge that does not lower a rank. -/
theorem ClosedWalk.exists_not_lowering {walk : List String} (h : g.ClosedWalk walk)
    (rank : String → Nat) :
    ∃ u v, [u, v] <:+: walk ∧ g.Edge u v ∧ ¬ rank v < rank u := by
  by_contra hall
  have hlow : walk.IsChain fun u v => rank v < rank u := by
    rw [List.isChain_iff_forall_rel_of_append_cons_cons]
    intro u v before after hwalk
    have hedge : g.Edge u v :=
      List.isChain_iff_forall_rel_of_append_cons_cons.mp h.edges hwalk
    by_contra hnot
    exact hall ⟨u, v, ⟨before, after, by rw [hwalk, List.append_assoc]; rfl⟩, hedge, hnot⟩
  rcases walk with _ | ⟨a, rest⟩
  · exact absurd h.two_le (by simp)
  · have hne : rest ≠ [] := by
      rintro rfl
      exact absurd h.two_le (by simp)
    exact absurd (rank_getLast_lt hlow hne h.closed.symm) (lt_irrefl _)

/-- A node that reaches itself starts a closed walk. -/
theorem exists_closedWalk {a : String} (h : Relation.TransGen g.Edge a a) :
    ∃ rest, g.ClosedWalk (a :: rest) := by
  obtain ⟨b, hab, hba⟩ := Relation.TransGen.head'_iff.mp h
  obtain ⟨rest, hchain, hlast⟩ := List.exists_isChain_cons_of_relationReflTransGen hba
  refine ⟨b :: rest, List.isChain_cons_cons.mpr ⟨hab, hchain⟩, by simp, ?_⟩
  rw [List.getLast?_cons_cons, List.getLast?_eq_some_getLast (List.cons_ne_nil b rest), hlast]
  rfl

end Graph

end FluxFleet
