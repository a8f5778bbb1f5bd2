import FluxFleet.Proofs.Graph.Invariant
import Mathlib.Algebra.Order.BigOperators.Ring.Finset

/-!
# The search ends and reaches every node

Each step does one of a number of things that is known beforehand: every node is entered and
finished once, and every dependency is read once. `remaining` counts those that are left, and a step
lowers it by one (`remaining_step`), so a run within `stepBound` empties the path (`path_run`). When
all roots have been visited every node is in the order (`mem_order_complete`).
-/

namespace FluxFleet

namespace Search

variable {g : Graph} {s s' : Search}

/-! ## Counting steps -/

/-- The nodes that have not been reached. -/
def untouched (g : Graph) (s : Search) : Finset String :=
  g.keys.toFinset.filter fun id => s.colour id = .white

/-- The steps that a node takes: one for each dependency, and one to finish it. -/
def cost (g : Graph) (id : String) : Nat := 1 + (g.dependencies id).length

/-- The steps that are left: those of nodes that have not been reached, the dependencies that are
unread, and the nodes of the path. -/
def remaining (g : Graph) (s : Search) : Nat :=
  (∑ id ∈ untouched g s, cost g id) + s.path.length + (s.unread.map List.length).sum

theorem mem_untouched {id : String} :
    id ∈ untouched g s ↔ id ∈ g.keys ∧ s.colour id = .white := by
  simp [untouched]

/-- A node that is painted is reached, and the others stay as they are. -/
theorem untouched_of_painted {a : String} {c : Colour} (hc : c ≠ .white)
    (h : s'.colours = s.colours.insert a c) : untouched g s' = (untouched g s).erase a := by
  ext id
  rw [Finset.mem_erase, mem_untouched, mem_untouched, colour_of_painted h]
  by_cases hid : id = a
  · simp [hid, hc]
  · simp [hid]

/-- Entering a node trades its steps for its unread dependencies and its place on the path. -/
theorem remaining_enter {d : String} (hk : d ∈ g.keys) (hd : s.colour d = .white) :
    remaining g (enter g s d) = remaining g s := by
  have hset : untouched g (enter g s d) = (untouched g s).erase d :=
    untouched_of_painted (by decide) rfl
  have hsum : (∑ id ∈ (untouched g s).erase d, cost g id) + cost g d =
      ∑ id ∈ untouched g s, cost g id :=
    Finset.sum_erase_add _ _ (mem_untouched.mpr ⟨hk, hd⟩)
  have hcost : cost g d = 1 + (g.dependencies d).length := rfl
  have hunread : (enter g s d).unread = g.dependencies d :: s.unread := rfl
  rw [remaining, remaining, hset, hunread, enter_path]
  simp only [List.length_cons, List.map_cons, List.sum_cons]
  omega

/-- Reading a dependency takes one step. -/
theorem remaining_read {d : String} {ds : List String} {unread : List (List String)}
    (hu : s.unread = (d :: ds) :: unread) (hu' : s'.unread = ds :: unread)
    (hp : s'.path = s.path) (hc : s'.colours = s.colours) :
    remaining g s' + 1 = remaining g s := by
  have hset : untouched g s' = untouched g s := by
    ext id
    rw [mem_untouched, mem_untouched, colour, colour, hc]
  rw [remaining, remaining, hset, hp, hu, hu']
  simp only [List.map_cons, List.sum_cons, List.length_cons]
  omega

/-- Every step takes one of the steps that are left. -/
theorem remaining_step (h : Invariant g s) (hs : Step g s s') :
    remaining g s' + 1 = remaining g s := by
  cases hs with
  | @finish a path unread hp hu =>
    have hgrey : s.colour a = .grey := (h.grey_iff a).mpr (by simp [hp])
    have hnot : a ∉ untouched g s := fun hmem => by
      rw [(mem_untouched.mp hmem).2] at hgrey
      cases hgrey
    have hset : untouched g { s.paint a .black with path, unread, order := s.order ++ [a] } =
        (untouched g s).erase a := untouched_of_painted (by decide) rfl
    rw [remaining, remaining, hset, Finset.erase_eq_of_notMem hnot, hp, hu]
    simp only [List.length_cons, List.map_cons, List.length_nil, List.sum_cons]
    omega
  | pass hp hu hd => exact remaining_read hu rfl rfl rfl
  | close hp hu hk hd => exact remaining_read hu rfl rfl rfl
  | @enter a d path ds unread hp hu hk hd =>
    rw [remaining_enter (s := { s with unread := ds :: unread }) hk hd]
    exact remaining_read hu rfl rfl rfl

/-- All steps together are no more than the nodes and dependencies of the graph. -/
theorem sum_cost_le_stepBound (g : Graph) : ∑ id ∈ g.keys.toFinset, cost g id ≤ stepBound g := by
  obtain ⟨entries⟩ := g
  induction entries with
  | nil => simp [OrderedMap.keys]
  | cons e entries ih =>
    obtain ⟨k, n⟩ := e
    set rest : Graph := ⟨entries⟩ with hrest
    have hkeys : (OrderedMap.keys (⟨(k, n) :: entries⟩ : Graph)).toFinset =
        insert k (rest.keys.toFinset.erase k) := by
      ext id
      by_cases hid : id = k <;> simp [OrderedMap.keys, hid, hrest]
    have hhead : cost ⟨(k, n) :: entries⟩ k = 1 + n.dependencies.length := by
      simp [cost, Graph.dependencies, OrderedMap.get?, OrderedMap.find?]
    have htail : ∑ id ∈ rest.keys.toFinset.erase k, cost ⟨(k, n) :: entries⟩ id ≤
        ∑ id ∈ rest.keys.toFinset, cost rest id := by
      refine (Finset.sum_congr rfl fun id hid => ?_).trans_le
        (Finset.sum_le_sum_of_subset (Finset.erase_subset k _))
      have hne : ¬ k = id := fun heq => (Finset.mem_erase.mp hid).1 heq.symm
      simp [cost, Graph.dependencies, OrderedMap.get?, OrderedMap.find?, hne, hrest]
    rw [hkeys, Finset.sum_insert (Finset.notMem_erase k _), hhead]
    calc 1 + n.dependencies.length +
          ∑ id ∈ rest.keys.toFinset.erase k, cost ⟨(k, n) :: entries⟩ id
        ≤ 1 + n.dependencies.length + stepBound rest := by
          exact Nat.add_le_add_left (htail.trans ih) _
      _ = stepBound ⟨(k, n) :: entries⟩ := by
          simp only [stepBound, hrest, List.length_cons, List.flatMap_cons, List.length_append]
          omega

/-! ## A whole run -/

/-- Nothing that was reached is forgotten. -/
theorem reached_step {id : String} (hs : Step g s s') (h : s.colour id ≠ .white) :
    s'.colour id ≠ .white := by
  cases hs with
  | finish hp hu =>
    rw [colour_of_painted (s := s) rfl]
    split
    · decide
    · exact h
  | pass hp hu hd => exact h
  | close hp hu hk hd => exact h
  | enter hp hu hk hd => exact reached_enter h

/-- What every step keeps, beside the invariant, a run keeps. -/
theorem run_keeps {P : Search → Prop} (hP : ∀ {s s'}, Invariant g s → Step g s s' → P s → P s')
    (fuel : Nat) : ∀ {s}, Invariant g s → P s → Invariant g (run g fuel s) ∧ P (run g fuel s) := by
  induction fuel with
  | zero =>
    intro s h hs
    exact ⟨h, hs⟩
  | succ fuel ih =>
    intro s h hs
    rw [run]
    by_cases hpath : s.path = []
    · rw [if_pos (by simp [hpath])]
      exact ⟨h, hs⟩
    · rw [if_neg (by simp [hpath])]
      have hstep : Step g s (step g s) := step_spec hpath h.length_eq
      exact ih (h.step hstep) (hP h hstep hs)

/-- A run with enough steps empties the path. -/
theorem path_run (fuel : Nat) :
    ∀ {s}, Invariant g s → remaining g s ≤ fuel → (run g fuel s).path = [] := by
  induction fuel with
  | zero =>
    intro s _ hleft
    rw [remaining] at hleft
    rw [run]
    exact List.length_eq_zero_iff.mp (by omega)
  | succ fuel ih =>
    intro s h hleft
    rw [run]
    by_cases hpath : s.path = []
    · rw [if_pos (by simp [hpath])]
      exact hpath
    · rw [if_neg (by simp [hpath])]
      have hstep : Step g s (step g s) := step_spec hpath h.length_eq
      have hless := remaining_step h hstep
      exact ih (h.step hstep) (by omega)

/-- Between two roots: the path is empty. -/
structure Resting (g : Graph) (s : Search) : Prop where
  invariant : Invariant g s
  path_eq_nil : s.path = []

theorem Resting.initial (g : Graph) : Resting g {} := ⟨.initial g, rfl⟩

/-- Between two roots what has been reached is finished. -/
theorem Resting.mem_order (h : Resting g s) {id : String} (hid : s.colour id ≠ .white) :
    id ∈ s.order := by
  rcases hc : s.colour id with _ | _ | _
  · exact absurd hc hid
  · have hmem := (h.invariant.grey_iff id).mp hc
    rw [h.path_eq_nil] at hmem
    exact absurd hmem List.not_mem_nil
  · exact (h.invariant.black_iff id).mp hc

/-- Between two roots no dependency is waiting to be read. -/
theorem Resting.unread_eq_nil (h : Resting g s) : s.unread = [] := by
  have hlen := h.invariant.length_eq
  rw [h.path_eq_nil] at hlen
  exact List.length_eq_zero_iff.mp hlen.symm

/-- Between two roots any node that has not been reached can be entered. -/
theorem Resting.invariant_enter (h : Resting g s) {root : String} (hroot : root ∈ g.keys)
    (hc : s.colour root = .white) : Invariant g (enter g s root) := by
  have hedge : ∀ a ∈ s.path.head?, g.Edge a root := by
    rw [h.path_eq_nil]
    simp
  have hread : List.Forall₂ (Reading g (enter g s root)) s.path s.unread := by
    rw [h.path_eq_nil, h.unread_eq_nil]
    exact .nil
  exact h.invariant.enter hroot hc hedge hread

/-- A visit ends between two roots, with the root reached and nothing forgotten. -/
theorem Resting.visit (h : Resting g s) {root : String} (hroot : root ∈ g.keys) :
    Resting g (visit g s root) ∧ (visit g s root).colour root ≠ .white ∧
      ∀ id, s.colour id ≠ .white → (visit g s root).colour id ≠ .white := by
  rw [Search.visit]
  rcases hc : s.colour root with _ | _ | _
  · have henter : Invariant g (enter g s root) := h.invariant_enter hroot hc
    have hleft : remaining g (enter g s root) ≤ stepBound g := by
      rw [remaining_enter hroot hc, remaining, h.path_eq_nil, h.unread_eq_nil]
      exact (Finset.sum_le_sum_of_subset (Finset.filter_subset _ _)).trans
        (sum_cost_le_stepBound g)
    obtain ⟨hinv, hroot', hkept⟩ := run_keeps (g := g)
      (P := fun t => t.colour root ≠ .white ∧ ∀ id, s.colour id ≠ .white → t.colour id ≠ .white)
      (fun _ hs ⟨hr, hk⟩ => ⟨reached_step hs hr, fun id hid => reached_step hs (hk id hid)⟩)
      (stepBound g) henter ⟨by simp [colour_enter], fun id hid => reached_enter hid⟩
    exact ⟨⟨hinv, path_run _ henter hleft⟩, hroot', hkept⟩
  · exact ⟨h, by simp [hc], fun _ hid => hid⟩
  · exact ⟨h, by simp [hc], fun _ hid => hid⟩

/-- Visiting some nodes in turn reaches all of them. -/
theorem Resting.foldl_visit (roots : List String) (hroots : ∀ r ∈ roots, r ∈ g.keys) :
    ∀ {s}, Resting g s → Resting g (roots.foldl (Search.visit g) s) ∧
      (∀ r ∈ roots, (roots.foldl (Search.visit g) s).colour r ≠ .white) ∧
      ∀ id, s.colour id ≠ .white → (roots.foldl (Search.visit g) s).colour id ≠ .white := by
  induction roots with
  | nil =>
    intro s h
    exact ⟨h, by simp, fun _ hid => hid⟩
  | cons r roots ih =>
    intro s h
    obtain ⟨hvisit, hr, hkept⟩ := h.visit (hroots r List.mem_cons_self)
    obtain ⟨hrest, hall, hkept'⟩ := ih (fun r hr => hroots r (List.mem_cons_of_mem _ hr)) hvisit
    rw [List.foldl_cons]
    refine ⟨hrest, fun r' hr' => ?_, fun id hid => hkept' id (hkept id hid)⟩
    rcases List.mem_cons.mp hr' with rfl | hmem
    · exact hkept' r' hr
    · exact hall r' hmem

/-- What holds before the first node is reached, and is kept by entering a root and by every step,
holds when the search is complete. -/
theorem complete_keeps {P : Search → Prop} (hstart : P {})
    (henter : ∀ {s root}, Resting g s → s.colour root = .white → P s → P (enter g s root))
    (hstep : ∀ {s s'}, Invariant g s → Step g s s' → P s → P s') : P (complete g) := by
  have hvisits : ∀ roots : List String, (∀ r ∈ roots, r ∈ g.keys) → ∀ {s}, Resting g s → P s →
      P (roots.foldl (Search.visit g) s) := by
    intro roots
    induction roots with
    | nil =>
      intro _ s _ hs
      exact hs
    | cons r roots ih =>
      intro hroots s h hs
      have hr : r ∈ g.keys := hroots r List.mem_cons_self
      refine ih (fun r hr => hroots r (List.mem_cons_of_mem _ hr)) (h.visit hr).1 ?_
      rw [Search.visit]
      split
      · next hc => exact (run_keeps hstep _ (h.invariant_enter hr hc) (henter h hc hs)).2
      · exact hs
  exact hvisits g.keys (fun _ h => h) (Resting.initial g) hstart

/-- The complete search ends between two roots. -/
theorem resting_complete (g : Graph) : Resting g (complete g) :=
  (Resting.foldl_visit g.keys (fun _ h => h) (Resting.initial g)).1

/-- The complete search finishes the nodes of the graph and nothing else. -/
theorem mem_order_complete {id : String} : id ∈ (complete g).order ↔ id ∈ g.keys := by
  constructor
  · exact (resting_complete g).invariant.order_mem id
  · intro hid
    have hreached := (Resting.foldl_visit g.keys (fun _ h => h) (Resting.initial g)).2.1 id hid
    exact (resting_complete g).mem_order hreached

end Search

end FluxFleet
