import FluxFleet.Proofs.Graph.Cycles
import Mathlib.Logic.Relation

/-!
# The search as a recursion

Depth-first search is usually written as two functions that call each other: a node is visited by
following its dependencies between turning grey and turning black, and a dependency that has not
been reached is followed by visiting it (`DepthFirst.visit`, `DepthFirst.follow`). Here the path
runs from the root to the current node, and the call stack takes the place of the dependencies that
are unread. The machine of single steps comes, from the state in which a call starts, to the state
in which it returns (`Search.runs_visit`, `Search.runs_follow`), so both find the same cycles and
the same order (`cycles_eq_recursive`).
-/

namespace FluxFleet

/-- What a search has found. -/
structure Findings where
  /-- the nodes that have been reached -/
  colours : OrderedMap String Colour := .empty
  /-- the finished nodes -/
  order : List String := []
  cycles : List Cycle := []

namespace Findings

variable {g : Graph} {f : Findings}

/-- The colour of a node. -/
def colour (f : Findings) (id : String) : Colour := (f.colours.get? id).getD .white

/-- Give a node a colour. -/
def paint (f : Findings) (id : String) (c : Colour) : Findings :=
  { f with colours := f.colours.insert id c }

/-- Put a node behind the finished ones. -/
def finish (f : Findings) (id : String) : Findings :=
  { f.paint id .black with order := f.order ++ [id] }

/-- Report a cycle. -/
def report (f : Findings) (path : List String) : Findings :=
  { f with cycles := f.cycles ++ [⟨path⟩] }

/-- The nodes that have not been reached. -/
def unreached (g : Graph) (f : Findings) : List String :=
  g.keys.filter fun id => f.colour id = .white

theorem mem_unreached {id : String} : id ∈ f.unreached g ↔ id ∈ g.keys ∧ f.colour id = .white := by
  simp [unreached]

theorem colour_paint (id id' : String) (c : Colour) :
    (f.paint id c).colour id' = if id' = id then c else f.colour id' := by
  rw [colour, paint, OrderedMap.get?_insert]
  by_cases h : id' = id
  · simp [h]
  · simp [h, colour]

/-- A node that is painted has been reached. -/
theorem unreached_paint {c : Colour} (hc : c ≠ .white) (id : String) :
    (f.paint id c).unreached g = (f.unreached g).filter (· ≠ id) := by
  rw [unreached, unreached, List.filter_filter]
  refine List.filter_congr fun id' _ => ?_
  rw [colour_paint]
  by_cases h : id' = id
  · simp [h, hc]
  · simp [h]

theorem length_unreached_paint_le {c : Colour} (hc : c ≠ .white) (id : String) :
    ((f.paint id c).unreached g).length ≤ (f.unreached g).length := by
  rw [unreached_paint hc]
  exact List.length_filter_le _ _

theorem length_unreached_paint_lt {c : Colour} (hc : c ≠ .white) {id : String}
    (h : id ∈ f.unreached g) :
    ((f.paint id c).unreached g).length < (f.unreached g).length := by
  rw [unreached_paint hc]
  exact List.length_filter_lt_length_iff_exists.mpr ⟨id, h, by simp⟩

/-- What may be found after these findings: no node is forgotten. This is why the recursion ends. -/
abbrev Later (g : Graph) (f : Findings) : Type :=
  { f' : Findings // (f'.unreached g).length ≤ (f.unreached g).length }

end Findings

/-! ## The recursion -/

namespace DepthFirst

open Findings

mutual

/-- Visit a node that has not been reached: it is grey while its dependencies are followed, and
finished after that. -/
def visit (g : Graph) (path : List String) (f : Findings) (id : String)
    (h : id ∈ f.unreached g) : f.Later g :=
  have hless : ((f.paint id .grey).unreached g).length < (f.unreached g).length :=
    length_unreached_paint_lt (by decide) h
  let inner := follow g (path ++ [id]) (f.paint id .grey) (g.dependencies id)
  ⟨inner.val.finish id,
    (length_unreached_paint_le (by decide) id).trans (inner.property.trans hless.le)⟩
termination_by ((f.unreached g).length, 0)
decreasing_by exact Prod.Lex.left _ _ hless

/-- Follow dependencies of the last node of the path, one after another. What is no node is left
out, and a grey node closes a cycle: the path from it to the last node, and back to it. -/
def follow (g : Graph) (path : List String) (f : Findings) : List String → f.Later g
  | [] => ⟨f, le_rfl⟩
  | d :: ds =>
    if hk : d ∈ g.keys then
      match hc : f.colour d with
      | .white =>
        let visited := visit g path f d (mem_unreached.mpr ⟨hk, hc⟩)
        let followed := follow g path visited.val ds
        ⟨followed.val, followed.property.trans visited.property⟩
      | .grey => follow g path (f.report (path.dropWhile (· != d) ++ [d])) ds
      | .black => follow g path f ds
    else follow g path f ds
termination_by ds => ((f.unreached g).length, ds.length + 1)
decreasing_by
  · exact Prod.Lex.right _ (Nat.succ_pos _)
  · exact Prod.Lex.right' _ visited.property (by simp)
  · exact Prod.Lex.right _ (by simp)
  · exact Prod.Lex.right _ (by simp)
  · exact Prod.Lex.right _ (by simp)

end

/-- Visit every node in turn that has not been reached. -/
def search (g : Graph) : Findings :=
  g.keys.foldl (fun f root =>
    if h : root ∈ f.unreached g then (visit g [] f root h).val else f) {}

end DepthFirst

/-! ## The states of the machine -/

namespace Search

open Findings DepthFirst

variable {g : Graph} {s s' : Search} {f : Findings} {path ds : List String}
  {unread : List (List String)} {a d : String}

/-- The state of the machine with these findings. -/
def of (f : Findings) (path : List String) (unread : List (List String)) : Search :=
  { path, unread, colours := f.colours, order := f.order, cycles := f.cycles }

/-- What the machine has found. -/
def findings (s : Search) : Findings := ⟨s.colours, s.order, s.cycles⟩

/-- The machine takes a step, as long as there is a path. -/
def Next (g : Graph) (s s' : Search) : Prop := s.path ≠ [] ∧ step g s = s'

/-- The machine comes from one state to another. -/
abbrev Runs (g : Graph) : Search → Search → Prop := Relation.ReflTransGen (Next g)

theorem Invariant.runs (h : Invariant g s) (hs : Runs g s s') : Invariant g s' := by
  induction hs with
  | refl => exact h
  | tail _ hnext ih =>
    obtain ⟨hpath, rfl⟩ := hnext
    exact ih.step (step_spec hpath ih.length_eq)

theorem runs_run (fuel : Nat) : ∀ s : Search, Runs g s (run g fuel s) := by
  induction fuel with
  | zero =>
    intro s
    exact .refl
  | succ fuel ih =>
    intro s
    rw [run]
    by_cases hpath : s.path = []
    · rw [if_pos (by simp [hpath])]
    · rw [if_neg (by simp [hpath])]
      exact .head ⟨hpath, rfl⟩ (ih _)

/-- The machine stops in one state only. -/
theorem eq_of_runs {t t' : Search} (ht : Runs g s t) (ht' : Runs g s t') (hstop : t.path = [])
    (hstop' : t'.path = []) : t = t' := by
  have hunique : Relator.RightUnique (Next g) := fun _ _ _ h h' => h.2.symm.trans h'.2
  rcases Relation.ReflTransGen.total_of_right_unique hunique ht ht' with h | h
  · rcases h.cases_head with heq | ⟨_, hnext, -⟩
    · exact heq
    · exact absurd hstop hnext.1
  · rcases h.cases_head with heq | ⟨_, hnext, -⟩
    · exact heq.symm
    · exact absurd hstop' hnext.1

/-! ## The kinds of step -/

theorem next_finish :
    Next g (of f (a :: path) ([] :: unread)) (of (f.finish a) path unread) :=
  ⟨List.cons_ne_nil _ _, rfl⟩

theorem next_unknown (hk : d ∉ g.keys) :
    Next g (of f (a :: path) ((d :: ds) :: unread)) (of f (a :: path) (ds :: unread)) := by
  have hnot : ¬ g.contains d = true := fun h => hk ((OrderedMap.contains_iff_mem_keys g d).mp h)
  refine ⟨List.cons_ne_nil _ _, ?_⟩
  simp only [step, of, if_neg hnot]

theorem next_white (hk : d ∈ g.keys) (hc : f.colour d = .white) :
    Next g (of f (a :: path) ((d :: ds) :: unread))
      (of (f.paint d .grey) (d :: a :: path) (g.dependencies d :: ds :: unread)) := by
  have hcolour : (of f (a :: path) ((d :: ds) :: unread)).colour d = .white := hc
  refine ⟨List.cons_ne_nil _ _, ?_⟩
  simp only [step, of, if_pos ((OrderedMap.contains_iff_mem_keys g d).mpr hk)] at hcolour ⊢
  rw [hcolour]
  rfl

theorem next_grey (hk : d ∈ g.keys) (hc : f.colour d = .grey) :
    Next g (of f (a :: path) ((d :: ds) :: unread))
      (of (f.report (closing (a :: path) d).path) (a :: path) (ds :: unread)) := by
  have hcolour : (of f (a :: path) ((d :: ds) :: unread)).colour d = .grey := hc
  refine ⟨List.cons_ne_nil _ _, ?_⟩
  simp only [step, of, if_pos ((OrderedMap.contains_iff_mem_keys g d).mpr hk)] at hcolour ⊢
  rw [hcolour]
  rfl

theorem next_black (hk : d ∈ g.keys) (hc : f.colour d = .black) :
    Next g (of f (a :: path) ((d :: ds) :: unread)) (of f (a :: path) (ds :: unread)) := by
  have hcolour : (of f (a :: path) ((d :: ds) :: unread)).colour d = .black := hc
  refine ⟨List.cons_ne_nil _ _, ?_⟩
  simp only [step, of, if_pos ((OrderedMap.contains_iff_mem_keys g d).mpr hk)] at hcolour ⊢
  rw [hcolour]

/-- The cycle that is cut out of the path back to the root is the one that is cut out of the path
from the root. -/
theorem path_closing (hd : d ∈ path) (hnodup : path.Nodup) :
    (closing path d).path = path.reverse.dropWhile (· != d) ++ [d] := by
  obtain ⟨above, below, rfl, habove⟩ := List.eq_append_cons_of_mem hd
  have hbelow : d ∉ below := (List.nodup_cons.mp (List.nodup_append.mp hnodup).2.1).1
  have hwhile : (above ++ d :: below).takeWhile (· != d) = above := by
    rw [List.takeWhile_append_of_pos fun x hx => by simpa using ne_of_mem_of_not_mem hx habove]
    simp
  have hdrop : (above ++ d :: below).reverse.dropWhile (· != d) = d :: above.reverse := by
    rw [List.reverse_append, List.reverse_cons, List.append_assoc,
      List.dropWhile_append_of_pos fun x hx => by
        simpa using ne_of_mem_of_not_mem (List.mem_reverse.mp hx) hbelow]
    simp
  rw [closing, hwhile, hdrop]

/-! ## A call and its return -/

mutual

/-- From the state in which a node has just been entered the machine comes to the one in which the
visit has returned. -/
theorem runs_visit (f : Findings) (path : List String) (unread : List (List String)) (id : String)
    (h : id ∈ f.unreached g)
    (hinv : Invariant g (of (f.paint id .grey) (id :: path) (g.dependencies id :: unread))) :
    Runs g (of (f.paint id .grey) (id :: path) (g.dependencies id :: unread))
      (of (DepthFirst.visit g path.reverse f id h).val path unread) := by
  have hless : ((f.paint id .grey).unreached g).length < (f.unreached g).length :=
    length_unreached_paint_lt (by decide) h
  have hfollow := runs_follow (f.paint id .grey) id path unread (g.dependencies id) hinv
  rw [List.reverse_cons] at hfollow
  rw [DepthFirst.visit]
  exact hfollow.tail next_finish
termination_by ((f.unreached g).length, 0)
decreasing_by exact Prod.Lex.left _ _ hless

/-- From the state in which dependencies of the current node are unread the machine comes to the one
in which they have been followed. -/
theorem runs_follow (f : Findings) (a : String) (path : List String)
    (unread : List (List String)) : ∀ ds, Invariant g (of f (a :: path) (ds :: unread)) →
      Runs g (of f (a :: path) (ds :: unread))
        (of (follow g (a :: path).reverse f ds).val (a :: path) ([] :: unread))
  | [], _ => by rw [follow]
  | d :: ds, hinv => by
    rw [follow]
    split
    · next hk =>
      split
      · next hc =>
        have hstep : Next g (of f (a :: path) ((d :: ds) :: unread))
            (of (f.paint d .grey) (d :: a :: path) (g.dependencies d :: ds :: unread)) :=
          next_white hk hc
        have hvisited := (runs_visit f (a :: path) (ds :: unread) d (mem_unreached.mpr ⟨hk, hc⟩)
          (hinv.runs (.single hstep))).head hstep
        exact hvisited.trans (runs_follow _ a path unread ds (hinv.runs hvisited))
      · next hc =>
        have hstep : Next g (of f (a :: path) ((d :: ds) :: unread))
            (of (f.report (closing (a :: path) d).path) (a :: path) (ds :: unread)) :=
          next_grey hk hc
        have hmem : d ∈ a :: path := (hinv.grey_iff d).mp hc
        rw [path_closing hmem hinv.path_nodup] at hstep
        exact (runs_follow _ a path unread ds (hinv.runs (.single hstep))).head hstep
      · next hc =>
        have hstep : Next g (of f (a :: path) ((d :: ds) :: unread))
            (of f (a :: path) (ds :: unread)) := next_black hk hc
        exact (runs_follow f a path unread ds (hinv.runs (.single hstep))).head hstep
    · next hk =>
      have hstep : Next g (of f (a :: path) ((d :: ds) :: unread))
          (of f (a :: path) (ds :: unread)) := next_unknown hk
      exact (runs_follow f a path unread ds (hinv.runs (.single hstep))).head hstep
termination_by ds => ((f.unreached g).length, ds.length + 1)
decreasing_by
  · exact Prod.Lex.right _ (by simp)
  · exact Prod.Lex.right _ (Nat.succ_pos _)
  · exact Prod.Lex.right' _ (DepthFirst.visit g _ f d _).property (by simp)
  · exact Prod.Lex.right _ (by simp)
  · exact Prod.Lex.right _ (by simp)

end

/-- Searching from a root finds what visiting it finds. -/
theorem findings_visit (h : Resting g s) {root : String} (hroot : root ∈ g.keys) :
    (Search.visit g s root).findings =
      if hw : root ∈ s.findings.unreached g then (DepthFirst.visit g [] s.findings root hw).val
      else s.findings := by
  by_cases hw : root ∈ s.findings.unreached g
  · have hc : s.colour root = .white := (mem_unreached.mp hw).2
    have hvisit : Search.visit g s root = run g (stepBound g) (enter g s root) := by
      rw [Search.visit, hc]
    have henter : enter g s root =
        of (s.findings.paint root .grey) [root] [g.dependencies root] := by
      rw [enter, h.path_eq_nil, h.unread_eq_nil]
      rfl
    have hruns :
        Runs g (enter g s root) (of (DepthFirst.visit g [] s.findings root hw).val [] []) := by
      have hinv := h.invariant_enter hroot hc
      rw [henter] at hinv ⊢
      exact runs_visit s.findings [] [] root hw hinv
    have hstop : (run g (stepBound g) (enter g s root)).path = [] :=
      hvisit ▸ (h.visit hroot).1.path_eq_nil
    rw [dif_pos hw, hvisit, eq_of_runs (runs_run _ _) hruns hstop rfl]
    rfl
  · rw [dif_neg hw, Search.visit]
    split
    · next hc => exact absurd (mem_unreached (f := s.findings).mpr ⟨hroot, hc⟩) hw
    · rfl

/-- The machine and the recursion find the same. -/
theorem findings_complete (g : Graph) : (complete g).findings = DepthFirst.search g := by
  have hroots : ∀ roots : List String, (∀ r ∈ roots, r ∈ g.keys) → ∀ {s}, Resting g s →
      (roots.foldl (Search.visit g) s).findings = roots.foldl (fun f root =>
        if h : root ∈ f.unreached g then (DepthFirst.visit g [] f root h).val else f)
        s.findings := by
    intro roots
    induction roots with
    | nil =>
      intro _ s _
      rfl
    | cons r roots ih =>
      intro hmem s h
      have hr : r ∈ g.keys := hmem r List.mem_cons_self
      rw [List.foldl_cons, List.foldl_cons, ← findings_visit h hr]
      exact ih (fun r hr => hmem r (List.mem_cons_of_mem _ hr)) (h.visit hr).1
  exact hroots g.keys (fun _ h => h) (Resting.initial g)

end Search

/-- **The recursive search.** The machine reports the same cycles in the same order as the
recursion, and finishes the nodes in the same order, which is the order that is returned if there is
no cycle. -/
theorem Graph.cycles_eq_recursive (g : Graph) :
    g.cycles = (DepthFirst.search g).cycles ∧
    (Search.complete g).order = (DepthFirst.search g).order ∧
    g.order? = if (DepthFirst.search g).cycles.isEmpty then some (DepthFirst.search g).order
      else none := by
  rw [← Search.findings_complete]
  exact ⟨rfl, rfl, rfl⟩

end FluxFleet
