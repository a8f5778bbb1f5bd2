import FluxFleet.Proofs.Graph.Cycles

/-!
# The history of a search

The complete search is two loops: the outer one puts roots on the path, the inner one takes steps.
Its history (`Search.history`) holds a turn for each root that is put on the path and for each pass
of the inner loop, with the state in which the pass starts. A turn pushes a node on the path, reads
one of its dependencies, or pops it (`Turn.actions`).

`Search.Course` says which turns can lead to which state, so that what is kept from one turn to the
next holds whenever a pass starts (`Course.invariant`, `Course.before`, `Course.keeps`); the history
is such a course (`Course.history`).
-/

namespace FluxFleet

/-- What the search does to a node. -/
inductive Action where
  /-- put the node on the path -/
  | push (id : String)
  /-- read the dependency at this position of the node's list -/
  | read (id : String) (position : Nat)
  /-- take the node from the path -/
  | pop (id : String)
deriving DecidableEq, Repr

/-- The node of an action. -/
def Action.node : Action → String
  | .push id => id
  | .read id _ => id
  | .pop id => id

/-- The path after an action. -/
def Action.onPath (path : List String) : Action → List String
  | .push id => id :: path
  | .read _ _ => path
  | .pop _ => path.tail

namespace Search

/-- What a step does. -/
def actions (g : Graph) (s : Search) : List Action :=
  match s.path, s.unread with
  | id :: _, [] :: _ => [.pop id]
  | id :: _, (d :: ds) :: _ =>
    .read id ((g.dependencies id).length - (ds.length + 1)) ::
      if d ∈ g.keys ∧ s.colour d = .white then [.push d] else []
  | _, _ => []

end Search

/-- A turn of the search. -/
inductive Turn where
  /-- a root that has not been reached is put on the path -/
  | root (id : String)
  /-- the inner loop starts a pass in this state -/
  | pass (s : Search)

namespace Turn

/-- What is done in a turn. -/
def actions (g : Graph) : Turn → List Action
  | .root id => [.push id]
  | .pass s => s.actions g

/-- The state after a turn. -/
def next (g : Graph) (s : Search) : Turn → Search
  | .root id => s.enter g id
  | .pass _ => s.step g

/-- The state in which a pass starts. -/
def pass? : Turn → Option Search
  | .root _ => none
  | .pass s => some s

end Turn

namespace Search

variable {g : Graph} {s t : Search} {h h' : List Turn} {a d : String} {path ds : List String}
  {unread : List (List String)}

/-- The turns of a run. -/
def passes (g : Graph) : Nat → Search → List Turn
  | 0, _ => []
  | fuel + 1, s => if s.path.isEmpty then [] else .pass s :: passes g fuel (step g s)

/-- The turns of the search from a root. -/
def visited (g : Graph) (s : Search) (root : String) : List Turn :=
  match s.colour root with
  | .white => .root root :: passes g (stepBound g) (enter g s root)
  | _ => []

/-- The turns of the search from some roots in turn. -/
def followed (g : Graph) : Search → List String → List Turn
  | _, [] => []
  | s, root :: roots => visited g s root ++ followed g (visit g s root) roots

/-- The turns of the complete search. -/
def history (g : Graph) : List Turn := followed g {} g.keys

/-- What has been done in some turns. -/
def log (g : Graph) (h : List Turn) : List Action := h.flatMap (Turn.actions g)

/-! ## The course of the search -/

/-- A search can come to this state through these turns. -/
inductive Course (g : Graph) : List Turn → Search → Prop
  | start : Course g [] {}
  | root {h : List Turn} {s : Search} {id : String} (hcourse : Course g h s)
      (hpath : s.path = []) (hid : id ∈ g.keys) (hwhite : s.colour id = .white) :
      Course g (h ++ [.root id]) (enter g s id)
  | pass {h : List Turn} {s : Search} (hcourse : Course g h s) (hpath : s.path ≠ []) :
      Course g (h ++ [.pass s]) (step g s)

namespace Course

theorem invariant (hc : Course g h s) : Invariant g s := by
  induction hc with
  | start => exact .initial g
  | root _ hpath hid hwhite ih => exact Resting.invariant_enter ⟨ih, hpath⟩ hid hwhite
  | pass _ hpath ih => exact ih.step (step_spec hpath ih.length_eq)

/-- A pass of the inner loop takes a step. -/
theorem takes_step (hc : Course g h s) (hpath : s.path ≠ []) : Step g s (step g s) :=
  step_spec hpath hc.invariant.length_eq

/-- The state follows from the turns. -/
theorem foldl_next (hc : Course g h s) : h.foldl (Turn.next g) {} = s := by
  induction hc with
  | start => rfl
  | root _ _ _ _ ih => rw [List.foldl_append, ih]; rfl
  | pass _ _ ih => rw [List.foldl_append, ih]; rfl

/-- A pass starts in the state to which the turns before it have come. -/
theorem before (hc : Course g h' s) : ∀ {later : List Turn}, h' = h ++ .pass t :: later →
    Course g h t ∧ t.path ≠ [] := by
  induction hc with
  | start =>
    intro later heq
    simp at heq
  | @root h₀ s₀ id hcourse hpath hid hwhite ih =>
    intro later heq
    rcases List.eq_nil_or_concat' later with rfl | ⟨later, m, rfl⟩
    · have hlast := (List.append_inj' heq rfl).2
      simp at hlast
    · rw [← List.cons_append, ← List.append_assoc] at heq
      exact ih (List.append_inj' heq rfl).1
  | @pass h₀ s₀ hcourse hpath ih =>
    intro later heq
    rcases List.eq_nil_or_concat' later with rfl | ⟨later, m, rfl⟩
    · obtain ⟨rfl, hlast⟩ := List.append_inj' heq rfl
      obtain rfl : s₀ = t := by simpa using hlast
      exact ⟨hcourse, hpath⟩
    · rw [← List.cons_append, ← List.append_assoc] at heq
      exact ih (List.append_inj' heq rfl).1

theorem append_passes (fuel : Nat) : ∀ {h : List Turn} {s : Search}, Course g h s →
    Course g (h ++ passes g fuel s) (run g fuel s) := by
  induction fuel with
  | zero =>
    intro h s hc
    rwa [passes, List.append_nil]
  | succ fuel ih =>
    intro h s hc
    rw [passes, run]
    by_cases hpath : s.path = []
    · rw [if_pos (by simp [hpath]), if_pos (by simp [hpath]), List.append_nil]
      exact hc
    · rw [if_neg (by simp [hpath]), if_neg (by simp [hpath]), List.append_cons]
      exact ih (hc.pass hpath)

theorem append_visited (hc : Course g h s) (hrest : Resting g s) {root : String}
    (hroot : root ∈ g.keys) : Course g (h ++ visited g s root) (visit g s root) := by
  rw [visited, visit]
  rcases hcolour : s.colour root with _ | _ | _
  · dsimp only
    rw [List.append_cons]
    exact (hc.root hrest.path_eq_nil hroot hcolour).append_passes _
  · rwa [List.append_nil]
  · rwa [List.append_nil]

/-- The complete search takes the course that its history tells. -/
theorem history (g : Graph) : Course g (history g) (complete g) := by
  have hroots : ∀ roots : List String, (∀ r ∈ roots, r ∈ g.keys) → ∀ {h s}, Course g h s →
      Resting g s → Course g (h ++ followed g s roots) (roots.foldl (visit g) s) := by
    intro roots
    induction roots with
    | nil =>
      intro _ h s hc _
      rwa [followed, List.append_nil]
    | cons r roots ih =>
      intro hmem h s hc hrest
      have hr : r ∈ g.keys := hmem r List.mem_cons_self
      rw [followed, List.foldl_cons, ← List.append_assoc]
      exact ih (fun r hr => hmem r (List.mem_cons_of_mem _ hr)) (hc.append_visited hrest hr)
        (hrest.visit hr).1
  exact hroots g.keys (fun _ hr => hr) .start (.initial g)

/-- What holds after a pass, and is kept by entering a root and by every step, holds ever after. -/
theorem keeps {P : Search → Prop}
    (hroot : ∀ {s id}, Resting g s → s.colour id = .white → P s → P (enter g s id))
    (hstep : ∀ {s s'}, Invariant g s → Step g s s' → P s → P s') (hc : Course g h s)
    (ht : .pass t ∈ h) (hP : P (step g t)) : P s := by
  induction hc with
  | start => cases ht
  | root hcourse hpath hid hwhite ih =>
    refine hroot ⟨hcourse.invariant, hpath⟩ hwhite (ih ?_)
    simpa using ht
  | pass hcourse hpath ih =>
    rcases List.mem_append.mp ht with hbefore | hlast
    · exact hstep hcourse.invariant (hcourse.takes_step hpath) (ih hbefore)
    · obtain rfl : t = _ := by simpa using hlast
      exact hP

end Course

/-! ## What a step does -/

theorem actions_pop (hp : s.path = a :: path) (hu : s.unread = [] :: unread) :
    actions g s = [.pop a] := by
  rw [actions, hp, hu]

theorem actions_push (hp : s.path = a :: path) (hu : s.unread = (d :: ds) :: unread)
    (hk : d ∈ g.keys) (hd : s.colour d = .white) :
    actions g s = [.read a ((g.dependencies a).length - (ds.length + 1)), .push d] := by
  rw [actions, hp, hu]
  dsimp only
  rw [if_pos ⟨hk, hd⟩]

theorem actions_read (hp : s.path = a :: path) (hu : s.unread = (d :: ds) :: unread)
    (hd : d ∈ g.keys → s.colour d ≠ .white) :
    actions g s = [.read a ((g.dependencies a).length - (ds.length + 1))] := by
  rw [actions, hp, hu]
  dsimp only
  rw [if_neg fun hwhite => hd hwhite.1 hwhite.2]

/-- The path changes by what is done. -/
theorem path_step (hs : Step g s (step g s)) :
    (step g s).path = (actions g s).foldl Action.onPath s.path := by
  generalize hnext : step g s = s' at hs
  cases hs with
  | finish hp hu => rw [actions_pop hp hu, hp]; rfl
  | pass hp hu hd =>
    rw [actions_read hp hu fun hk => by rw [hd hk]; decide]
    rfl
  | close hp hu hk hd =>
    rw [actions_read hp hu fun _ => by rw [hd]; decide]
    rfl
  | enter hp hu hk hd => rw [actions_push hp hu hk hd, enter_path]; rfl

/-- The position that is read is that of the first unread dependency. -/
theorem of_read (h : Invariant g s) {k : Nat} (hk : .read a k ∈ actions g s) :
    ∃ path d ds unread, s.path = a :: path ∧ s.unread = (d :: ds) :: unread ∧
      (g.dependencies a).drop k = d :: ds := by
  rw [actions] at hk
  split at hk
  · simp at hk
  · next id path d ds unread hp hu =>
    obtain ⟨rfl, rfl⟩ : a = id ∧ k = (g.dependencies id).length - (ds.length + 1) := by
      rcases List.mem_cons.mp hk with heq | hpush
      · injection heq with ha hk
        exact ⟨ha, hk⟩
      · split at hpush <;> simp at hpush
    obtain ⟨⟨read, hread, -⟩, -⟩ := h.reading_current hp hu
    refine ⟨path, d, ds, unread, hp, hu, ?_⟩
    rw [hread, List.length_append, List.length_cons, Nat.add_sub_cancel, List.drop_left]
  · cases hk

end Search

end FluxFleet
