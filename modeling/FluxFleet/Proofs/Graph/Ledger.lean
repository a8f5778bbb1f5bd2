import FluxFleet.Proofs.Graph.History

/-!
# The ledger of a search

Three things are due for a node (`dues`): to push it, to read each of its dependencies, and to pop
it. What a search has done so far can be told from its state (`Course.perm_log`): all that is due
for the finished nodes, and for those on the path what comes before the unread dependencies. From
this follow the account of the complete search (`history_accounts`), and that a dependency of a
finished node has been read, so that it is finished too or closed a cycle
(`Course.finished_or_closed`).
-/

namespace FluxFleet

namespace Search

variable {g : Graph} {s s' t : Search} {h : List Turn} {a d : String} {path ds : List String}
  {unread : List (List String)}

/-! ## What has been done -/

/-- A node is pushed, and as many of its dependencies are read. -/
def begun (g : Graph) (id : String) (ds : List String) : List Action :=
  .push id :: (List.range ((g.dependencies id).length - ds.length)).map (.read id)

/-- All that is done to a node: it is pushed, each of its dependencies is read, and it is popped. -/
def dues (g : Graph) (id : String) : List Action :=
  .push id :: (List.range (g.dependencies id).length).map (.read id) ++ [.pop id]

theorem begun_nil (g : Graph) (id : String) : begun g id [] ++ [.pop id] = dues g id := rfl

theorem begun_all (g : Graph) (id : String) : begun g id (g.dependencies id) = [.push id] := by
  simp [begun]

/-- One more dependency is read. -/
theorem begun_read (h : ds.length < (g.dependencies a).length) :
    begun g a (d :: ds) ++ [.read a ((g.dependencies a).length - (ds.length + 1))] =
      begun g a ds := by
  have hsucc : (g.dependencies a).length - ds.length =
      (g.dependencies a).length - (ds.length + 1) + 1 := by omega
  rw [begun, begun, hsucc, List.range_succ, List.map_append]
  rfl

/-- What has been done to the nodes that have been reached. -/
def done (g : Graph) (s : Search) : List Action :=
  s.order.flatMap (dues g) ++ (List.zipWith (begun g) s.path s.unread).flatten

theorem done_cons (hp : s.path = a :: path) (hu : s.unread = ds :: unread) :
    done g s = s.order.flatMap (dues g) ++
      (begun g a ds ++ (List.zipWith (begun g) path unread).flatten) := by
  rw [done, hp, hu]
  rfl

/-- What is done to the current node goes to what has been done to it. -/
theorem perm_append_middle {α : Type} (xs ys zs new : List α) :
    (xs ++ (ys ++ zs) ++ new).Perm (xs ++ (ys ++ new ++ zs)) := by
  rw [List.append_assoc, List.append_assoc ys zs, List.append_assoc ys new]
  exact (List.perm_append_comm.append_left ys).append_left xs

/-- A dependency that is read is one more of the current node. -/
theorem perm_done_read (h : Invariant g s) (hp : s.path = a :: path)
    (hu : s.unread = (d :: ds) :: unread) (s' : Search) (hp' : s'.path = s.path)
    (hu' : s'.unread = ds :: unread) (ho : s'.order = s.order) :
    (done g s ++ [Action.read a ((g.dependencies a).length - (ds.length + 1))]).Perm
      (done g s') := by
  obtain ⟨⟨read, hread, -⟩, -⟩ := h.reading_current hp hu
  have hlt : ds.length < (g.dependencies a).length := by
    rw [hread, List.length_append, List.length_cons]
    omega
  rw [done_cons hp hu, done_cons (hp'.trans hp) hu', ho, ← begun_read hlt]
  exact perm_append_middle _ _ _ _

/-- A node that is entered has been pushed. -/
theorem perm_done_enter (s : Search) (d : String) :
    (done g s ++ [Action.push d]).Perm (done g (enter g s d)) := by
  have hcons : done g (enter g s d) = s.order.flatMap (dues g) ++
      ([Action.push d] ++ (List.zipWith (begun g) s.path s.unread).flatten) := by
    rw [← begun_all]
    exact done_cons rfl rfl
  rw [hcons, done, List.append_assoc]
  exact List.perm_append_comm.append_left _

/-- A step does what is missing between the two states. -/
theorem perm_done_step (h : Invariant g s) (hs : Step g s s') :
    (done g s ++ actions g s).Perm (done g s') := by
  cases hs with
  | finish hp hu =>
    rw [actions_pop hp hu, done_cons hp hu]
    refine (perm_append_middle _ _ _ _).trans (.of_eq ?_)
    rw [begun_nil, done, List.flatMap_append, List.flatMap_singleton, List.append_assoc]
  | pass hp hu hd =>
    rw [actions_read hp hu fun hk => by rw [hd hk]; decide]
    exact perm_done_read h hp hu _ rfl rfl rfl
  | close hp hu hk hd =>
    rw [actions_read hp hu fun _ => by rw [hd]; decide]
    exact perm_done_read h hp hu _ rfl rfl rfl
  | @enter a d path ds unread hp hu hk hd =>
    have hread := perm_done_read h hp hu { s with unread := ds :: unread } rfl rfl rfl
    rw [actions_push hp hu hk hd, List.append_cons]
    exact (hread.append_right _).trans (perm_done_enter _ _)

/-- What has been done can be told from the state. -/
theorem Course.perm_log (hc : Course g h s) : (log g h).Perm (done g s) := by
  have hsnoc : ∀ (h : List Turn) (m : Turn), log g (h ++ [m]) = log g h ++ m.actions g :=
    fun h m => by rw [log, List.flatMap_append, List.flatMap_singleton, log]
  induction hc with
  | start => exact .refl _
  | root _ _ _ _ ih =>
    rw [hsnoc]
    exact (ih.append_right _).trans (perm_done_enter _ _)
  | pass hcourse hpath ih =>
    rw [hsnoc]
    exact (ih.append_right _).trans (perm_done_step hcourse.invariant (hcourse.takes_step hpath))

/-! ## Dependencies of finished nodes -/

/-- What has become of a dependency `d` of `a` that was read in the state `t`: it is finished, or it
was grey and closed a cycle, or it stands behind `a` on the path. -/
def Examined (t : Search) (a d : String) (s : Search) : Prop :=
  d ∈ s.order ∨ (t.colour d = .grey ∧ closing t.path d ∈ s.cycles) ∨ [d, a] <:+: s.path

theorem examined_step (h : Invariant g t) (hp : t.path = a :: path)
    (hu : t.unread = (d :: ds) :: unread) (hk : d ∈ g.keys) (hs : Step g t s) :
    Examined t a d s := by
  cases hs with
  | finish hp' hu' =>
    cases hu.symm.trans hu'
  | pass hp' hu' hd =>
    cases hu.symm.trans hu'
    exact Or.inl ((h.black_iff d).mp (hd hk))
  | close hp' hu' hk' hd =>
    cases hu.symm.trans hu'
    exact Or.inr (Or.inl ⟨hd, List.mem_append_right _ List.mem_cons_self⟩)
  | enter hp' hu' hk' hd =>
    cases hu.symm.trans hu'
    refine Or.inr (Or.inr ⟨[], path, ?_⟩)
    rw [enter_path, hp]
    rfl

/-- What has become of it stays so, until `d` is finished. -/
theorem Examined.step (hs : Step g s s') (h : Examined t a d s) : Examined t a d s' := by
  rcases h with hord | ⟨hgrey, hcycle⟩ | hin
  · cases hs with
    | finish hp hu => exact Or.inl (List.mem_append_left _ hord)
    | pass hp hu hd => exact Or.inl hord
    | close hp hu hk hd => exact Or.inl hord
    | enter hp hu hk hd => exact Or.inl hord
  · cases hs with
    | finish hp hu => exact Or.inr (Or.inl ⟨hgrey, hcycle⟩)
    | pass hp hu hd => exact Or.inr (Or.inl ⟨hgrey, hcycle⟩)
    | close hp hu hk hd => exact Or.inr (Or.inl ⟨hgrey, List.mem_append_left _ hcycle⟩)
    | enter hp hu hk hd => exact Or.inr (Or.inl ⟨hgrey, hcycle⟩)
  · cases hs with
    | finish hp hu =>
      rw [hp] at hin
      rcases infix_pair_cons hin with ⟨rfl, -⟩ | hin'
      · exact Or.inl (List.mem_append_right _ List.mem_cons_self)
      · exact Or.inr (Or.inr hin')
    | pass hp hu hd => exact Or.inr (Or.inr hin)
    | close hp hu hk hd => exact Or.inr (Or.inr hin)
    | enter hp hu hk hd => exact Or.inr (Or.inr (hin.trans (List.suffix_cons _ _).isInfix))

/-- A root is entered when nothing stands on the path. -/
theorem Examined.enter (hrest : Resting g s) (h : Examined t a d s) (id : String) :
    Examined t a d (enter g s id) := by
  rcases h with hord | hclosed | hin
  · exact Or.inl hord
  · exact Or.inr (Or.inl hclosed)
  · rw [hrest.path_eq_nil] at hin
    exact absurd (hin.subset List.mem_cons_self) List.not_mem_nil

/-- A dependency of a finished node is finished, or it was grey when it was read and closed a cycle
that is reported. -/
theorem Course.finished_or_closed (hc : Course g h s) (ha : a ∈ s.order) {k : Nat}
    (hk : (g.dependencies a)[k]? = some d) (hd : d ∈ g.keys) :
    d ∈ s.order ∨ ∃ t, .pass t ∈ h ∧ .read a k ∈ actions g t ∧ t.colour d = .grey ∧
      closing t.path d ∈ s.cycles ∧ ∃ start, (closing t.path d).path = start ++ [a, d] := by
  -- the dependency has been read in some pass
  obtain ⟨t, ht, hread⟩ : ∃ t, .pass t ∈ h ∧ .read a k ∈ actions g t := by
    have hlt : k < (g.dependencies a).length := (List.getElem?_eq_some_iff.mp hk).1
    have hdue : .read a k ∈ dues g a := by simp [dues, hlt]
    have hlog : .read a k ∈ log g h := hc.perm_log.mem_iff.mpr
      (List.mem_append_left _ (List.mem_flatMap.mpr ⟨a, ha, hdue⟩))
    obtain ⟨m, hm, hact⟩ := List.mem_flatMap.mp hlog
    cases m with
    | root id => simp [Turn.actions] at hact
    | pass t => exact ⟨t, hm, hact⟩
  obtain ⟨before, later, rfl⟩ := List.append_of_mem ht
  obtain ⟨hct, hpath⟩ := hc.before rfl
  obtain ⟨path, d', ds, unread, hp, hu, hdrop⟩ := of_read hct.invariant hread
  obtain rfl : d = d' := by
    have hhead := List.head?_drop (l := g.dependencies a) (i := k)
    rw [hdrop, hk] at hhead
    exact (Option.some.inj hhead).symm
  have hexamined : Examined t a d s := hc.keeps (fun hrest _ h => h.enter hrest _)
    (fun _ hs h => h.step hs) ht (examined_step hct.invariant hp hu hd (hct.takes_step hpath))
  rcases hexamined with hord | ⟨hgrey, hcycle⟩ | hin
  · exact Or.inl hord
  · have hmem : d ∈ a :: path := hp ▸ (hct.invariant.grey_iff d).mp hgrey
    obtain ⟨rest, -, -, hclosing⟩ := Invariant.closing_path hmem
    exact Or.inr ⟨t, ht, hread, hgrey, hcycle, rest.reverse, by rw [hp, hclosing]⟩
  · -- a finished node stands no longer on the path
    have hgrey := (hc.invariant.grey_iff a).mpr (hin.subset (by simp))
    rw [(hc.invariant.black_iff a).mpr ha] at hgrey
    cases hgrey

/-! ## The number of passes -/

/-- Each pass takes one of the steps that are left. -/
theorem Course.length_passes (hc : Course g h s) :
    (h.filterMap Turn.pass?).length + remaining g s = ∑ id ∈ g.keys.toFinset, cost g id := by
  induction hc with
  | start =>
    have hall : untouched g {} = g.keys.toFinset := by
      ext id
      simp [mem_untouched, colour, OrderedMap.empty, OrderedMap.get?, OrderedMap.find?]
    simp [remaining, hall]
  | root hcourse hpath hid hwhite ih =>
    rw [List.filterMap_append, List.length_append, remaining_enter hid hwhite, ← ih]
    rfl
  | pass hcourse hpath ih =>
    have hless := remaining_step hcourse.invariant (hcourse.takes_step hpath)
    rw [List.filterMap_append, List.length_append, ← ih, ← hless]
    simp only [List.filterMap_cons, Turn.pass?, List.filterMap_nil, List.length_singleton]
    omega

/-- Where nodes have different names, an entry holds what its node depends on. -/
theorem dependencies_of_mem (hkeys : g.keys.Nodup) {e : String × GraphNode} (he : e ∈ g.entries) :
    g.dependencies e.1 = e.2.dependencies := by
  rw [Graph.dependencies, OrderedMap.get?_of_mem hkeys he]

/-- Then the steps of all nodes are as many as nodes and dependencies. -/
theorem sum_cost (hkeys : g.keys.Nodup) : ∑ id ∈ g.keys.toFinset, cost g id =
    g.entries.length + (g.entries.map fun e => e.2.dependencies.length).sum := by
  have hcost : ∀ e ∈ g.entries, cost g e.1 = 1 + e.2.dependencies.length := fun e he => by
    rw [cost, dependencies_of_mem hkeys he]
  rw [List.sum_toFinset _ hkeys, OrderedMap.keys, List.map_map,
    List.map_congr_left (g := fun e => 1 + e.2.dependencies.length) hcost, List.sum_map_add]
  simp

/-! ## The complete search -/

/-- Nothing is left to do when the search is complete. -/
theorem done_complete (g : Graph) : done g (complete g) = (complete g).order.flatMap (dues g) := by
  have hrest := resting_complete g
  rw [done, hrest.path_eq_nil, hrest.unread_eq_nil]
  exact List.append_nil _

theorem remaining_complete (g : Graph) : remaining g (complete g) = 0 := by
  have hrest := resting_complete g
  have hnone : untouched g (complete g) = ∅ := by
    refine Finset.eq_empty_iff_forall_notMem.mpr fun id hid => ?_
    obtain ⟨hkey, hwhite⟩ := mem_untouched.mp hid
    rw [(hrest.invariant.black_iff id).mpr (mem_order_complete.mpr hkey)] at hwhite
    cases hwhite
  rw [remaining, hnone, hrest.path_eq_nil, hrest.unread_eq_nil]
  rfl

/-- No due is the same as another one. -/
theorem nodup_dues (hkeys : g.keys.Nodup) : (g.keys.flatMap (dues g)).Nodup := by
  have hnode : ∀ id, ∀ act ∈ dues g id, act.node = id := by
    intro id act hact
    simp only [dues, List.cons_append, List.mem_cons, List.mem_append, List.mem_map, List.mem_range,
      List.not_mem_nil, or_false] at hact
    rcases hact with rfl | ⟨k, -, rfl⟩ | rfl <;> rfl
  refine List.nodup_flatMap.mpr ⟨fun id _ => ?_, hkeys.imp fun {a b} hne act ha hb => ?_⟩
  · have hreads : ((List.range (g.dependencies id).length).map (Action.read id)).Nodup :=
      List.nodup_range.map fun _ _ h => by injection h
    simp [dues, List.nodup_append, hreads]
  · exact hne ((hnode a act ha).symm.trans (hnode b act hb))

/-- What holds whenever a pass of the inner loop starts, behind the turns `h`. -/
structure AtPass (g : Graph) (h : List Turn) (s : Search) : Prop where
  /-- there is a node to be popped -/
  path_ne_nil : s.path ≠ []
  length_eq : s.path.length = s.unread.length
  path_nodup : s.path.Nodup
  grey_iff : ∀ a, s.colour a = .grey ↔ a ∈ s.path
  /-- from the root on, each node of the path depends on the next one -/
  chain : s.path.reverse.IsChain g.Edge
  order_nodup : s.order.Nodup
  black_iff : ∀ a, s.colour a = .black ↔ a ∈ s.order
  /-- a dependency of a black node is black, or it was grey when it was read and closed a cycle -/
  settled : ∀ a k d, s.colour a = .black → (g.dependencies a)[k]? = some d → d ∈ g.keys →
    s.colour d = .black ∨ ∃ t, .pass t ∈ h ∧ .read a k ∈ actions g t ∧ t.colour d = .grey ∧
      closing t.path d ∈ s.cycles ∧ ∃ start, (closing t.path d).path = start ++ [a, d]
  /-- a grey node is found on the path, and its cycle is what follows there from the root on -/
  found : ∀ d, s.colour d = .grey → ∃ before behind, s.path.reverse = before ++ d :: behind ∧
    (closing s.path d).path = d :: behind ++ [d]
  /-- the dependency that is read is the first unread one -/
  read : ∀ a k, .read a k ∈ actions g s → s.path.head? = some a ∧
    s.unread.head? = some ((g.dependencies a).drop k)
  /-- the path changes by what is done -/
  path_step : (step g s).path = (actions g s).foldl Action.onPath s.path

theorem Course.atPass (hc : Course g h s) (hpath : s.path ≠ []) : AtPass g h s := by
  have hinv := hc.invariant
  refine ⟨hpath, hinv.length_eq, hinv.path_nodup, hinv.grey_iff, ?_, hinv.order_nodup,
    hinv.black_iff, ?_, ?_, ?_, Search.path_step (hc.takes_step hpath)⟩
  · rw [List.isChain_reverse]
    exact hinv.chain
  · intro a k d ha hk hd
    rw [hinv.black_iff]
    exact hc.finished_or_closed ((hinv.black_iff a).mp ha) hk hd
  · intro d hd
    have hmem : d ∈ s.path := (hinv.grey_iff d).mp hd
    obtain ⟨above, below, hsplit, hnot⟩ := List.eq_append_cons_of_mem hmem
    refine ⟨below.reverse, above.reverse, by simp [hsplit], ?_⟩
    rw [closing, hsplit, List.takeWhile_append_of_pos fun x hx => by
      simpa using ne_of_mem_of_not_mem hx hnot]
    simp
  · intro a k hread
    obtain ⟨path, d, ds, unread, hp, hu, hdrop⟩ := of_read hinv hread
    rw [hp, hu, hdrop]
    exact ⟨rfl, rfl⟩

/-- **The history of a search.** Whenever a pass of the inner loop starts, the search is in the
state to which the turns before it have led, and all that belongs to a pass holds there. The last
turn leads to the complete search, in which nothing is left on the path. By then each node has been
pushed once and popped once, and each place of its dependencies has been read once, and nothing else
has been done. There are as many passes as nodes and dependencies. -/
theorem history_accounts (g : Graph) (hkeys : g.keys.Nodup) :
    (∀ before s later, history g = before ++ .pass s :: later →
      before.foldl (Turn.next g) {} = s ∧ AtPass g before s) ∧
    (history g).foldl (Turn.next g) {} = complete g ∧
    (complete g).path = [] ∧ (complete g).unread = [] ∧
    (log g (history g)).Perm (g.keys.flatMap (dues g)) ∧ (log g (history g)).Nodup ∧
    ((history g).filterMap Turn.pass?).length =
      g.entries.length + (g.entries.map fun e => e.2.dependencies.length).sum := by
  have hcourse := Course.history g
  have hrest := resting_complete g
  have horder : (complete g).order.Perm g.keys :=
    (List.perm_ext_iff_of_nodup hrest.invariant.order_nodup hkeys).mpr fun _ => mem_order_complete
  have hlog : (log g (history g)).Perm (g.keys.flatMap (dues g)) := by
    refine hcourse.perm_log.trans ?_
    rw [done_complete]
    exact horder.flatMap_right _
  refine ⟨fun before s later heq => ?_, hcourse.foldl_next, hrest.path_eq_nil, hrest.unread_eq_nil,
    hlog, hlog.nodup_iff.mpr (nodup_dues hkeys), ?_⟩
  · obtain ⟨hbefore, hpath⟩ := hcourse.before heq
    exact ⟨hbefore.foldl_next, hbefore.atPass hpath⟩
  · rw [← sum_cost hkeys, ← hcourse.length_passes, remaining_complete, Nat.add_zero]

/-- The search of two nodes that depend on each other, one of them also on a node that is not
there. -/
theorem history_of_mutual :
    (Graph.ofDependencies [("a", ["b", "x"]), ("b", ["a"])]).keys.Nodup ∧
    log (Graph.ofDependencies [("a", ["b", "x"]), ("b", ["a"])])
        (history (Graph.ofDependencies [("a", ["b", "x"]), ("b", ["a"])])) =
      [.push "a", .read "a" 0, .push "b", .read "b" 0, .pop "b", .read "a" 1, .pop "a"] ∧
    ((history (Graph.ofDependencies [("a", ["b", "x"]), ("b", ["a"])])).filterMap
      Turn.pass?).length = 5 := by
  have hkeys : (Graph.ofDependencies [("a", ["b", "x"]), ("b", ["a"])]).keys.Nodup := by decide
  obtain ⟨-, -, -, -, -, -, hlength⟩ := history_accounts _ hkeys
  exact ⟨hkeys, by decide +kernel, hlength⟩

end Search

end FluxFleet
