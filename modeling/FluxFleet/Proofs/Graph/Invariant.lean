import FluxFleet.Proofs.Graph.Relation

/-!
# What every step of the search keeps

`Step` names the four things that a step can do: finish the current node, pass over a dependency,
close a cycle, or enter a new node. `Invariant` is what holds between steps: the path is a chain of
dependencies and exactly the grey nodes, the order is exactly the black nodes, every dependency
that has been read is settled (`Search.Settled`), every reported cycle is a closed walk, and a
finished node stands behind its dependencies unless the edge to one of them closed a cycle.
-/

namespace FluxFleet

namespace Search

open FluxFleet.Graph (Closes)

variable {g : Graph} {s s' : Search}

/-! ## The cases of a step -/

/-- A step of the search, by what it does. -/
inductive Step (g : Graph) (s : Search) : Search → Prop where
  /-- the current node has no unread dependency -/
  | finish {a : String} {path : List String} {unread : List (List String)}
      (hp : s.path = a :: path) (hu : s.unread = [] :: unread) :
      Step g s { s.paint a .black with path, unread, order := s.order ++ [a] }
  /-- the dependency is no node, or a finished one -/
  | pass {a d : String} {path ds : List String} {unread : List (List String)}
      (hp : s.path = a :: path) (hu : s.unread = (d :: ds) :: unread)
      (hd : d ∈ g.keys → s.colour d = .black) :
      Step g s { s with unread := ds :: unread }
  /-- the dependency stands on the path -/
  | close {a d : String} {path ds : List String} {unread : List (List String)}
      (hp : s.path = a :: path) (hu : s.unread = (d :: ds) :: unread)
      (hk : d ∈ g.keys) (hd : s.colour d = .grey) :
      Step g s { s with unread := ds :: unread, cycles := s.cycles ++ [closing s.path d] }
  /-- the dependency has not been reached -/
  | enter {a d : String} {path ds : List String} {unread : List (List String)}
      (hp : s.path = a :: path) (hu : s.unread = (d :: ds) :: unread)
      (hk : d ∈ g.keys) (hd : s.colour d = .white) :
      Step g s (enter g { s with unread := ds :: unread } d)

/-- The machine takes one of these steps as long as there is a path. -/
theorem step_spec (hpath : s.path ≠ []) (hlen : s.path.length = s.unread.length) :
    Step g s (step g s) := by
  obtain ⟨a, path, hp⟩ := List.exists_cons_of_ne_nil hpath
  obtain ⟨ds, unread, hu⟩ : ∃ ds unread, s.unread = ds :: unread := by
    refine List.exists_cons_of_ne_nil fun h => ?_
    rw [hp, h] at hlen
    exact absurd hlen (by simp)
  rcases ds with _ | ⟨d, ds⟩
  · have hstep : step g s = { s.paint a .black with path, unread, order := s.order ++ [a] } := by
      simp only [step, hp, hu]
    rw [hstep]
    exact .finish hp hu
  · by_cases hk : g.contains d = true
    · have hmem : d ∈ g.keys := (OrderedMap.contains_iff_mem_keys g d).mp hk
      rcases hc : s.colour d with _ | _ | _
      · have hstep : step g s = enter g { s with unread := ds :: unread } d := by
          simp only [step, hp, hu, hk, hc, if_true]
        rw [hstep]
        exact .enter hp hu hmem hc
      · have hstep : step g s =
            { s with unread := ds :: unread, cycles := s.cycles ++ [closing s.path d] } := by
          simp only [step, hp, hu, hk, hc, if_true]
        rw [hstep]
        exact .close hp hu hmem hc
      · have hstep : step g s = { s with unread := ds :: unread } := by
          simp only [step, hp, hu, hk, hc, if_true]
        rw [hstep]
        exact .pass hp hu fun _ => hc
    · have hstep : step g s = { s with unread := ds :: unread } := by
        simp only [step, hp, hu, hk, if_false, Bool.false_eq_true]
      rw [hstep]
      exact .pass hp hu fun hmem => absurd ((OrderedMap.contains_iff_mem_keys g d).mpr hmem) hk

/-- Painting one node leaves the colours of the others. -/
theorem colour_of_painted {a : String} {c : Colour} (h : s'.colours = s.colours.insert a c)
    (id : String) : s'.colour id = if id = a then c else s.colour id := by
  rw [colour, h, OrderedMap.get?_insert]
  by_cases hid : id = a
  · simp [hid]
  · simp [hid, colour]

theorem colour_enter (d id : String) :
    (enter g s d).colour id = if id = d then .grey else s.colour id :=
  colour_of_painted (c := .grey) rfl id

@[simp] theorem enter_path (d : String) : (enter g s d).path = d :: s.path := rfl

@[simp] theorem enter_order (d : String) : (enter g s d).order = s.order := rfl

@[simp] theorem enter_cycles (d : String) : (enter g s d).cycles = s.cycles := rfl

/-- Entering a node forgets none. -/
theorem reached_enter {d id : String} (h : s.colour id ≠ .white) :
    (enter g s d).colour id ≠ .white := by
  rw [colour_enter]
  split
  · decide
  · exact h

/-! ## The invariant -/

/-- The dependency `d` of `a` has been read: it is finished, or closed a cycle, or stands behind
`a` on the path. -/
def Settled (s : Search) (a d : String) : Prop :=
  d ∈ s.order ∨ Closes s.cycles a d ∨ [d, a] <:+: s.path

/-- A node of the path whose dependencies `ds` are unread: the others are settled. -/
def Reading (g : Graph) (s : Search) (a : String) (ds : List String) : Prop :=
  ∃ read, g.dependencies a = read ++ ds ∧ ∀ d ∈ read, d ∈ g.keys → s.Settled a d

/-- What holds between the steps of the search. -/
structure Invariant (g : Graph) (s : Search) : Prop where
  path_mem : ∀ a ∈ s.path, a ∈ g.keys
  order_mem : ∀ a ∈ s.order, a ∈ g.keys
  path_nodup : s.path.Nodup
  order_nodup : s.order.Nodup
  grey_iff : ∀ a, s.colour a = .grey ↔ a ∈ s.path
  black_iff : ∀ a, s.colour a = .black ↔ a ∈ s.order
  chain : s.path.IsChain fun a b => g.Edge b a
  reading : List.Forall₂ (Reading g s) s.path s.unread
  finished : ∀ a ∈ s.order, ∀ d, g.Edge a d → Closes s.cycles a d ∨ [d, a].Sublist s.order
  cycles_closed : ∀ c ∈ s.cycles, g.ClosedWalk c.path

namespace Invariant

theorem length_eq (h : Invariant g s) : s.path.length = s.unread.length := h.reading.length_eq

/-- Before any node is reached. -/
theorem initial (g : Graph) : Invariant g {} where
  path_mem := by simp
  order_mem := by simp
  path_nodup := List.nodup_nil
  order_nodup := List.nodup_nil
  grey_iff := by simp [colour, OrderedMap.empty, OrderedMap.get?, OrderedMap.find?]
  black_iff := by simp [colour, OrderedMap.empty, OrderedMap.get?, OrderedMap.find?]
  chain := List.IsChain.nil
  reading := List.Forall₂.nil
  finished := by simp
  cycles_closed := by simp

/-- The frame of the current node: all its dependencies are read or stand in `ds`. -/
theorem reading_current (h : Invariant g s) {a : String} {path ds : List String}
    {unread : List (List String)} (hp : s.path = a :: path) (hu : s.unread = ds :: unread) :
    Reading g s a ds ∧ List.Forall₂ (Reading g s) path unread := by
  have hall := h.reading
  rw [hp, hu] at hall
  exact List.forall₂_cons.mp hall

/-- What holds of the current node and of the nodes below it holds along the path. -/
theorem forall₂_path {R : String → List String → Prop} {a : String} {path ds : List String}
    {unread : List (List String)} (hp : s.path = a :: path) (ha : R a ds)
    (hrest : List.Forall₂ R path unread) : List.Forall₂ R s.path (ds :: unread) := by
  rw [hp]
  exact List.Forall₂.cons ha hrest

/-- A dependency that the current node is about to read is an edge if it is a node. -/
theorem edge_current (h : Invariant g s) {a d : String} {path ds : List String}
    {unread : List (List String)} (hp : s.path = a :: path) (hu : s.unread = (d :: ds) :: unread)
    (hk : d ∈ g.keys) : g.Edge a d := by
  obtain ⟨⟨read, hread, -⟩, -⟩ := h.reading_current hp hu
  refine ⟨h.path_mem a (by simp [hp]), hk, ?_⟩
  rw [hread]
  simp

end Invariant

/-! ## Each kind of step keeps the invariant -/

/-- What is settled stays settled while order, cycles and path keep what they hold. -/
theorem Settled.mono {a d : String} (h : s.Settled a d) (ho : s.order ⊆ s'.order)
    (hc : s.cycles ⊆ s'.cycles) (hp : [d, a] <:+: s.path → d ∈ s'.order ∨ [d, a] <:+: s'.path) :
    s'.Settled a d := by
  rcases h with hord | ⟨c, hc', hpath⟩ | hin
  · exact Or.inl (ho hord)
  · exact Or.inr (Or.inl ⟨c, hc hc', hpath⟩)
  · rcases hp hin with hord | hin'
    · exact Or.inl hord
    · exact Or.inr (Or.inr hin')

theorem Reading.mono {a : String} {ds : List String} (h : Reading g s a ds)
    (hs : ∀ d, s.Settled a d → s'.Settled a d) : Reading g s' a ds := by
  obtain ⟨read, hread, hset⟩ := h
  exact ⟨read, hread, fun d hd hk => hs d (hset d hd hk)⟩

/-- Reading one more dependency, which is settled if it is a node. -/
theorem Reading.next {a d : String} {ds : List String} (h : Reading g s a (d :: ds))
    (hs : ∀ d, s.Settled a d → s'.Settled a d) (hd : d ∈ g.keys → s'.Settled a d) :
    Reading g s' a ds := by
  obtain ⟨read, hread, hset⟩ := h
  refine ⟨read ++ [d], by rw [hread, List.append_assoc]; rfl, fun d' hd' hk => ?_⟩
  rcases List.mem_append.mp hd' with hold | hnew
  · exact hs d' (hset d' hold hk)
  · obtain rfl := List.mem_singleton.mp hnew
    exact hd hk

/-- Two neighbours of a list with a first element: the first one begins the list, or both stand in
the rest. -/
theorem infix_pair_cons {a b c : String} {l : List String} (h : [b, c] <:+: a :: l) :
    (b = a ∧ c ∈ l) ∨ [b, c] <:+: l := by
  rcases List.infix_cons_iff.mp h with hpre | hin
  · obtain ⟨rest, hrest⟩ := hpre
    injection hrest with hb hl
    refine Or.inl ⟨hb, ?_⟩
    rw [← hl]
    simp
  · exact Or.inr hin

namespace Invariant

/-- Finishing a node keeps the invariant. -/
theorem finish (h : Invariant g s) {a : String} {path : List String} {unread : List (List String)}
    (hp : s.path = a :: path) (hu : s.unread = [] :: unread) :
    Invariant g { s.paint a .black with path, unread, order := s.order ++ [a] } := by
  obtain ⟨⟨read, hread, hset⟩, hrest⟩ := h.reading_current hp hu
  rw [List.append_nil] at hread
  have hnodup : a ∉ path ∧ path.Nodup := List.nodup_cons.mp (hp ▸ h.path_nodup)
  have hmem : ∀ b, b ∈ s.path ↔ b = a ∨ b ∈ path := fun b => by rw [hp, List.mem_cons]
  have hnew : a ∉ s.order := fun ha => by
    have hblack := (h.black_iff a).mpr ha
    have hgrey := (h.grey_iff a).mpr ((hmem a).mpr (Or.inl rfl))
    rw [hgrey] at hblack
    cases hblack
  -- the path loses `a`, so what stood next to `a` on it is now behind a finished node
  have hsettled : ∀ b d, s.Settled b d →
      Settled { s.paint a .black with path, unread, order := s.order ++ [a] } b d := by
    intro b d hbd
    refine hbd.mono (List.subset_append_left _ _) (List.Subset.refl _) fun hin => ?_
    rw [hp] at hin
    rcases infix_pair_cons hin with ⟨rfl, -⟩ | hin'
    · exact Or.inl (by simp)
    · exact Or.inr hin'
  refine
    { path_mem := fun b hb => h.path_mem b ((hmem b).mpr (Or.inr hb))
      order_mem := ?_
      path_nodup := hnodup.2
      order_nodup := ?_
      grey_iff := ?_
      black_iff := ?_
      chain := ?_
      reading := hrest.imp fun b ds hb => hb.mono (hsettled b)
      finished := ?_
      cycles_closed := h.cycles_closed }
  · intro b hb
    rcases List.mem_append.mp hb with hold | hlast
    · exact h.order_mem b hold
    · obtain rfl := List.mem_singleton.mp hlast
      exact h.path_mem b ((hmem b).mpr (Or.inl rfl))
  · exact List.nodup_append.mpr ⟨h.order_nodup, by simp, by rintro b hb c hc rfl; simp_all⟩
  · intro b
    rw [colour_of_painted (s := s) (a := a) (c := .black) rfl]
    by_cases hba : b = a
    · subst hba
      simp [hnodup.1]
    · rw [if_neg hba, h.grey_iff, hmem]
      simp [hba]
  · intro b
    rw [colour_of_painted (s := s) (a := a) (c := .black) rfl]
    by_cases hba : b = a
    · simp [hba]
    · rw [if_neg hba, h.black_iff]
      simp [hba]
  · have hchain := h.chain
    rw [hp] at hchain
    exact hchain.tail
  · intro b hb d hbd
    rcases List.mem_append.mp hb with hold | hlast
    · rcases h.finished b hold d hbd with hclose | hsub
      · exact Or.inl hclose
      · exact Or.inr (hsub.trans (List.sublist_append_left _ _))
    · obtain rfl := List.mem_singleton.mp hlast
      have hdread : d ∈ read := hread ▸ hbd.declared
      rcases hset d hdread hbd.target with hord | hclose | hin
      · exact Or.inr ((List.singleton_sublist.mpr hord).append (List.Sublist.refl [b]))
      · exact Or.inl hclose
      · -- nothing stands before the current node on the path
        rw [hp] at hin
        rcases infix_pair_cons hin with ⟨-, hb'⟩ | hin'
        · exact absurd hb' hnodup.1
        · exact absurd (hin'.subset (by simp)) hnodup.1

/-- Passing over a dependency keeps the invariant. -/
theorem pass (h : Invariant g s) {a d : String} {path ds : List String}
    {unread : List (List String)} (hp : s.path = a :: path) (hu : s.unread = (d :: ds) :: unread)
    (hd : d ∈ g.keys → s.colour d = .black) : Invariant g { s with unread := ds :: unread } := by
  obtain ⟨hcur, hrest⟩ := h.reading_current hp hu
  have hnext : Reading g { s with unread := ds :: unread } a ds :=
    hcur.next (fun _ hset => hset) fun hk => Or.inl ((h.black_iff d).mp (hd hk))
  exact
    { h with
      grey_iff := h.grey_iff
      black_iff := h.black_iff
      reading := forall₂_path hp hnext hrest }

/-- The path of the cycle that a dependency on `d` closes goes from `d` up the path to the current
node `a`, and back to `d`. -/
theorem closing_path {a d : String} {path : List String} (hd : d ∈ a :: path) :
    ∃ rest, (a :: rest) <+: (a :: path) ∧ (a :: rest).getLast? = some d ∧
      (closing (a :: path) d).path = rest.reverse ++ [a, d] := by
  obtain ⟨above, below, hsplit, hnot⟩ := List.eq_append_cons_of_mem hd
  have hwhile : (a :: path).takeWhile (· != d) = above := by
    rw [hsplit, List.takeWhile_append_of_pos fun x hx => by
      simpa using ne_of_mem_of_not_mem hx hnot]
    simp
  obtain ⟨rest, hrest⟩ : ∃ rest, above ++ [d] = a :: rest := by
    rcases above with _ | ⟨b, above⟩
    · exact ⟨[], by injection hsplit with hda _; rw [hda]; rfl⟩
    · exact ⟨above ++ [d], by injection hsplit with hba _; rw [hba]; rfl⟩
  refine ⟨rest, ⟨below, ?_⟩, ?_, ?_⟩
  · rw [← hrest, hsplit, List.append_assoc]
    rfl
  · rw [← hrest, List.getLast?_concat]
  · calc (closing (a :: path) d).path
        = (above ++ [d]).reverse ++ [d] := by simp [closing, hwhile]
      _ = rest.reverse ++ [a, d] := by rw [hrest]; simp

/-- The path of a reported cycle is a closed walk. -/
theorem closedWalk_closing (h : Invariant g s) {a d : String} {path : List String}
    (hp : s.path = a :: path) (hd : d ∈ s.path) (hedge : g.Edge a d) :
    g.ClosedWalk (closing s.path d).path := by
  rw [hp] at hd ⊢
  obtain ⟨rest, hpre, hlast, hpath⟩ := closing_path hd
  have hchain : (rest.reverse ++ [a]).IsChain g.Edge := by
    rw [← List.reverse_cons, List.isChain_reverse]
    have hall := h.chain
    rw [hp] at hall
    exact hall.prefix hpre
  rw [hpath]
  refine ⟨List.isChain_append_cons_cons.mpr ⟨hchain, hedge, List.isChain_singleton d⟩, by simp, ?_⟩
  calc (rest.reverse ++ [a, d]).head?
      = ((a :: rest).reverse ++ [d]).head? := by simp
    _ = (a :: rest).getLast? := by
        rw [List.head?_append_of_ne_nil _ (by simp), List.head?_reverse]
    _ = (rest.reverse ++ [a, d]).getLast? := by simp [hlast]

/-- Closing a cycle keeps the invariant. -/
theorem close (h : Invariant g s) {a d : String} {path ds : List String}
    {unread : List (List String)} (hp : s.path = a :: path) (hu : s.unread = (d :: ds) :: unread)
    (hk : d ∈ g.keys) (hd : s.colour d = .grey) :
    Invariant g { s with unread := ds :: unread, cycles := s.cycles ++ [closing s.path d] } := by
  obtain ⟨hcur, hrest⟩ := h.reading_current hp hu
  have hmem : d ∈ s.path := (h.grey_iff d).mp hd
  have hwalk : g.ClosedWalk (closing s.path d).path :=
    h.closedWalk_closing hp hmem (h.edge_current hp hu hk)
  have hclose : Closes (s.cycles ++ [closing s.path d]) a d := by
    rw [hp] at hmem ⊢
    obtain ⟨rest, -, -, hpath⟩ := closing_path hmem
    exact ⟨closing (a :: path) d, by simp, rest.reverse, hpath⟩
  have hsettled : ∀ b c, s.Settled b c →
      Settled { s with unread := ds :: unread, cycles := s.cycles ++ [closing s.path d] } b c :=
    fun b c hbc => hbc.mono (List.Subset.refl _) (List.subset_append_left _ _) Or.inr
  refine
    { h with
      grey_iff := h.grey_iff
      black_iff := h.black_iff
      reading := forall₂_path hp (hcur.next (hsettled a) fun _ => Or.inr (Or.inl hclose))
        (hrest.imp fun b _ hb => hb.mono (hsettled b))
      finished := fun b hb c hbc => (h.finished b hb c hbc).imp_left fun hc => hc.append _
      cycles_closed := fun c hc => ?_ }
  rcases List.mem_append.mp hc with hold | hnew
  · exact h.cycles_closed c hold
  · obtain rfl := List.mem_singleton.mp hnew
    exact hwalk

/-- Entering a node keeps the invariant, if it is the first one or a dependency of the current
node, and if the other nodes of the path are still being read. -/
theorem enter (h : Invariant g s) {d : String} {unread : List (List String)} (hk : d ∈ g.keys)
    (hd : s.colour d = .white) (hedge : ∀ a ∈ s.path.head?, g.Edge a d)
    (hread : List.Forall₂ (Reading g (Search.enter g { s with unread } d)) s.path unread) :
    Invariant g (Search.enter g { s with unread } d) := by
  have hpath : d ∉ s.path := fun hmem => by
    rw [(h.grey_iff d).mpr hmem] at hd
    cases hd
  have horder : d ∉ s.order := fun hmem => by
    rw [(h.black_iff d).mpr hmem] at hd
    cases hd
  have hcolour : ∀ b, (Search.enter g { s with unread } d).colour b =
      if b = d then .grey else s.colour b := fun b => colour_enter (s := { s with unread }) d b
  have hcons : ∀ b, b ∈ d :: s.path ↔ b = d ∨ b ∈ s.path := fun b => List.mem_cons
  refine
    { path_mem := fun b hb => ?_
      order_mem := h.order_mem
      path_nodup := List.nodup_cons.mpr ⟨hpath, h.path_nodup⟩
      order_nodup := h.order_nodup
      grey_iff := fun b => ?_
      black_iff := fun b => ?_
      chain := h.chain.cons hedge
      reading := List.Forall₂.cons ⟨[], rfl, by simp⟩ hread
      finished := h.finished
      cycles_closed := h.cycles_closed }
  · rcases (hcons b).mp hb with rfl | hold
    · exact hk
    · exact h.path_mem b hold
  · rw [hcolour]
    by_cases hbd : b = d
    · simp [hbd]
    · rw [if_neg hbd, h.grey_iff]
      simp [hbd]
  · rw [hcolour]
    by_cases hbd : b = d
    · subst hbd
      simpa using horder
    · rw [if_neg hbd, h.black_iff]
      rfl

/-- Every step keeps the invariant. -/
theorem step (h : Invariant g s) (hs : Step g s s') : Invariant g s' := by
  cases hs with
  | finish hp hu => exact h.finish hp hu
  | pass hp hu hd => exact h.pass hp hu hd
  | close hp hu hk hd => exact h.close hp hu hk hd
  | @enter a d path ds unread hp hu hk hd =>
    have hedge : g.Edge a d := h.edge_current hp hu hk
    obtain ⟨hcur, hrest⟩ := h.reading_current hp hu
    have hsettled : ∀ b c, s.Settled b c →
        Settled (Search.enter g { s with unread := ds :: unread } d) b c :=
      fun b c hbc => hbc.mono (List.Subset.refl _) (List.Subset.refl _) fun hin =>
        Or.inr (hin.trans (List.infix_cons (List.infix_refl _)))
    have hnext : Settled (Search.enter g { s with unread := ds :: unread } d) a d := by
      refine Or.inr (Or.inr ⟨[], path, ?_⟩)
      simp [hp]
    refine h.enter hk hd (fun b hb => ?_) ?_
    · rw [hp] at hb
      obtain rfl := Option.some.inj hb
      exact hedge
    · exact forall₂_path hp (hcur.next (hsettled a) fun _ => hnext)
        (hrest.imp fun b _ hb => hb.mono (hsettled b))

end Invariant

end Search

end FluxFleet
