import FluxFleet.Hooks.Registry
import FluxFleet.Proofs.Hooks.Dispatch

/-!
# Hooks as they are registered

Only one arrangement of hooks is in order (`InOrder.unique`), the one that a stable sort by priority
gives (`inOrder_sorted`). So the hooks of an event are those registered for it, sorted, whatever is
registered for other events meanwhile. In a registry with a dispatcher of its own, the hook that
asks the providers is the first one registered, and therefore stands between the hooks with lower
priorities and all others (`Registry.registered_in_order`).
-/

namespace FluxFleet

variable {η : Type}

namespace Hook

/-- Whether a hook may stand before another one. -/
def mayPrecede (g h : Hook η) : Bool := decide (g.level ≤ h.level)

variable {g h : Hook η} {row : List (Hook η)}

@[simp]
theorem mayPrecede_iff : mayPrecede g h = true ↔ g.level ≤ h.level := decide_eq_true_iff

theorem mayPrecede_trans (g h k : Hook η) (hgh : mayPrecede g h = true)
    (hhk : mayPrecede h k = true) : mayPrecede g k = true := by
  rw [mayPrecede_iff] at *
  omega

theorem mayPrecede_total (g h : Hook η) : (mayPrecede g h || mayPrecede h g) = true := by
  rw [Bool.or_eq_true, mayPrecede_iff, mayPrecede_iff]
  omega

/-- Hooks sorted by priority, ties as they stood. -/
def sorted (row : List (Hook η)) : List (Hook η) := row.mergeSort mayPrecede

theorem mem_sorted : h ∈ sorted row ↔ h ∈ row := List.mem_mergeSort

/-- Sorting leaves the hooks of one priority as they stood. -/
theorem filter_sorted (row : List (Hook η)) (n : Int) :
    (sorted row).filter (·.level = n) = row.filter (·.level = n) := by
  have htied : (row.filter (·.level = n)).Pairwise fun g h => mayPrecede g h = true := by
    refine List.Pairwise.imp_of_mem (fun hg hh _ => ?_) (List.pairwise_of_forall fun _ _ => trivial)
    have hg := of_decide_eq_true (List.mem_filter.mp hg).2
    have hh := of_decide_eq_true (List.mem_filter.mp hh).2
    rw [mayPrecede_iff]
    omega
  have hkept : (row.filter (·.level = n)).Sublist (sorted row) :=
    List.sublist_mergeSort mayPrecede_trans mayPrecede_total htied List.filter_sublist
  have hsub := hkept.filter (·.level = n)
  rw [List.filter_filter] at hsub
  simp only [Bool.and_self] at hsub
  exact (hsub.eq_of_length ((List.mergeSort_perm row _).filter _).length_eq.symm).symm

end Hook

open Hook

/-! ## One arrangement -/

namespace InOrder

variable {row hooks gs hs : List (Hook η)}

/-- Hooks in ascending order are given by those of each priority. -/
theorem eq_of_ascending : ∀ {gs hs : List (Hook η)}, (gs.Pairwise fun g h => g.level ≤ h.level) →
    (hs.Pairwise fun g h => g.level ≤ h.level) →
    (∀ n, gs.filter (·.level = n) = hs.filter (·.level = n)) → gs = hs
  | [], [], _, _, _ => rfl
  | [], h :: hs, _, _, hfilter => by simpa using hfilter h.level
  | g :: gs, [], _, _, hfilter => by simpa using hfilter g.level
  | g :: gs, h :: hs, hleft, hright, hfilter => by
    -- each of the two first hooks is among the others, so that neither goes before the other
    have hg : g ∈ h :: hs := by
      have hmem : g ∈ (g :: gs).filter (·.level = g.level) := by simp
      rw [hfilter] at hmem
      exact (List.mem_filter.mp hmem).1
    have hh : h ∈ g :: gs := by
      have hmem : h ∈ (h :: hs).filter (·.level = h.level) := by simp
      rw [← hfilter] at hmem
      exact (List.mem_filter.mp hmem).1
    obtain ⟨hg_first, hgs⟩ := List.pairwise_cons.mp hleft
    obtain ⟨hh_first, hhs⟩ := List.pairwise_cons.mp hright
    have hle : g.level ≤ h.level := by
      rcases List.mem_cons.mp hh with rfl | hh
      · exact le_rfl
      · exact hg_first h hh
    have hge : h.level ≤ g.level := by
      rcases List.mem_cons.mp hg with rfl | hg
      · exact le_rfl
      · exact hh_first g hg
    have hlevel : g.level = h.level := by omega
    obtain rfl : g = h := by
      have hfirst := hfilter g.level
      simp only [List.filter_cons, ← hlevel, decide_true, if_true] at hfirst
      exact (List.cons.inj hfirst).1
    have hrest : ∀ n, gs.filter (·.level = n) = hs.filter (·.level = n) := by
      intro n
      have hn := hfilter n
      simp only [List.filter_cons] at hn
      split at hn
      · exact (List.cons.inj hn).2
      · exact hn
    rw [eq_of_ascending hgs hhs hrest]

/-- Hooks are in order in one way. -/
theorem unique (hgs : InOrder row gs) (hhs : InOrder row hs) : gs = hs :=
  eq_of_ascending hgs.ascending hhs.ascending fun n => (hgs.stable n).trans (hhs.stable n).symm

end InOrder

/-- Sorted hooks are in order. -/
theorem inOrder_sorted {row : List (Hook η)} (hwhole : ∀ h ∈ row, h.priority.asInt?.isSome) :
    InOrder row (sorted row) := by
  refine ⟨fun h hh => hwhole h (mem_sorted.mp hh), ?_, filter_sorted row⟩
  have hpairs : (sorted row).Pairwise fun g h => mayPrecede g h = true :=
    List.pairwise_mergeSort mayPrecede_trans mayPrecede_total row
  exact hpairs.imp mayPrecede_iff.mp

/-! ## Registrations -/

namespace Dispatcher

variable {rs : List (Registration η)} {event : Value}

theorem mem_addedFor {h : Hook η} :
    h ∈ addedFor event rs ↔ ∃ r ∈ rs, (r.event == event) = true ∧ r.hook = h := by
  rw [addedFor, List.mem_map]
  simp only [List.mem_filter, and_assoc]

theorem whole_of_proper (hrs : ∀ r ∈ rs, r.Proper) :
    ∀ h ∈ addedFor event rs, h.priority.asInt?.isSome := by
  intro h hh
  obtain ⟨r, hr, -, rfl⟩ := mem_addedFor.mp hh
  exact (hrs r hr).priority

theorem register_eq_ok {d : Dispatcher η} {r : Registration η} (hd : d.Arranged) (hr : r.Proper) :
    (d.register r).2 = .ok () := by
  rw [register, hr.event]
  exact (inOrder_arrange hr.priority (hd r.event)).1

/-- The hooks of an event are those that were registered for it, sorted. -/
theorem hooksOf_registerAll (hrs : ∀ r ∈ rs, r.Proper) (event : Value) :
    InOrder (addedFor event rs) ((registerAll {} rs).hooksOf event) ∧
    (registerAll {} rs).hooksOf event = sorted (addedFor event rs) := by
  have horder := inOrder_registerAll hrs (arranged_empty event)
  have hempty : ({} : Dispatcher η).hooksOf event = [] := rfl
  rw [hempty, List.nil_append] at horder
  exact ⟨horder, horder.unique (inOrder_sorted (whole_of_proper hrs))⟩

/-- None of the registrations fails. -/
theorem registered_of_prefix {before : List (Registration η)} {r : Registration η}
    (hrs : ∀ r ∈ rs, r.Proper) (h : before ++ [r] <+: rs) :
    ((registerAll {} before).register r).2 = .ok () := by
  have hbefore : ∀ r' ∈ before, r'.Proper :=
    fun r' hr' => hrs r' (h.subset (List.mem_append_left _ hr'))
  have hr : r.Proper := hrs r (h.subset (List.mem_append_right _ List.mem_cons_self))
  exact register_eq_ok (arranged_registerAll hbefore arranged_empty) hr

/-- A dispatch runs the hooks of its event in the order in which they stand. -/
theorem dispatched_calls {τ : Type} (answer : η → Value → Context → Dispatcher η → Reply η τ)
    (d : Dispatcher η) (event : Value) (c : Context) :
    Dispatched answer event (d.hooksOf event) c d (d.calls answer event c)
      (d.dispatch answer event c).1.dispatcher (d.dispatch answer event c).2 := by
  let start (ρ : Type) : Dispatch η ρ := { dispatcher := d, context := c, caller := c }
  obtain ⟨calls, htrace, hdispatched⟩ :=
    @Dispatch.dispatched_run η τ answer event (d.hooksOf event) (start _) (start _) rfl rfl
  obtain rfl : d.calls answer event c = calls := htrace
  exact hdispatched

end Dispatcher

namespace Registry

open Dispatcher

variable {π τ : Type}

/-! ## What is put into a registry -/

/-- What is put into a registry at a time. -/
inductive Addition (η π : Type) where
  | hook (h : Registration η)
  | plugin (p : Plugin η π)

/-- The hooks that are registered thereby. -/
def Addition.hooks : Addition η π → List (Registration η)
  | .hook h => [h]
  | .plugin p => p.hooks

/-- Put something into a registry, whether this succeeds or not. -/
def add (r : Registry η π) : Addition η π → Registry η π
  | .hook h => (r.registerHook h).1
  | .plugin p => (r.load p).1

/-- A registry of its own with additions in turn. -/
def assembled (added : List (Addition η π)) : Registry η π := added.foldl add new

variable {r : Registry η π} {h : Registration η} {hs : List (Registration η)}
variable {rs : List (Registration (PluginHook η π))} {added : List (Addition η π)}

theorem proper_custom (hh : h.Proper) : (custom (π := π) h).Proper := ⟨hh.event, hh.priority⟩

/-- Hooks are registered all, since none is refused. -/
theorem dispatcher_loadHooks (hhs : ∀ h ∈ hs, h.Proper) :
    ∀ {r : Registry η π}, r.dispatcher.Arranged →
      (r.loadHooks hs).1.dispatcher = r.dispatcher.registerAll (hs.map custom) ∧
      (r.loadHooks hs).2 = .ok () := by
  induction hs with
  | nil => exact fun _ => ⟨rfl, rfl⟩
  | cons h hs ih =>
    intro r hr
    have hproper := proper_custom (π := π) (hhs h List.mem_cons_self)
    have hok : (r.registerHook h).2 = .ok () := register_eq_ok hr hproper
    have hnext : (r.registerHook h).1.dispatcher.Arranged :=
      arranged_registerAll (List.forall_mem_singleton.mpr hproper) hr
    have hone : r.registerHook h = ((r.registerHook h).1, .ok ()) := Prod.ext rfl hok
    have hload : r.loadHooks (h :: hs) = (r.registerHook h).1.loadHooks hs := by
      rw [loadHooks, hone]
    rw [hload]
    exact ih (fun h' hh' => hhs h' (List.mem_cons_of_mem _ hh')) hnext

/-- Providers do not touch hooks. -/
theorem dispatcher_loadProviders (ps : List (Value × π)) :
    ∀ r : Registry η π, (r.loadProviders ps).1.dispatcher = r.dispatcher := by
  induction ps with
  | nil => exact fun _ => rfl
  | cons p ps ih =>
    intro r
    rw [loadProviders]
    split
    · next r' hr' =>
      obtain ⟨type, -, hr'⟩ := bind_eq_ok.mp hr'
      split at hr'
      · cases hr'
      · cases hr'
        exact ih _
    · rfl

/-- An addition registers its hooks in turn. -/
theorem dispatcher_add {a : Addition η π} (hr : r.dispatcher.Arranged)
    (ha : ∀ h ∈ a.hooks, h.Proper) :
    (r.add a).dispatcher = r.dispatcher.registerAll (a.hooks.map custom) := by
  cases a with
  | hook h => rfl
  | plugin p =>
    obtain ⟨hhooks, hok⟩ := dispatcher_loadHooks ha hr
    have hone : r.loadHooks p.hooks = ((r.loadHooks p.hooks).1, .ok ()) := Prod.ext rfl hok
    rw [add, load, hone]
    dsimp only
    rw [dispatcher_loadProviders]
    exact hhooks

theorem dispatcher_addAll (hadded : ∀ a ∈ added, ∀ h ∈ a.hooks, h.Proper) :
    ∀ {r : Registry η π}, r.dispatcher.Arranged →
      (added.foldl add r).dispatcher =
        r.dispatcher.registerAll ((added.flatMap (·.hooks)).map custom) := by
  induction added with
  | nil => exact fun _ => rfl
  | cons a added ih =>
    intro r hr
    obtain ⟨ha, hrest⟩ := List.forall_mem_cons.mp hadded
    have hone := dispatcher_add hr ha
    have hnext : (r.add a).dispatcher.Arranged := by
      rw [hone]
      refine arranged_registerAll (fun c hc => ?_) hr
      obtain ⟨h, hh, rfl⟩ := List.mem_map.mp hc
      exact proper_custom (ha h hh)
    rw [List.foldl_cons, ih hrest hnext, hone, ← registerAll_append, ← List.map_append,
      ← List.flatMap_cons]

/-! ## The own hook among the others -/

/-- Of the hooks of one priority all stay or none, if it depends on the priority which of them
stay. -/
theorem filter_filter_level (row : List (Hook η)) (stays : Int → Bool) (n : Int) :
    (row.filter (·.level = n)).filter (fun g => stays g.level) =
      if stays n then row.filter (·.level = n) else [] := by
  have hlevel : ∀ g ∈ row.filter (·.level = n), g.level = n :=
    fun g hg => of_decide_eq_true (List.mem_filter.mp hg).2
  split
  · next hn => exact List.filter_eq_self.mpr fun g hg => by rw [hlevel g hg, hn]
  · next hn => exact List.filter_eq_nil_iff.mpr fun g hg => by rwa [hlevel g hg]

/-- The custom hooks of an event, in the order of their registration. -/
def customFor (event : Value) (added : List (Addition η π)) : List (Hook (PluginHook η π)) :=
  addedFor event ((added.flatMap (·.hooks)).map custom)

/-- The custom hooks that run before the providers are asked. -/
def early (added : List (Addition η π)) : List (Hook (PluginHook η π)) :=
  sorted ((customFor afterResolve added).filter (·.level < 50))

/-- The custom hooks that run afterwards. -/
def late (added : List (Addition η π)) : List (Hook (PluginHook η π)) :=
  sorted ((customFor afterResolve added).filter (50 ≤ ·.level))

/-- The hook that asks the providers, as it stands among the hooks of its event. -/
def asking : Hook (PluginHook η π) := ⟨.int 50, .provide⟩

theorem level_asking : (asking : Hook (PluginHook η π)).level = 50 := rfl

theorem mem_early {g : Hook (PluginHook η π)} :
    g ∈ early added ↔ g ∈ customFor afterResolve added ∧ g.level < 50 := by
  rw [early, mem_sorted, List.mem_filter, decide_eq_true_iff]

theorem mem_late {g : Hook (PluginHook η π)} :
    g ∈ late added ↔ g ∈ customFor afterResolve added ∧ 50 ≤ g.level := by
  rw [late, mem_sorted, List.mem_filter, decide_eq_true_iff]

theorem filter_early (n : Int) : (early added).filter (·.level = n) =
    if n < 50 then (customFor afterResolve added).filter (·.level = n) else [] := by
  rw [early, filter_sorted, List.filter_comm, filter_filter_level _ (decide <| · < 50)]
  simp only [decide_eq_true_eq]

theorem filter_late (n : Int) : (late added).filter (·.level = n) =
    if 50 ≤ n then (customFor afterResolve added).filter (·.level = n) else [] := by
  rw [late, filter_sorted, List.filter_comm, filter_filter_level _ (decide <| 50 ≤ ·)]
  simp only [decide_eq_true_eq]

/-- The hook that was registered first stands behind those of lower priority, and before all
others. -/
theorem inOrder_asking
    (hwhole : ∀ g ∈ customFor afterResolve added, g.priority.asInt?.isSome) :
    InOrder (asking :: customFor afterResolve added) (early added ++ asking :: late added) := by
  have hearly : InOrder _ (early added) :=
    inOrder_sorted fun g hg => hwhole g (List.mem_of_mem_filter hg)
  have hlate : InOrder _ (late added) :=
    inOrder_sorted fun g hg => hwhole g (List.mem_of_mem_filter hg)
  refine ⟨?_, ?_, fun n => ?_⟩
  · refine List.forall_mem_append.mpr ⟨hearly.whole, List.forall_mem_cons.mpr ⟨rfl, hlate.whole⟩⟩
  · refine List.pairwise_append.mpr ⟨hearly.ascending,
      List.pairwise_cons.mpr ⟨fun g hg => (mem_late.mp hg).2, hlate.ascending⟩, fun g hg k hk => ?_⟩
    have hg := (mem_early.mp hg).2
    rcases List.mem_cons.mp hk with rfl | hk
    · rw [level_asking]
      omega
    · have hk := (mem_late.mp hk).2
      omega
  · rw [List.filter_append, List.filter_cons, List.filter_cons, filter_early, filter_late,
      level_asking]
    rcases lt_trichotomy n 50 with hn | rfl | hn
    · have hne : ¬ (50 : Int) = n := by omega
      have hlow : ¬ 50 ≤ n := by omega
      simp [hn, hne, hlow]
    · simp
    · have hne : ¬ (50 : Int) = n := by omega
      have hhigh : ¬ n < 50 := by omega
      simp [hn.le, hne, hhigh]

/-- All hooks of a registry of its own are registered one after another, the own one first. -/
theorem dispatcher_assembled (hadded : ∀ a ∈ added, ∀ h ∈ a.hooks, h.Proper) :
    (assembled added).dispatcher =
      registerAll {} (ownHook :: (added.flatMap (·.hooks)).map custom) := by
  have hnew : (new : Registry η π).dispatcher.Arranged :=
    arranged_registerAll (List.forall_mem_singleton.mpr ⟨rfl, rfl⟩) arranged_empty
  exact dispatcher_addAll hadded hnew

theorem proper_customs (hadded : ∀ a ∈ added, ∀ h ∈ a.hooks, h.Proper) :
    ∀ c ∈ (added.flatMap (·.hooks)).map (custom (π := π)), c.Proper := by
  intro c hc
  obtain ⟨h, hh, rfl⟩ := List.mem_map.mp hc
  obtain ⟨a, ha, hh⟩ := List.mem_flatMap.mp hh
  exact proper_custom (hadded a ha h hh)

theorem hooksOf_assembled (hadded : ∀ a ∈ added, ∀ h ∈ a.hooks, h.Proper) :
    (assembled added).dispatcher.hooksOf afterResolve = early added ++ asking :: late added := by
  have hcustoms := proper_customs hadded
  have hproper : ∀ c ∈ ownHook :: (added.flatMap (·.hooks)).map (custom (π := π)), c.Proper :=
    List.forall_mem_cons.mpr ⟨⟨rfl, rfl⟩, hcustoms⟩
  have hrow : addedFor afterResolve (ownHook :: (added.flatMap (·.hooks)).map custom) =
      asking :: customFor afterResolve added := rfl
  have horder := (hooksOf_registerAll hproper afterResolve).1
  rw [dispatcher_assembled hadded]
  rw [hrow] at horder
  exact horder.unique (inOrder_asking (whole_of_proper hcustoms))

/-- **The order of hooks.** The hooks of an event are those that were registered for it, whatever
was registered for others in between: sorted by priority, and of equal priority as they were
registered. No registration fails. So in a registry with a dispatcher of its own the providers are
asked after all custom hooks with a priority below 50 and before all others. -/
theorem registered_in_order (rs : List (Registration η)) (added : List (Addition η π))
    (hrs : ∀ r ∈ rs, r.Proper) (hadded : ∀ a ∈ added, ∀ h ∈ a.hooks, h.Proper) :
    (∀ event, (registerAll {} rs).hooksOf event = sorted (addedFor event rs) ∧
      InOrder (addedFor event rs) ((registerAll {} rs).hooksOf event)) ∧
    (∀ before r, before ++ [r] <+: rs → ((registerAll {} before).register r).2 = .ok ()) ∧
    (assembled added).dispatcher.hooksOf afterResolve = early added ++ asking :: late added ∧
    ∀ (plugins : Plugins η π τ) (c : Context),
      Dispatched ((assembled added).answer plugins) afterResolve
        (early added ++ asking :: late added) c (assembled added).dispatcher
        ((assembled added).dispatcher.calls ((assembled added).answer plugins) afterResolve c)
        ((assembled added).dispatch plugins afterResolve c).1.dispatcher
        ((assembled added).dispatch plugins afterResolve c).2 := by
  have hhooks := hooksOf_assembled hadded
  refine ⟨fun event => ?_, fun before r h => registered_of_prefix hrs h, hhooks,
    fun plugins c => ?_⟩
  · obtain ⟨horder, hsorted⟩ := hooksOf_registerAll hrs event
    exact ⟨hsorted, horder⟩
  · rw [← hhooks]
    exact dispatched_calls _ _ _ c

/-! ## A registry with hooks on both sides -/

/-- Hooks for two events, those of one among those of the other. -/
def mixed : List (Registration String) :=
  [⟨beforeWrite, "sign", .int 10⟩, ⟨afterResolve, "label", .int 100⟩,
    ⟨beforeWrite, "check", .int (-1)⟩, ⟨afterResolve, "count", .int 50⟩,
    ⟨afterResolve, "rename", .int 49⟩, ⟨beforeWrite, "log", .int 10⟩]

/-- The same hooks, some of them in a plugin. -/
def mixture : List (Addition String Unit) :=
  [.plugin { hooks := mixed.take 3 }] ++ (mixed.drop 3).map .hook

theorem proper_mixed : ∀ r ∈ mixed, r.Proper := by
  intro r hr
  simp only [mixed, List.mem_cons, List.not_mem_nil, or_false] at hr
  rcases hr with rfl | rfl | rfl | rfl | rfl | rfl <;> exact ⟨rfl, rfl⟩

theorem proper_mixture : ∀ a ∈ mixture, ∀ h ∈ a.hooks, h.Proper := by
  have hmixed : mixture.flatMap (·.hooks) = mixed := rfl
  intro a ha h hh
  refine proper_mixed h ?_
  rw [← hmixed]
  exact List.mem_flatMap_of_mem ha hh

/-- The providers are asked between the hook of priority 49 and those of 50 and 100, one of which
was registered before the former. -/
theorem mixed_in_order :
    ((registerAll {} mixed).hooksOf beforeWrite).map (·.handler) = ["check", "sign", "log"] ∧
    (registerAll {} mixed).hooksOf beforeWrite = sorted (addedFor beforeWrite mixed) ∧
    ((assembled mixture).dispatcher.hooksOf afterResolve).map (·.handler) =
      [.custom "rename", .provide, .custom "count", .custom "label"] ∧
    (assembled mixture).dispatcher.hooksOf afterResolve =
      early mixture ++ asking :: late mixture := by
  have horder := registered_in_order (τ := Unit) mixed mixture proper_mixed proper_mixture
  exact ⟨rfl, (horder.1 beforeWrite).1, rfl, horder.2.2.1⟩

end Registry

end FluxFleet
