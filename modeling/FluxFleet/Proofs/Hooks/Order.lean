import FluxFleet.Hooks.Dispatcher
import FluxFleet.Proofs.Value.Key

/-!
# The order of hooks

The hooks of an event stand in ascending order of their priorities, and those of one priority in the
order of their registration (`InOrder`). A registration keeps this order and does not touch other
events (`hooksOf_register`), so every dispatcher that comes about by registrations has it
(`inOrder_registerAll`).

Priorities are meant to be whole numbers; any other priority could be one that cannot be compared.
-/

namespace FluxFleet

variable {η : Type}

/-- The priority of a hook as a number; a truth value counts as one or zero. -/
def Hook.level (h : Hook η) : Int := h.priority.asInt?.getD 0

/-- The hooks of an event that have been registered in the order of `row`. -/
structure InOrder (row hooks : List (Hook η)) : Prop where
  /-- the priorities are whole numbers -/
  whole : ∀ h ∈ hooks, h.priority.asInt?.isSome
  ascending : hooks.Pairwise fun g h => g.level ≤ h.level
  /-- ties stay as they were registered -/
  stable : ∀ n, hooks.filter (·.level = n) = row.filter (·.level = n)

namespace Registration

/-- The hook that is registered. -/
def hook (r : Registration η) : Hook η := ⟨r.priority, r.handler⟩

/-- A registration as it is meant: its event can be a key, as texts can, and its priority is a whole
number. -/
structure Proper (r : Registration η) : Prop where
  event : r.event.asKey = .ok r.event
  priority : r.priority.asInt?.isSome

end Registration

theorem Value.less?_of_asInt? {a b : Value} {m n : Int} (ha : a.asInt? = some m)
    (hb : b.asInt? = some n) : a.less? b = some (decide (m < n)) := by
  cases a <;> cases ha <;> cases b <;> cases hb <;> rfl

namespace Dispatcher

/-! ## One hook -/

section Insert

variable {h : Hook η} {hs row : List (Hook η)}

theorem less?_eq {g : Hook η} (hh : h.priority.asInt?.isSome) (hg : g.priority.asInt?.isSome) :
    h.priority.less? g.priority = some (decide (h.level < g.level)) := by
  obtain ⟨m, hm⟩ := Option.isSome_iff_exists.mp hh
  obtain ⟨n, hn⟩ := Option.isSome_iff_exists.mp hg
  rw [Value.less?_of_asInt? hm hn, Hook.level, Hook.level, hm, hn]
  rfl

theorem precedes_iff {g : Hook η} (hh : h.priority.asInt?.isSome)
    (hg : g.priority.asInt?.isSome) : precedes h g = true ↔ h.level < g.level := by
  rw [precedes, less?_eq hh hg, Option.getD_some, decide_eq_true_iff]

/-- Whole numbers can all be compared. -/
theorem mismatch?_eq_none :
    ∀ {hs : List (Hook η)}, (∀ h ∈ hs, h.priority.asInt?.isSome) → mismatch? hs = none
  | [], _ => rfl
  | [_], _ => rfl
  | g :: h :: hs, hwhole => by
    have hrest : ∀ h' ∈ h :: hs, h'.priority.asInt?.isSome :=
      fun h' hh' => hwhole h' (List.mem_cons_of_mem _ hh')
    rw [mismatch?, less?_eq (hrest h List.mem_cons_self) (hwhole g List.mem_cons_self),
      Option.isSome_some, if_pos rfl]
    exact mismatch?_eq_none hrest

theorem mem_insertHook {k : Hook η} : k ∈ insertHook h hs ↔ k = h ∨ k ∈ hs := by
  induction hs with
  | nil => exact List.mem_cons
  | cons g gs ih =>
    rw [insertHook]
    split
    · exact List.mem_cons
    · rw [List.mem_cons, ih, List.mem_cons]
      exact or_left_comm

theorem perm_insertHook (h : Hook η) (hs : List (Hook η)) : (insertHook h hs).Perm (hs ++ [h]) := by
  induction hs with
  | nil => exact .refl _
  | cons g gs ih =>
    rw [insertHook]
    split
    · exact (List.perm_append_singleton h (g :: gs)).symm
    · exact ih.cons g

/-- A hook is taken in also when it is refused. -/
theorem perm_arrange (h : Hook η) (hs : List (Hook η)) : (arrange h hs).1.Perm (hs ++ [h]) := by
  rw [arrange]
  split
  · exact perm_insertHook h hs
  · exact .refl _

/-- A hook is put where the order stays ascending. -/
theorem ascending_insertHook (hh : h.priority.asInt?.isSome)
    (hwhole : ∀ g ∈ hs, g.priority.asInt?.isSome)
    (hs_ascending : hs.Pairwise fun g h => g.level ≤ h.level) :
    (insertHook h hs).Pairwise fun g h => g.level ≤ h.level := by
  induction hs with
  | nil => exact List.pairwise_singleton _ _
  | cons g gs ih =>
    obtain ⟨hg, hgs⟩ := List.pairwise_cons.mp hs_ascending
    have hiff := precedes_iff hh (hwhole g List.mem_cons_self)
    rw [insertHook]
    split
    · next hbefore =>
      have hlt := hiff.mp hbefore
      refine List.pairwise_cons.mpr ⟨fun k hk => ?_, hs_ascending⟩
      rcases List.mem_cons.mp hk with rfl | hk
      · exact hlt.le
      · exact hlt.le.trans (hg k hk)
    · next hbehind =>
      have hle : g.level ≤ h.level := not_lt.mp fun hlt => hbehind (hiff.mpr hlt)
      refine List.pairwise_cons.mpr ⟨fun k hk => ?_,
        ih (fun k hk => hwhole k (List.mem_cons_of_mem _ hk)) hgs⟩
      rcases mem_insertHook.mp hk with rfl | hk
      · exact hle
      · exact hg k hk

/-- It is put behind all hooks of its priority. -/
theorem filter_insertHook (hh : h.priority.asInt?.isSome)
    (hwhole : ∀ g ∈ hs, g.priority.asInt?.isSome)
    (hs_ascending : hs.Pairwise fun g h => g.level ≤ h.level) (n : Int) :
    (insertHook h hs).filter (·.level = n) = (hs ++ [h]).filter (·.level = n) := by
  induction hs with
  | nil => rfl
  | cons g gs ih =>
    obtain ⟨hg, hgs⟩ := List.pairwise_cons.mp hs_ascending
    have hiff := precedes_iff hh (hwhole g List.mem_cons_self)
    rw [insertHook]
    split
    · next hbefore =>
      have hlt := hiff.mp hbefore
      by_cases hn : h.level = n
      · -- all others have a greater priority
        have hnone : (g :: gs).filter (·.level = n) = [] := by
          refine List.filter_eq_nil_iff.mpr fun k hk => ?_
          rw [decide_eq_true_iff]
          rcases List.mem_cons.mp hk with rfl | hk
          · omega
          · have := hg k hk
            omega
        rw [List.filter_append, List.filter_cons, hnone, List.nil_append, List.filter_cons,
          List.filter_nil]
      · simp only [List.filter_append, List.filter_cons, List.filter_nil, hn, decide_false,
          Bool.false_eq_true, if_false, List.append_nil]
    · rw [List.cons_append, List.filter_cons, List.filter_cons,
        ih (fun k hk => hwhole k (List.mem_cons_of_mem _ hk)) hgs]

/-- A hook that is taken in is the last one registered. -/
theorem inOrder_arrange (hh : h.priority.asInt?.isSome) (hhs : InOrder row hs) :
    (arrange h hs).2 = .ok () ∧ InOrder (row ++ [h]) (arrange h hs).1 := by
  have hwhole : ∀ g ∈ hs ++ [h], g.priority.asInt?.isSome := by
    intro g hg
    rcases List.mem_append.mp hg with hg | hg
    · exact hhs.whole g hg
    · rw [List.mem_singleton.mp hg]
      exact hh
  have harrange : arrange h hs = (insertHook h hs, .ok ()) := by
    rw [arrange, mismatch?_eq_none hwhole]
  rw [harrange]
  refine ⟨rfl, fun g hg => ?_, ascending_insertHook hh hhs.whole hhs.ascending, fun n => ?_⟩
  · rcases mem_insertHook.mp hg with rfl | hg
    · exact hh
    · exact hhs.whole g hg
  · rw [filter_insertHook hh hhs.whole hhs.ascending, List.filter_append, List.filter_append,
      hhs.stable]

end Insert

/-! ## All events -/

/-- The hooks of all events stand in order. -/
def Arranged (d : Dispatcher η) : Prop := ∀ event, InOrder (d.hooksOf event) (d.hooksOf event)

/-- Registrations in turn, whether they succeed or not. -/
def registerAll (d : Dispatcher η) (rs : List (Registration η)) : Dispatcher η :=
  rs.foldl (fun d r => (d.register r).1) d

theorem registerAll_append {d : Dispatcher η} {rs rs' : List (Registration η)} :
    d.registerAll (rs ++ rs') = (d.registerAll rs).registerAll rs' :=
  List.foldl_append

/-- The hooks that are registered for an event, in the order of registration. -/
def addedFor (event : Value) (rs : List (Registration η)) : List (Hook η) :=
  (rs.filter (·.event == event)).map (·.hook)

theorem addedFor_cons (event : Value) (r : Registration η) (rs : List (Registration η)) :
    addedFor event (r :: rs) = addedFor event [r] ++ addedFor event rs := by
  rw [addedFor, addedFor, addedFor, ← List.map_append, ← List.filter_append, List.singleton_append]

theorem arranged_empty : ({} : Dispatcher η).Arranged :=
  fun _ => ⟨nofun, List.Pairwise.nil, fun _ => rfl⟩

variable {d : Dispatcher η} {r : Registration η} {event : Value} {row : List (Hook η)}

/-- A registration takes its hook in among those of its event, and leaves the other events. -/
theorem hooksOf_register (hr : r.event.asKey = .ok r.event) :
    (d.register r).1.hooksOf event =
      if r.event == event then (arrange r.hook (d.hooksOf event)).1 else d.hooksOf event := by
  have hsteady := Value.steady_of_asKey hr
  have hregister : (d.register r).1 =
      ⟨d.hooks.insert r.event (arrange r.hook (d.hooksOf r.event)).1⟩ := by
    rw [register, hr]
    rfl
  rw [hregister, hooksOf, OrderedMap.get?_insert_of_steady _ hsteady]
  split
  · next hevent =>
    have hsame : d.hooksOf event = d.hooksOf r.event :=
      congrArg (·.getD []) (OrderedMap.find?_congr hsteady hevent d.hooks.entries)
    rw [Option.getD_some, hsame]
  · rfl

theorem inOrder_register (hr : r.Proper) (h : InOrder row (d.hooksOf event)) :
    InOrder (row ++ addedFor event [r]) ((d.register r).1.hooksOf event) := by
  rw [hooksOf_register hr.event, addedFor, List.filter_cons, List.filter_nil]
  split
  · exact (inOrder_arrange hr.priority h).2
  · rw [List.map_nil, List.append_nil]
    exact h

/-- After registrations the hooks of every event stand in order, behind those that were there. -/
theorem inOrder_registerAll {rs : List (Registration η)} (hrs : ∀ r ∈ rs, r.Proper) :
    ∀ {d : Dispatcher η} {row : List (Hook η)}, InOrder row (d.hooksOf event) →
      InOrder (row ++ addedFor event rs) ((d.registerAll rs).hooksOf event) := by
  induction rs with
  | nil =>
    intro d row h
    rw [addedFor, List.filter_nil, List.map_nil, List.append_nil]
    exact h
  | cons r rs ih =>
    intro d row h
    have hone := inOrder_register (hrs r List.mem_cons_self) h
    have hall := ih (fun r' hr' => hrs r' (List.mem_cons_of_mem _ hr')) hone
    rw [addedFor_cons, ← List.append_assoc]
    exact hall

theorem arranged_registerAll {rs : List (Registration η)} (hrs : ∀ r ∈ rs, r.Proper)
    (hd : d.Arranged) : (d.registerAll rs).Arranged := by
  intro event
  have h := inOrder_registerAll hrs (hd event)
  exact ⟨h.whole, h.ascending, fun _ => rfl⟩

end Dispatcher

end FluxFleet
