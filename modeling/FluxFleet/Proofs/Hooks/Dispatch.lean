import FluxFleet.Proofs.Hooks.Order
import FluxFleet.Proofs.Result

/-!
# What a dispatch does

A dispatch calls the hooks that are registered for its event when it starts, in their order, and
hands the context on from one to the next. It ends behind the last of them, or at the first that
fails (`Dispatched`). The calls are seen through handlers that note them in the trace
(`Dispatcher.calls`); apart from the trace these do what the handlers do.

What is registered meanwhile does not change which hooks are called, but it is there afterwards,
each hook in its place among the others (`dispatch_snapshot`).

A handler is any function of what it is given. One with a state of its own is covered as well, since
each hook of a dispatch may be given a handler by itself that answers as the one with the state does
at this place.
-/

namespace FluxFleet

variable {η τ : Type} {answer : η → Value → Context → Dispatcher η → Reply η τ}

/-- A call of a handler, with what it is given. -/
structure Call (η : Type) where
  handler : η
  event : Value
  received : Context
  /-- the dispatcher as the handler finds it -/
  dispatcher : Dispatcher η

/-- How the handler answers a call. -/
def Call.reply (answer : η → Value → Context → Dispatcher η → Reply η τ) (k : Call η) : Reply η τ :=
  answer k.handler k.event k.received k.dispatcher

/-- Calls that hand a context and a dispatcher on: each is given the context that the one before it
passes on and the dispatcher as that one leaves it. -/
inductive HandedOn (answer : η → Value → Context → Dispatcher η → Reply η τ) :
    Context → Dispatcher η → List (Call η) → Context → Dispatcher η → Prop
  | done (c : Context) (d : Dispatcher η) : HandedOn answer c d [] c d
  | next {k : Call η} {ks : List (Call η)} {c c' : Context} {d' : Dispatcher η}
      (passed : (k.reply answer).passedOn = .ok c)
      (rest : HandedOn answer c (k.reply answer).dispatcher ks c' d') :
      HandedOn answer k.received k.dispatcher (k :: ks) c' d'

/-- What the dispatch of an event to hooks comes to: the calls, the dispatcher that is left and the
outcome. -/
inductive Dispatched (answer : η → Value → Context → Dispatcher η → Reply η τ) (event : Value)
    (hooks : List (Hook η)) (c : Context) (d : Dispatcher η) :
    List (Call η) → Dispatcher η → Except Error Context → Prop
  /-- if no hook fails, all are called, and the last context is the outcome -/
  | all {calls : List (Call η)} {c' : Context} {d' : Dispatcher η}
      (ran : calls.map (·.handler) = hooks.map (·.handler)) (events : ∀ k ∈ calls, k.event = event)
      (handed : HandedOn answer c d calls c' d') :
      Dispatched answer event hooks c d calls d' (.ok c')
  /-- the first hook that fails is the last one called; the library's own errors are passed on as
  they are, and the text of any other becomes a failure of the event's hook -/
  | stopped {before : List (Call η)} {last : Call η} {e : Error}
      (ran : (before ++ [last]).map (·.handler) <+: hooks.map (·.handler))
      (events : ∀ k ∈ before ++ [last], k.event = event)
      (handed : HandedOn answer c d before last.received last.dispatcher)
      (failed : (last.reply answer).outcome = .error e) :
      Dispatched answer event hooks c d (before ++ [last]) (last.reply answer).dispatcher
        (.error (if e.isReported then e else .hook event e.message))

/-- Handlers that note each call in the trace, and nothing else. -/
def noting (answer : η → Value → Context → Dispatcher η → Reply η τ) (h : η) (event : Value)
    (c : Context) (d : Dispatcher η) : Reply η (Call η) :=
  let r := answer h event c d
  { left := r.left, dispatcher := r.dispatcher, outcome := r.outcome, trace := [⟨h, event, c, d⟩] }

/-- The calls of a dispatch. -/
def Dispatcher.calls (answer : η → Value → Context → Dispatcher η → Reply η τ) (d : Dispatcher η)
    (event : Value) (c : Context) : List (Call η) :=
  (d.dispatch (noting answer) event c).1.trace

namespace Dispatched

variable {event : Value} {hooks : List (Hook η)} {calls : List (Call η)} {k : Call η} {h : Hook η}
variable {c : Context} {d' : Dispatcher η} {outcome : Except Error Context}

/-- A hook that passes a context on goes before a dispatch that starts with it. -/
theorem cons (hhandler : k.handler = h.handler) (hevent : k.event = event)
    (hpassed : (k.reply answer).passedOn = .ok c)
    (hrest : Dispatched answer event hooks c (k.reply answer).dispatcher calls d' outcome) :
    Dispatched answer event (h :: hooks) k.received k.dispatcher (k :: calls) d' outcome := by
  cases hrest with
  | all ran events handed =>
    refine .all ?_ (List.forall_mem_cons.mpr ⟨hevent, events⟩) (.next hpassed handed)
    rw [List.map_cons, List.map_cons, ran, hhandler]
  | stopped ran events handed failed =>
    rw [← List.cons_append]
    refine .stopped ?_ (List.forall_mem_cons.mpr ⟨hevent, events⟩) (.next hpassed handed) failed
    rw [List.cons_append, List.map_cons, List.map_cons, hhandler]
    exact (List.prefix_cons_inj _).mpr ran

/-- A hook that fails ends the dispatch. -/
theorem of_failed {e : Error} (hhandler : k.handler = h.handler) (hevent : k.event = event)
    (hfailed : (k.reply answer).outcome = .error e) :
    Dispatched answer event (h :: hooks) k.received k.dispatcher [k] (k.reply answer).dispatcher
      (.error (if e.isReported then e else .hook event e.message)) := by
  rw [← List.nil_append [k]]
  refine .stopped ?_ (List.forall_mem_singleton.mpr hevent) (.done _ _) hfailed
  rw [List.nil_append, List.map_cons, List.map_nil, List.map_cons, hhandler]
  exact (List.prefix_cons_inj _).mpr List.nil_prefix

end Dispatched

namespace Dispatch

variable {event : Value} {s : Dispatch η τ} {left : Context} {handover : Handover}

/-- A context that is passed on is the one that the next hook receives. -/
theorem passedOn_of_outcome {r : Reply η τ} {ρ : Type} (s : Dispatch η ρ)
    (h : r.outcome = .ok handover) : r.passedOn = .ok (s.handOver r.left handover).context := by
  rw [Reply.passedOn, h]
  cases handover <;> rfl

@[simp]
theorem dispatcher_handOver : (s.handOver left handover).dispatcher = s.dispatcher := by
  cases handover <;> rfl

@[simp]
theorem trace_handOver : (s.handOver left handover).trace = s.trace := by
  cases handover <;> rfl

/-- A run of hooks is a dispatch to them, by the calls that the same run notes. -/
theorem dispatched_run {hooks : List (Hook η)} :
    ∀ {noted : Dispatch η (Call η)} {s : Dispatch η τ}, noted.context = s.context →
      noted.dispatcher = s.dispatcher → ∃ calls,
        (run (noting answer) event hooks noted).1.trace = noted.trace ++ calls ∧
        Dispatched answer event hooks s.context s.dispatcher calls
          (run answer event hooks s).1.dispatcher (run answer event hooks s).2 := by
  induction hooks with
  | nil =>
    intro noted s _ _
    rw [run, run]
    exact ⟨[], (List.append_nil _).symm, .all rfl (List.forall_mem_nil _) (.done _ _)⟩
  | cons h hooks ih =>
    intro noted s hcontext hdispatcher
    -- both runs make the same call of this hook
    obtain ⟨k, hhandler, hevent, hreceived, hfound⟩ : ∃ k : Call η, k.handler = h.handler ∧
        k.event = event ∧ k.received = s.context ∧ k.dispatcher = s.dispatcher :=
      ⟨⟨h.handler, event, s.context, s.dispatcher⟩, rfl, rfl, rfl, rfl⟩
    have hreply : answer h.handler event s.context s.dispatcher = k.reply answer := by
      rw [Call.reply, hhandler, hevent, hreceived, hfound]
    have hnoted : noting answer h.handler event noted.context noted.dispatcher =
        ⟨(k.reply answer).left, (k.reply answer).dispatcher, (k.reply answer).outcome, [k]⟩ := by
      rw [hcontext, hdispatcher, noting, hreply, ← hhandler, ← hevent, ← hreceived, ← hfound]
    rw [run, run, hnoted, hreply, ← hreceived, ← hfound]
    rcases houtcome : (k.reply answer).outcome with e | handover
    · exact ⟨[k], rfl, .of_failed hhandler hevent houtcome⟩
    · have hpassed := passedOn_of_outcome (s.absorb (k.reply answer)) houtcome
      obtain ⟨calls, htrace, hrest⟩ := @ih
        ((noted.absorb ⟨_, (k.reply answer).dispatcher, .ok handover, [k]⟩).handOver _ handover)
        ((s.absorb (k.reply answer)).handOver _ handover) (by cases handover <;> rfl)
        (by rw [dispatcher_handOver, dispatcher_handOver]; rfl)
      rw [dispatcher_handOver] at hrest
      refine ⟨k :: calls, ?_, .cons hhandler hevent hpassed hrest⟩
      rw [htrace, trace_handOver, absorb, List.append_assoc, List.singleton_append]

end Dispatch

/-! ## Registrations meanwhile -/

section Registered

variable {event : Value} {hooks : List (Hook η)} {calls : List (Call η)} {c c' : Context}
variable {d d' : Dispatcher η} {outcome : Except Error Context}
variable {registered : Call η → List (Registration η)}

theorem HandedOn.dispatcher_eq (h : HandedOn answer c d calls c' d')
    (hcalls : ∀ k ∈ calls, (k.reply answer).dispatcher = k.dispatcher.registerAll (registered k)) :
    d' = d.registerAll (calls.flatMap registered) := by
  induction h with
  | done c d => rfl
  | next passed rest ih =>
    obtain ⟨hfirst, hrest⟩ := List.forall_mem_cons.mp hcalls
    rw [ih hrest, hfirst, List.flatMap_cons, Dispatcher.registerAll_append]

/-- What the handlers have registered, in the order of their calls, is all that a dispatch adds. -/
theorem Dispatched.dispatcher_eq (h : Dispatched answer event hooks c d calls d' outcome)
    (hcalls : ∀ k ∈ calls, (k.reply answer).dispatcher = k.dispatcher.registerAll (registered k)) :
    d' = d.registerAll (calls.flatMap registered) := by
  cases h with
  | all ran events handed => exact handed.dispatcher_eq hcalls
  | stopped ran events handed failed =>
    obtain ⟨hbefore, hlast⟩ := List.forall_mem_append.mp hcalls
    rw [hlast _ List.mem_cons_self, handed.dispatcher_eq hbefore, List.flatMap_append,
      List.flatMap_singleton, Dispatcher.registerAll_append]

end Registered

namespace Dispatcher

/-- What the handlers that are called register, each by itself as given. -/
def enrolled (answer : η → Value → Context → Dispatcher η → Reply η τ)
    (registered : Call η → List (Registration η)) (d : Dispatcher η) (event : Value) (c : Context) :
    List (Registration η) :=
  (d.calls answer event c).flatMap registered

/-- **Dispatch.** The hooks of an event are called as they stand when the dispatch starts, one after
another up to the first that fails. What the handlers register meanwhile is there afterwards, in the
order of priority and, among equals, of registration. -/
theorem dispatch_snapshot (answer : η → Value → Context → Dispatcher η → Reply η τ)
    (d : Dispatcher η) (event : Value) (c : Context) :
    Dispatched answer event (d.hooksOf event) c d (d.calls answer event c)
      (d.dispatch answer event c).1.dispatcher (d.dispatch answer event c).2 ∧
    ∀ registered : Call η → List (Registration η),
      (∀ k ∈ d.calls answer event c,
        (k.reply answer).dispatcher = k.dispatcher.registerAll (registered k)) →
      (d.dispatch answer event c).1.dispatcher =
          d.registerAll (d.enrolled answer registered event c) ∧
      (d.Arranged → (∀ r ∈ d.enrolled answer registered event c, r.Proper) →
        (d.dispatch answer event c).1.dispatcher.Arranged ∧
        ∀ next, InOrder (d.hooksOf next ++ addedFor next (d.enrolled answer registered event c))
          ((d.dispatch answer event c).1.dispatcher.hooksOf next)) := by
  let start (ρ : Type) : Dispatch η ρ := { dispatcher := d, context := c, caller := c }
  obtain ⟨calls, htrace, hdispatched⟩ :=
    @Dispatch.dispatched_run η τ answer event (d.hooksOf event) (start _) (start _) rfl rfl
  obtain rfl : d.calls answer event c = calls := htrace
  refine ⟨hdispatched, fun registered hcalls => ?_⟩
  have hafter : (d.dispatch answer event c).1.dispatcher =
      d.registerAll (d.enrolled answer registered event c) :=
    hdispatched.dispatcher_eq hcalls
  refine ⟨hafter, fun hd hproper => ?_⟩
  rw [hafter]
  exact ⟨arranged_registerAll hproper hd, fun _ => inOrder_registerAll hproper (hd _)⟩

end Dispatcher

/-! ## A dispatch that is cut short -/

/-- Handlers of a small dispatch. -/
inductive Guard where
  /-- registers one that sleeps, before itself -/
  | waking
  | failing
  | sleeping
deriving DecidableEq, Repr

namespace Guard

/-- What a guard that is called registers. -/
def registered (k : Call Guard) : List (Registration Guard) :=
  match k.handler with
  | .waking => [⟨.str "night", .sleeping, .int 5⟩]
  | _ => []

/-- How a guard answers. -/
def stand (g : Guard) (event : Value) (c : Context) (d : Dispatcher Guard) : Reply Guard Unit :=
  { left := c
    dispatcher := d.registerAll (registered ⟨g, event, c, d⟩)
    outcome := if g = .failing then .error (.raised .key [.str "gate"]) else .ok .received }

/-- Three guards for the night. -/
def posts : List (Registration Guard) :=
  [⟨.str "night", .failing, .int 20⟩, ⟨.str "night", .waking, .int 10⟩,
    ⟨.str "night", .sleeping, .int 20⟩]

theorem proper_posts : ∀ r ∈ posts, r.Proper := by
  intro r hr
  simp only [posts, List.mem_cons, List.not_mem_nil, or_false] at hr
  rcases hr with rfl | rfl | rfl <;> exact ⟨rfl, rfl⟩

def posted : Dispatcher Guard := Dispatcher.registerAll {} posts

def yard : Context := { cluster := { name := "yard" } }

/-- A guard that is woken is not called at once, though it comes first from then on; one behind the
failure is not called at all. -/
theorem waking_at_night :
    (posted.calls stand (.str "night") yard).map (·.handler) = [.waking, .failing] ∧
    (posted.dispatch stand (.str "night") yard).1.dispatcher.hooksOf (.str "night") =
      [⟨.int 5, .sleeping⟩, ⟨.int 10, .waking⟩, ⟨.int 20, .failing⟩, ⟨.int 20, .sleeping⟩] ∧
    (∀ k ∈ posted.calls stand (.str "night") yard,
      (k.reply stand).dispatcher = k.dispatcher.registerAll (registered k)) ∧
    posted.Arranged ∧
    (∀ r ∈ posted.enrolled stand registered (.str "night") yard, r.Proper) ∧
    InOrder (posted.hooksOf (.str "night") ++
        Dispatcher.addedFor (.str "night") (posted.enrolled stand registered (.str "night") yard))
      ((posted.dispatch stand (.str "night") yard).1.dispatcher.hooksOf (.str "night")) := by
  have hcalls : ∀ k ∈ posted.calls stand (.str "night") yard,
      (k.reply stand).dispatcher = k.dispatcher.registerAll (registered k) := fun _ _ => rfl
  have harranged : posted.Arranged :=
    Dispatcher.arranged_registerAll proper_posts Dispatcher.arranged_empty
  have henrolled : posted.enrolled stand registered (.str "night") yard =
      [⟨.str "night", .sleeping, .int 5⟩] := rfl
  have hproper : ∀ r ∈ posted.enrolled stand registered (.str "night") yard, r.Proper := by
    rw [henrolled]
    exact List.forall_mem_singleton.mpr ⟨rfl, rfl⟩
  have hsnapshot := (Dispatcher.dispatch_snapshot stand posted (.str "night") yard).2
  have hafter := (hsnapshot registered hcalls).2 harranged hproper
  exact ⟨rfl, rfl, hcalls, harranged, hproper, hafter.2 _⟩

end Guard

end FluxFleet
