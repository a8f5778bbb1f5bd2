import FluxFleet.Hooks.Context

/-!
# Dispatching events to hooks

Hooks are registered for an event with a priority. Lower priorities run first, and of equal ones
the one registered earlier. A priority is a number, as a rule: any value stands for one as long as
it can be compared with the others. A hook whose priority cannot is refused, but stays behind the
others, and from then on every registration for its event is refused in the same way.

Dispatching an event runs the hooks that are registered when it starts, one after another
(`Dispatcher.dispatch`). Each gets the context that the one before it passes on. A hook that fails
ends the run: an error that the library reports itself is passed on as it is, any other one is
reported as a failure of the event's hook.

A hook is any type `η` with a function that says how it answers. What a hook does to the context it
receives is seen by the caller also when a later hook fails, as far as both contexts hold the same
kustomizations (`Link`).
-/

namespace FluxFleet

/-- A hook in the list of its event. -/
structure Hook (η : Type) where
  priority : Value
  handler : η
deriving Repr

/-- A hook to be registered. -/
structure Registration (η : Type) where
  event : Value
  handler : η
  priority : Value := .int 100
deriving Repr

/-- The context that a hook passes on. -/
inductive Handover where
  /-- the context that it received -/
  | received
  /-- another context with the same kustomizations -/
  | sharing (c : Context)
  /-- a context of its own -/
  | other (c : Context)
deriving Repr

/-- The hooks of all events. -/
structure Dispatcher (η : Type) where
  /-- by event, in the order of first registration -/
  hooks : OrderedMap Value (List (Hook η)) := .empty
deriving Repr

/-- How a hook answers an event. -/
structure Reply (η τ : Type) where
  /-- the received context as the hook leaves it -/
  left : Context
  /-- the dispatcher with the hooks that it registers meanwhile -/
  dispatcher : Dispatcher η
  outcome : Except Error Handover := .ok .received
  /-- what it leaves in the trace of the run -/
  trace : List τ := []

namespace Dispatcher

variable {η τ : Type}

/-- The hooks of an event in the order in which they run. -/
def hooksOf (d : Dispatcher η) (event : Value) : List (Hook η) := (d.hooks.get? event).getD []

/-- Whether a hook runs before another one, whichever was registered first. -/
def precedes (h g : Hook η) : Bool := (h.priority.less? g.priority).getD false

/-- Put a hook behind all hooks whose priority is not greater. -/
def insertHook (h : Hook η) : List (Hook η) → List (Hook η)
  | [] => [h]
  | g :: gs => if precedes h g then h :: g :: gs else g :: insertHook h gs

/-- The first two neighbours whose priorities cannot be compared. -/
def mismatch? : List (Hook η) → Option (Value × Value)
  | g :: h :: hs =>
    if (h.priority.less? g.priority).isSome then mismatch? (h :: hs)
    else some (h.priority, g.priority)
  | _ => none

/-- Take a hook in among the hooks of its event. -/
def arrange (h : Hook η) (hs : List (Hook η)) : List (Hook η) × Except Error Unit :=
  match mismatch? (hs ++ [h]) with
  | none => (insertHook h hs, .ok ())
  | some (a, b) => (hs ++ [h], .error (.notComparable a.kind b.kind))

/-- Register a hook. An event that cannot be a key leaves the dispatcher as it was. -/
def register (d : Dispatcher η) (r : Registration η) : Dispatcher η × Except Error Unit :=
  match r.event.asKey with
  | .error e => (d, .error e)
  | .ok event =>
    let (hs, outcome) := arrange ⟨r.priority, r.handler⟩ (d.hooksOf event)
    (⟨d.hooks.insert event hs⟩, outcome)

/-- Whether an event has a hook. -/
def hasHooks (d : Dispatcher η) (event : Value) : Except Error Bool := do
  return !(d.hooksOf (← event.asKey)).isEmpty

/-- The events that have a hook. -/
def events (d : Dispatcher η) : List Value :=
  (d.hooks.entries.filter fun e => !e.2.isEmpty).map (·.1)

/-- The same hooks, each in another form. -/
def map {κ : Type} (f : η → κ) (d : Dispatcher η) : Dispatcher κ :=
  ⟨⟨d.hooks.entries.map fun e => (e.1, e.2.map fun h => ⟨h.priority, f h.handler⟩)⟩⟩

end Dispatcher

/-- What the context of a hook has in common with the context of the caller. -/
inductive Link where
  /-- it is the same context -/
  | identical
  /-- it holds the same kustomizations -/
  | sharing
  /-- nothing -/
  | separate
deriving DecidableEq, Repr

/-- The state of a dispatch. -/
structure Dispatch (η τ : Type) where
  dispatcher : Dispatcher η
  /-- the context that the next hook receives -/
  context : Context
  /-- the caller's context with what hooks have done to it -/
  caller : Context
  link : Link := .identical
  trace : List τ := []

namespace Dispatch

variable {η τ : Type}

/-- The error that a failure of a hook is reported as. -/
def reported (event : Value) (e : Error) : Error :=
  if e.isReported then e else .hook event e.message

/-- The caller's context after a hook has left its own one. -/
def callerAfter (s : Dispatch η τ) (left : Context) : Context :=
  match s.link with
  | .identical => left
  | .sharing => { s.caller with kustomizations := left.kustomizations }
  | .separate => s.caller

/-- The link of the caller's context to one that a hook passes on. -/
def Link.sharingAfter : Link → Link
  | .separate => .separate
  | _ => .sharing

/-- Pass a context on. -/
def handOver (s : Dispatch η τ) (left : Context) : Handover → Dispatch η τ
  | .received => { s with context := left }
  | .sharing c => { s with context := c, link := Link.sharingAfter s.link }
  | .other c => { s with context := c, link := .separate }

/-- Take in what a hook has done, whether it failed or not. -/
def absorb (s : Dispatch η τ) (r : Reply η τ) : Dispatch η τ :=
  { s with dispatcher := r.dispatcher
           caller := s.callerAfter r.left
           trace := s.trace ++ r.trace }

/-- Run hooks one after another up to the first that fails. -/
def run (answer : η → Value → Context → Dispatcher η → Reply η τ) (event : Value) :
    List (Hook η) → Dispatch η τ → Dispatch η τ × Except Error Context
  | [], s => (s, .ok s.context)
  | h :: hs, s =>
    let r := answer h.handler event s.context s.dispatcher
    let s := s.absorb r
    match r.outcome with
    | .ok handover => run answer event hs (s.handOver r.left handover)
    | .error e => (s, .error (reported event e))

end Dispatch

/-- Dispatch an event: run the hooks that are registered for it now. The final state holds the
trace, the hooks registered meanwhile and the caller's context; the outcome is the context that the
last hook passes on. -/
def Dispatcher.dispatch {η τ : Type}
    (answer : η → Value → Context → Dispatcher η → Reply η τ) (d : Dispatcher η) (event : Value)
    (c : Context) : Dispatch η τ × Except Error Context :=
  Dispatch.run answer event (d.hooksOf event) { dispatcher := d, context := c, caller := c }

end FluxFleet
