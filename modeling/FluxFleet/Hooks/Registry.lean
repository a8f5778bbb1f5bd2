import FluxFleet.Hooks.Dispatcher

/-!
# Plugins: hooks and providers of values

A registry holds the hooks of plugins and, for each type of variable beyond the core types, the
provider of its values. The registry has a hook of its own that runs after kustomizations have been
resolved: it asks each provider once, in the order in which the types first appear among enabled
kustomizations, and writes the values over the ones already resolved.

A provider is any type `π` with a function that says how it answers a request.
-/

namespace FluxFleet

/-- The event after all kustomizations have been resolved. -/
def afterResolve : Value := "generator:after_resolve"

/-- The event before a result is written. -/
def beforeWrite : Value := "generator:before_write"

/-- What a provider is asked. -/
structure Request where
  /-- the variables of the provider's type in enabled kustomizations -/
  substitutions : List Substitution
  cluster : Cluster
  templates : List Template
  /-- the configuration that the cluster has for a plugin named like the type -/
  config : List (Value × Value)
deriving Repr

/-- A hook of a registry. -/
inductive PluginHook (η π : Type) where
  /-- the registry's own hook, with the providers of the registry it stands in -/
  | provide
  /-- the own hook of another registry, with that one's providers -/
  | provideFrom (providers : OrderedMap Value π)
  | custom (handler : η)
deriving Repr

/-- The hooks and the providers of plugins. -/
structure Registry (η π : Type) where
  dispatcher : Dispatcher (PluginHook η π)
  /-- by type -/
  providers : OrderedMap Value π := .empty
deriving Repr

/-- Types of variables are the keys of a mapping: each of them can be a key, and none stands there
twice. -/
structure Keyed (types : List Value) : Prop where
  keys : ∀ t ∈ types, t.asKey = .ok t
  different : types.Pairwise fun t u => (t == u) = false

/-- A bundle of hooks and providers. -/
structure Plugin (η π : Type) where
  hooks : List (Registration η) := []
  /-- by type -/
  providers : OrderedMap Value π := .empty
  keyed : Keyed providers.keys := by exact ⟨nofun, .nil⟩
deriving Repr

/-- How custom hooks and providers answer. -/
structure Plugins (η π τ : Type) where
  answer : η → Value → Context → Dispatcher (PluginHook η π) → Reply (PluginHook η π) τ
  provide : π → Request → List τ × Except Error Value

/-! ## Providers of a plugin -/

theorem asKey_of_asKey {t k : Value} (h : t.asKey = .ok k) : k.asKey = .ok k := by
  have hsame : k = t := by
    rw [Value.asKey] at h
    split at h
    · cases h
    · exact (Except.ok.inj h).symm
  rw [hsame] at h ⊢
  exact h

/-- A key that is set stands among the keys once. -/
theorem Keyed.insert {π : Type} {providers : OrderedMap Value π} (h : Keyed providers.keys)
    {k : Value} (hk : k.asKey = .ok k) (p : π) : Keyed (providers.insert k p).keys := by
  rcases htaken : providers.contains k with _ | _
  · rw [OrderedMap.keys_insert_of_not_contains providers p htaken]
    rw [OrderedMap.contains_eq_any, List.any_eq_false] at htaken
    refine ⟨fun t ht => ?_, List.pairwise_append.mpr ⟨h.different, List.pairwise_singleton _ _,
      fun t ht u hu => ?_⟩⟩
    · rcases List.mem_append.mp ht with ht | ht
      · exact h.keys t ht
      · exact List.mem_singleton.mp ht ▸ hk
    · exact List.mem_singleton.mp hu ▸ Bool.eq_false_iff.mpr (htaken t ht)
  · rw [OrderedMap.keys_insert_of_contains providers p htaken]
    exact h

/-- A plugin with the provider of one more type. -/
def Plugin.withProvider {η π : Type} (plugin : Plugin η π) (type : Value) (p : π) :
    Except Error (Plugin η π) :=
  match h : type.asKey with
  | .error e => throw e
  | .ok key => return { plugin with
      providers := plugin.providers.insert key p
      keyed := plugin.keyed.insert (asKey_of_asKey h) p }

/-! ## Values of providers -/

namespace Provided

/-- The entry that a pair stands for. -/
def pair (index : Nat) (v : Value) : Except Error (Value × Value) :=
  match v.items? with
  | none => throw (.notPair index none)
  | some [k, w] => do return (← k.asKey, w)
  | some items => throw (.notPair index (some items.length))

/-- The entries that pairs stand for, counted from `index`. -/
def pairs : Nat → List Value → Except Error (List (Value × Value))
  | _, [] => return []
  | index, v :: vs => do
    let e ← pair index v
    return e :: (← pairs (index + 1) vs)

/-- The mapping that a provider's answer stands for: a mapping, or a row of pairs. -/
def mapping (v : Value) : Except Error (OrderedMap Value Value) :=
  match v.entries? with
  | some entries => return ⟨entries⟩
  | none => do return OrderedMap.ofList (← pairs 0 (← v.each))

/-- Write the values of a type over the ones of a kustomization, if it is enabled. -/
def apply (type : Value) (values : OrderedMap Value Value) (r : Resolved) : Resolved :=
  if r.enabled.truthy then
    { r with values := r.kustomization.substitutions.foldl (fun m s =>
        if s.type == type then
          match values.get? s.name with
          | some v => m.insert s.name v
          | none => m
        else m) r.values }
  else r

/-- The error that a failure of a provider is reported as. -/
def blamed (type : Value) (e : Error) : Error :=
  match e with
  | .resolution .. => e
  | e => .resolution type e.message

end Provided

namespace Registry

variable {η π τ : Type}

/-- The priority of a registry's own hook. -/
def ownPriority : Value := .int 50

/-- The registration of a registry's own hook. -/
def ownHook : Registration (PluginHook η π) :=
  { event := afterResolve, handler := .provide, priority := ownPriority }

/-- A registry on a dispatcher of its own. -/
def new : Registry η π := { dispatcher := (Dispatcher.register {} ownHook).1 }

/-- A hook as it stands in a registry built on the dispatcher of this one. -/
def outlasting (r : Registry η π) : PluginHook η π → PluginHook η π
  | .provide => .provideFrom r.providers
  | h => h

/-- A registry built on the dispatcher of another one, whose hooks stay. -/
def onDispatcherOf (r : Registry η π) : Registry η π × Except Error Unit :=
  let (dispatcher, outcome) := (r.dispatcher.map r.outlasting).register ownHook
  ({ dispatcher }, outcome)

/-- The registration of a custom hook in a registry. -/
def custom (h : Registration η) : Registration (PluginHook η π) :=
  { event := h.event, handler := .custom h.handler, priority := h.priority }

/-- Register a hook. -/
def registerHook (r : Registry η π) (h : Registration η) : Registry η π × Except Error Unit :=
  let (dispatcher, outcome) := r.dispatcher.register (custom h)
  ({ r with dispatcher }, outcome)

/-- Register the provider of a type that has none. -/
def registerProvider (r : Registry η π) (type : Value) (p : π) : Except Error (Registry η π) := do
  let type ← type.asKey
  if r.providers.contains type then throw (.providerTaken type)
  return { r with providers := r.providers.insert type p }

/-- The provider of a type. -/
def provider? (r : Registry η π) (type : Value) : Except Error (Option π) := do
  return r.providers.get? (← type.asKey)

/-- Register hooks one after another, up to the first that fails. -/
def loadHooks : Registry η π → List (Registration η) → Registry η π × Except Error Unit
  | r, [] => (r, .ok ())
  | r, h :: hs =>
    match r.registerHook h with
    | (r, .ok ()) => loadHooks r hs
    | failed => failed

/-- Register providers one after another, up to the first that fails. -/
def loadProviders : Registry η π → List (Value × π) → Registry η π × Except Error Unit
  | r, [] => (r, .ok ())
  | r, (type, p) :: ps =>
    match r.registerProvider type p with
    | .ok r => loadProviders r ps
    | .error e => (r, .error e)

/-- Register all hooks and then all providers of a plugin. What was registered before a failure
stays. -/
def load (r : Registry η π) (plugin : Plugin η π) : Registry η π × Except Error Unit :=
  match r.loadHooks plugin.hooks with
  | (r, .ok ()) => r.loadProviders plugin.providers.entries
  | failed => failed

/-! ## The own hook -/

/-- What a provider of a type is asked about a group of variables. -/
def requestFor (c : Context) (type : Value) (group : List Substitution) : Request :=
  { substitutions := group, cluster := c.cluster, templates := c.templates,
    config := (c.cluster.pluginConfig? type).getD [] }

/-- Ask the providers of groups of variables in turn and write their values. The result is the
context as far as it was changed, the trace, and the failure if there was one. -/
def resolveGroups (plugins : Plugins η π τ) (providers : OrderedMap Value π) :
    List (Value × List Substitution) → Context → List τ → Context × List τ × Except Error Unit
  | [], c, trace => (c, trace, .ok ())
  | (type, group) :: groups, c, trace =>
    match providers.get? type with
    | none => resolveGroups plugins providers groups c trace
    | some p =>
      let (added, answer) := plugins.provide p (requestFor c type group)
      match answer with
      | .error e => (c, trace ++ added, .error (Provided.blamed type e))
      | .ok v =>
        match Provided.mapping v with
        | .error e => (c, trace ++ added, .error e)
        | .ok values =>
          resolveGroups plugins providers groups
            { c with kustomizations := c.kustomizations.map (Provided.apply type values) }
            (trace ++ added)

/-- The answer of a registry's own hook. -/
def provideAll (plugins : Plugins η π τ) (providers : OrderedMap Value π) (c : Context)
    (dispatcher : Dispatcher (PluginHook η π)) : Reply (PluginHook η π) τ :=
  match Resolution.external c.kustomizations with
  | .error e => { left := c, dispatcher, outcome := .error e }
  | .ok groups =>
    let (left, trace, outcome) := resolveGroups plugins providers groups.entries c []
    { left, dispatcher, trace, outcome := outcome.map fun _ => .received }

/-- The answer of a hook of a registry. -/
def answer (plugins : Plugins η π τ) (r : Registry η π) (h : PluginHook η π) (event : Value)
    (c : Context) (d : Dispatcher (PluginHook η π)) : Reply (PluginHook η π) τ :=
  match h with
  | .provide => provideAll plugins r.providers c d
  | .provideFrom providers => provideAll plugins providers c d
  | .custom handler => plugins.answer handler event c d

/-- Dispatch an event to the hooks of a registry. -/
def dispatch (plugins : Plugins η π τ) (r : Registry η π) (event : Value) (c : Context) :
    Dispatch (PluginHook η π) τ × Except Error Context :=
  r.dispatcher.dispatch (r.answer plugins) event c

end Registry

end FluxFleet
