import FluxFleet.Proofs.Provision

/-!
# Which providers are called

The registry's own hook calls the provider of each type that enabled kustomizations declare beyond
the core types, in the order in which the types first appear, with all variables of the type
(`due`). A call that fails is the last one (`Consulted`).

The calls are seen through providers that note them in the trace (`calls`); apart from the trace
these do what the providers do. No two calls of a run are the same, so a provider that is a function
of what it is asked stands for one with a state as well.
-/

namespace FluxFleet

open OrderedMap (Steady)

/-- The types of the variables of enabled kustomizations can be keys, as texts can. -/
def Context.TypesKeyed (c : Context) : Prop :=
  ∀ r ∈ c.kustomizations, r.enabled.truthy = true →
    ∀ s ∈ r.kustomization.substitutions, s.type.asKey = .ok s.type

namespace Resolution

/-! ## Groups as batches -/

variable {subs : List Substitution} {types : List Value}

/-- Variables are split up by types that are not equal. -/
theorem perm_flatMap_filter (hsteady : ∀ type ∈ types, Steady type)
    (hdistinct : types.Pairwise fun a b => (a == b) = false) :
    ∀ {subs : List Substitution}, (∀ s ∈ subs, types.any (· == s.type) = true) →
      (types.flatMap fun type => subs.filter (·.type == type)).Perm subs := by
  induction types with
  | nil =>
    intro subs hcovered
    obtain rfl : subs = [] := List.eq_nil_iff_forall_not_mem.mpr fun s hs => nomatch hcovered s hs
    exact .refl _
  | cons type types ih =>
    intro subs hcovered
    obtain ⟨htype, hsteady⟩ := List.forall_mem_cons.mp hsteady
    obtain ⟨hne, hdistinct⟩ := List.pairwise_cons.mp hdistinct
    -- the variables of the other types are among those that are not of this one
    have hrest : (types.flatMap fun type' => subs.filter (·.type == type')) =
        types.flatMap fun type' =>
          (subs.filter fun s => !(s.type == type)).filter (·.type == type') := by
      refine List.flatMap_congr fun type' htype' => ?_
      rw [List.filter_filter]
      refine List.filter_congr fun s _ => ?_
      by_cases hs : (s.type == type) = true
      · rw [htype.trans hs, hne type' htype', Bool.false_and]
      · rw [Bool.not_eq_true] at hs
        rw [hs, Bool.not_false, Bool.and_true]
    have hothers := @ih hsteady hdistinct (subs.filter fun s => !(s.type == type)) (by
      intro s hs
      obtain ⟨hs, hother⟩ := List.mem_filter.mp hs
      have hcovered := hcovered s hs
      rw [Bool.not_eq_true', htype.symm] at hother
      rw [List.any_cons, hother, Bool.false_or] at hcovered
      exact hcovered)
    rw [List.flatMap_cons, hrest]
    exact (hothers.append_left _).trans (List.filter_append_perm _ subs)

/-- The type of a variable has an equal that appears first. -/
theorem exists_firstAppearance (h : ∀ s ∈ subs, Steady s.type) {s : Substitution} (hs : s ∈ subs) :
    ∃ type ∈ firstAppearances (subs.map (·.type)), (type == s.type) = true := by
  have htypes : ∀ type ∈ subs.map (·.type), Steady type := by
    intro type htype
    obtain ⟨s', hs', rfl⟩ := List.mem_map.mp htype
    exact h s' hs'
  rw [← List.any_eq_true, any_firstAppearances _ htypes, List.any_eq_true]
  exact ⟨s.type, List.mem_map.mpr ⟨s, hs, rfl⟩, (h s hs).refl⟩

/-- Each type that appears first has a variable. -/
theorem filter_ne_nil_of_mem (h : ∀ s ∈ subs, Steady s.type) {type : Value}
    (htype : type ∈ firstAppearances (subs.map (·.type))) : subs.filter (·.type == type) ≠ [] := by
  obtain ⟨s, hs, rfl⟩ := List.mem_map.mp (mem_of_mem_firstAppearances htype)
  exact List.ne_nil_of_mem (List.mem_filter.mpr ⟨hs, (h s hs).refl⟩)

/-- The groups hold each variable once. -/
theorem grouped_perm (h : ∀ s ∈ subs, Steady s.type) :
    ((grouped subs).entries.flatMap (·.2)).Perm subs := by
  rw [grouped, List.flatMap_map]
  refine perm_flatMap_filter (fun type htype => ?_) firstAppearances_pairwise fun s hs => ?_
  · obtain ⟨s, hs, rfl⟩ := List.mem_map.mp (mem_of_mem_firstAppearances htype)
    exact h s hs
  · exact List.any_eq_true.mpr (exists_firstAppearance h hs)

end Resolution

/-- Providers that note each call in the trace, and nothing else. -/
def Plugins.noting {η π τ : Type} (plugins : Plugins η π τ) : Plugins η π (π × Request) :=
  { answer := fun h event c d =>
      let r := plugins.answer h event c d
      { left := r.left, dispatcher := r.dispatcher, outcome := r.outcome }
    provide := fun p q => ([(p, q)], (plugins.provide p q).2) }

namespace Registry

open Resolution (firstAppearances grouped pending)

variable {η π τ : Type} {plugins : Plugins η π τ} {providers : OrderedMap Value π}
variable {c : Context} {d : Dispatcher (PluginHook η π)}

/-- The calls of providers by the own hook of a registry. -/
def calls (plugins : Plugins η π τ) (r : Registry η π) (event : Value) (c : Context)
    (d : Dispatcher (PluginHook η π)) : List (π × Request) :=
  (r.answer plugins.noting .provide event c d).trace

/-- A call of the provider of a type. -/
structure Asking (π : Type) where
  type : Value
  provider : π
  request : Request

namespace Asking

/-- What is called, and with what. -/
def call (a : Asking π) : π × Request := (a.provider, a.request)

/-- The values that a call comes to, or its failure. -/
def result (plugins : Plugins η π τ) (a : Asking π) : Except Error (OrderedMap Value Value) :=
  match (plugins.provide a.provider a.request).2 with
  | .error e => .error (Provided.blamed a.type e)
  | .ok v => Provided.mapping v

end Asking

/-- What the provider of a type is to be asked: about the variables of the type in enabled
kustomizations, in the order of declaration, with the first configuration that the cluster has for a
plugin of this name. -/
def requestOf (c : Context) (type : Value) : Request :=
  { substitutions := (pending c.kustomizations).filter (·.type == type)
    cluster := c.cluster
    templates := c.templates
    config := ((c.cluster.plugins.filter (Value.str ·.name == type)).head?.map (·.config)).getD [] }

/-- The calls that a context asks for: one of the provider of each type that enabled kustomizations
declare beyond the core types, in the order of first appearance. -/
def due (providers : OrderedMap Value π) (c : Context) : List (Asking π) :=
  (firstAppearances ((pending c.kustomizations).map (·.type))).filterMap fun type =>
    (providers.get? type).map fun p => ⟨type, p, requestOf c type⟩

/-- Calls that are due are made in turn: all of them, or up to the first that fails. -/
inductive Consulted (plugins : Plugins η π τ) :
    List (Asking π) → List (π × Request) → Except Error Handover → Prop
  | all {row : List (Asking π)} (answered : ∀ a ∈ row, ∃ values, a.result plugins = .ok values) :
      Consulted plugins row (row.map (·.call)) (.ok .received)
  | stopped {before after : List (Asking π)} {last : Asking π} {e : Error}
      (answered : ∀ a ∈ before, ∃ values, a.result plugins = .ok values)
      (failed : last.result plugins = .error e) :
      Consulted plugins (before ++ last :: after) ((before ++ [last]).map (·.call)) (.error e)

namespace Consulted

variable {a : Asking π} {row : List (Asking π)} {made : List (π × Request)}
variable {outcome : Except Error Handover}

theorem cons {values : OrderedMap Value Value} (ha : a.result plugins = .ok values)
    (hrest : Consulted plugins row made outcome) :
    Consulted plugins (a :: row) (a.call :: made) outcome := by
  cases hrest with
  | all answered => exact .all (List.forall_mem_cons.mpr ⟨⟨values, ha⟩, answered⟩)
  | stopped answered failed =>
    exact .stopped (List.forall_mem_cons.mpr ⟨⟨values, ha⟩, answered⟩) failed

theorem of_failed {e : Error} (ha : a.result plugins = .error e) :
    Consulted plugins (a :: row) [a.call] (.error e) :=
  @stopped _ _ _ plugins [] row a e (List.forall_mem_nil _) ha

end Consulted

/-! ## The run over groups -/

/-- The calls for groups of variables. -/
def askings (providers : OrderedMap Value π) (c : Context)
    (groups : List (Value × List Substitution)) : List (Asking π) :=
  groups.filterMap fun g => (providers.get? g.1).map fun p => ⟨g.1, p, requestFor c g.1 g.2⟩

/-- A group whose type has a provider is a call, and its values are written if there are any. -/
theorem resolveGroups_cons {groups : List (Value × List Substitution)} {trace : List τ}
    {a : Asking π} {type : Value} {group : List Substitution} {p : π}
    (hp : providers.get? type = some p) (ha : a = ⟨type, p, requestFor c type group⟩) :
    resolveGroups plugins providers ((type, group) :: groups) c trace =
      match a.result plugins with
      | .error e => (c, trace ++ (plugins.provide p a.request).1, .error e)
      | .ok values =>
        resolveGroups plugins providers groups
          { c with kustomizations := c.kustomizations.map (Provided.apply type values) }
          (trace ++ (plugins.provide p a.request).1) := by
  rcases hanswer : plugins.provide p (requestFor c type group) with ⟨added, e | v⟩
  · simp only [resolveGroups, hp, ha, Asking.result, hanswer]
  · rcases hvalues : Provided.mapping v with e | values
    · simp only [resolveGroups, hp, ha, Asking.result, hanswer, hvalues]
    · simp only [resolveGroups, hp, ha, Asking.result, hanswer, hvalues]

/-- The calls for groups are made in turn. -/
theorem consulted_resolveGroups {groups : List (Value × List Substitution)} :
    ∀ {c : Context} {noted : List (π × Request)} {trace : List τ}, ∃ made,
      (resolveGroups plugins.noting providers groups c noted).2.1 = noted ++ made ∧
      Consulted plugins (askings providers c groups) made
        ((resolveGroups plugins providers groups c trace).2.2.map fun _ => .received) := by
  induction groups with
  | nil =>
    intro c noted trace
    exact ⟨[], (List.append_nil _).symm, .all (List.forall_mem_nil _)⟩
  | cons g groups ih =>
    obtain ⟨type, group⟩ := g
    intro c noted trace
    rw [askings, List.filterMap_cons]
    rcases hp : providers.get? type with _ | p
    · rw [resolveGroups, resolveGroups, hp]
      exact ih
    · obtain ⟨a, ha⟩ : ∃ a : Asking π, a = ⟨type, p, requestFor c type group⟩ := ⟨_, rfl⟩
      have hcall : (plugins.noting.provide p a.request).1 = [a.call] := by
        rw [ha]
        rfl
      have hnoted : a.result plugins.noting = a.result plugins := rfl
      rw [resolveGroups_cons hp ha, resolveGroups_cons hp ha, hnoted, hcall, Option.map_some, ← ha]
      rcases hresult : a.result plugins with e | values
      · exact ⟨[a.call], rfl, .of_failed hresult⟩
      · obtain ⟨made, htrace, hrest⟩ := @ih
          { c with kustomizations := c.kustomizations.map (Provided.apply type values) }
          (noted ++ [a.call]) (trace ++ (plugins.provide p a.request).1)
        exact ⟨a.call :: made, htrace.trans (List.append_cons _ _ _).symm, .cons hresult hrest⟩

/-! ## The calls of a context -/

theorem askings_grouped (providers : OrderedMap Value π) (c : Context) :
    askings providers c (grouped (pending c.kustomizations)).entries = due providers c := by
  have hrequest (type : Value) : requestFor c type
      ((pending c.kustomizations).filter (·.type == type)) = requestOf c type := by
    rw [requestFor, Cluster.pluginConfig?, ← List.head?_filter]
    rfl
  rw [askings, grouped, List.filterMap_map, due]
  simp only [Function.comp_def, hrequest]

theorem mem_due {a : Asking π} :
    a ∈ due providers c ↔
      a.type ∈ firstAppearances ((pending c.kustomizations).map (·.type)) ∧
        providers.get? a.type = some a.provider ∧ a.request = requestOf c a.type := by
  rw [due, List.mem_filterMap]
  constructor
  · rintro ⟨type, htype, ha⟩
    obtain ⟨p, hp, rfl⟩ := Option.map_eq_some_iff.mp ha
    exact ⟨htype, hp, rfl⟩
  · rintro ⟨htype, hp, hrequest⟩
    refine ⟨a.type, htype, ?_⟩
    rw [hp, Option.map_some, ← hrequest]

theorem mem_pending {s : Substitution} :
    s ∈ pending c.kustomizations ↔ (∃ r ∈ c.kustomizations, r.enabled.truthy = true ∧
      s ∈ r.kustomization.substitutions) ∧ s.isCore = false := by
  rw [pending, List.mem_filter, List.mem_flatMap, Bool.not_eq_true']
  simp only [List.mem_filter, and_assoc]

theorem steady_of_mem_pending (htypes : c.TypesKeyed) :
    ∀ s ∈ pending c.kustomizations, Steady s.type := by
  intro s hs
  obtain ⟨⟨r, hr, hon, hs⟩, -⟩ := mem_pending.mp hs
  exact Value.steady_of_asKey (htypes r hr hon s hs)

/-- The calls that are due are one for each type that enabled kustomizations declare beyond the core
types, if it has a provider, and none for anything else. -/
structure Covers (providers : OrderedMap Value π) (c : Context) (row : List (Asking π)) : Prop where
  /-- no type is asked for twice -/
  once : row.Pairwise fun a b => (a.type == b.type) = false
  every : ∀ r ∈ c.kustomizations, r.enabled.truthy = true →
    ∀ s ∈ r.kustomization.substitutions, s.isCore = false →
    ∀ p, providers.get? s.type = some p → ∃ a ∈ row, (a.type == s.type) = true ∧ a.provider = p
  /-- a call is about variables that enabled kustomizations declare with its type -/
  about : ∀ a ∈ row, a.request.substitutions ≠ [] ∧ ∀ s ∈ a.request.substitutions,
    (s.type == a.type) = true ∧ s.isCore = false ∧
    ∃ r ∈ c.kustomizations, r.enabled.truthy = true ∧ s ∈ r.kustomization.substitutions

theorem covers_due (htypes : c.TypesKeyed) : Covers providers c (due providers c) := by
  have hsteady := steady_of_mem_pending htypes
  refine ⟨List.Pairwise.filterMap _ (fun type type' hne a ha a' ha' => ?_)
    Resolution.firstAppearances_pairwise, fun r hr hon s hs hcore p hp => ?_, fun a ha => ?_⟩
  · obtain ⟨p, -, rfl⟩ := Option.map_eq_some_iff.mp ha
    obtain ⟨p', -, rfl⟩ := Option.map_eq_some_iff.mp ha'
    exact hne
  · have hpending : s ∈ pending c.kustomizations := mem_pending.mpr ⟨⟨r, hr, hon, hs⟩, hcore⟩
    -- the type is asked for as the equal that appears first
    obtain ⟨type, htype, hsame⟩ := Resolution.exists_firstAppearance hsteady hpending
    refine ⟨⟨type, p, requestOf c type⟩, mem_due.mpr ⟨htype, ?_, rfl⟩, hsame, rfl⟩
    rw [← hp]
    refine OrderedMap.find?_congr (hsteady s hpending) ?_ _
    rw [← (hsteady s hpending).symm]
    exact hsame
  · obtain ⟨htype, -, hrequest⟩ := mem_due.mp ha
    rw [hrequest]
    refine ⟨Resolution.filter_ne_nil_of_mem hsteady htype, fun s hs => ?_⟩
    obtain ⟨hs, hsame⟩ := List.mem_filter.mp hs
    obtain ⟨hdeclared, hcore⟩ := mem_pending.mp hs
    exact ⟨hsame, hcore, hdeclared⟩

/-- **Calls of providers.** If the types of enabled kustomizations can be keys, the variables that
need a provider are batched without loss, and the own hook of a registry makes the calls that are
due, up to the first that fails. If a type cannot be a key, it fails without a call. -/
theorem provide_calls_due (plugins : Plugins η π τ) (r : Registry η π) (event : Value) (c : Context)
    (d : Dispatcher (PluginHook η π)) :
    (c.TypesKeyed →
      Covers r.providers c (due r.providers c) ∧
      Consulted plugins (due r.providers c) (r.calls plugins event c d)
        (r.answer plugins .provide event c d).outcome ∧
      ∃ groups, Resolution.external c.kustomizations = .ok groups ∧
        (∀ g ∈ groups.entries, g.2 ≠ []) ∧
        (groups.entries.flatMap (·.2)).Perm (pending c.kustomizations)) ∧
    (¬ c.TypesKeyed → r.calls plugins event c d = [] ∧
      ∃ e, (r.answer plugins .provide event c d).outcome = .error e) := by
  have hanswer {ρ : Type} (plugins : Plugins η π ρ) :
      r.answer plugins .provide event c d = provideAll plugins r.providers c d := rfl
  rw [calls, hanswer, hanswer, provideAll, provideAll]
  constructor
  · intro htypes
    rw [Resolution.external_of_keyed htypes]
    have hsteady := steady_of_mem_pending htypes
    obtain ⟨made, htrace, hconsulted⟩ := @consulted_resolveGroups η π τ plugins r.providers
      (grouped (pending c.kustomizations)).entries c [] []
    rw [askings_grouped] at hconsulted
    obtain rfl : (resolveGroups plugins.noting r.providers
      (grouped (pending c.kustomizations)).entries c []).2.1 = made := htrace
    refine ⟨covers_due htypes, hconsulted, _, rfl, fun g hg => ?_, Resolution.grouped_perm hsteady⟩
    obtain ⟨type, htype, rfl⟩ := List.mem_map.mp hg
    exact Resolution.filter_ne_nil_of_mem hsteady htype
  · intro hnot
    rcases hexternal : Resolution.external c.kustomizations with e | groups
    · exact ⟨rfl, e, rfl⟩
    · exact absurd (Resolution.exists_external_iff.mp ⟨groups, hexternal⟩) hnot

/-! ## Types of two kustomizations -/

/-- A kustomization with these variables, each with its type. -/
def stocked (on : Bool) (row : List (String × String)) : Resolved :=
  { template := Generator.application
    kustomization := { Kustomization.bare "web" [] with
      substitutions := row.map fun (name, type) =>
        { name, fallback := none, kind := .plugin type [] } }
    enabled := .bool on }

/-- A context with two enabled kustomizations around a disabled one. -/
def storeroom : Context :=
  { cluster := { Generator.site with
      plugins := [⟨"vault", [("url", "first")]⟩, ⟨"vault", [("url", "second")]⟩] }
    kustomizations := [
      stocked true [("token", "vault"), ("region", "generic"), ("password", "safe")],
      stocked false [("old", "attic")],
      stocked true [("user", "safe"), ("key", "vault"), ("seed", "shed"), ("note", "drawer")]] }

/-- Providers that answer what they are, or fail. -/
def answering : Plugins Empty (Except Error Value) Empty :=
  { answer := fun h => h.elim, provide := fun answer _ => ([], answer) }

/-- A registry without a provider of the last type, and with one that fails. -/
def storekeepers : Registry Empty (Except Error Value) :=
  .withProviders ⟨[("attic", .ok (.record [])), ("shed", .ok (.record [])),
    ("safe", .error (.raised .key ["lock"])), ("vault", .ok (.record [("token", "new")]))]⟩

theorem typesKeyed_storeroom : storeroom.TypesKeyed := by
  have hstocked : ∀ r ∈ storeroom.kustomizations, ∃ on row, r = stocked on row := by
    intro r hr
    simp only [storeroom, List.mem_cons, List.not_mem_nil, or_false] at hr
    rcases hr with rfl | rfl | rfl <;> exact ⟨_, _, rfl⟩
  intro r hr _ s hs
  obtain ⟨on, row, rfl⟩ := hstocked r hr
  obtain ⟨s, -, rfl⟩ := List.mem_map.mp hs
  rfl

/-- The provider that fails is the second of three that are due. -/
theorem safe_stops_calls :
    storeroom.TypesKeyed ∧
    (due storekeepers.providers storeroom).map (·.type) = ["vault", "safe", "shed"] ∧
    (calls answering storekeepers afterResolve storeroom {}).map
        (fun call => call.2.substitutions.map (·.name)) =
      ([["token", "key"], ["password", "user"]] : List (List Value)) ∧
    (calls answering storekeepers afterResolve storeroom {}).map (·.2.config) =
      ([[("url", "first")], []] : List (List (Value × Value))) ∧
    Consulted answering (due storekeepers.providers storeroom)
      (calls answering storekeepers afterResolve storeroom {})
      (storekeepers.answer answering .provide afterResolve storeroom {}).outcome ∧
    ∃ groups, Resolution.external storeroom.kustomizations = .ok groups ∧
      groups.keys = ["vault", "safe", "shed", "drawer"] ∧
      (groups.entries.flatMap (·.2)).Perm (pending storeroom.kustomizations) := by
  obtain ⟨-, hconsulted, groups, hgroups, -, hperm⟩ :=
    (provide_calls_due answering storekeepers afterResolve storeroom {}).1 typesKeyed_storeroom
  obtain rfl := Resolution.external_eq_grouped hgroups
  exact ⟨typesKeyed_storeroom, rfl, rfl, rfl, hconsulted, _, hgroups, rfl, hperm⟩

end Registry

end FluxFleet
