import FluxFleet.Proofs.Hooks.Registration

/-!
# Loading a plugin

A plugin is loaded piece by piece: all its hooks, and then its providers up to the first whose type
is taken. What comes before that stays (`Registry.load_registers`), so loading is not all or
nothing. In any case the providers that were there are kept.
-/

namespace FluxFleet

variable {η π : Type}

namespace Dispatcher

/-- Registrations that succeed one after another. -/
def Accepts : Dispatcher η → List (Registration η) → Prop
  | _, [] => True
  | d, r :: rs => (d.register r).2 = .ok () ∧ Accepts (d.register r).1 rs

/-- A dispatcher that has taken in the hooks of some registrations, and nothing else. -/
structure Takes (d : Dispatcher η) (rs : List (Registration η)) (d' : Dispatcher η) : Prop where
  accepted : d.Accepts rs
  eq_registerAll : d' = d.registerAll rs
  /-- to the hooks of an event those are added that were registered for it -/
  perm : ∀ event, (d'.hooksOf event).Perm (d.hooksOf event ++ addedFor event rs)

variable {d : Dispatcher η} {r : Registration η} {rs : List (Registration η)}

theorem asKey_of_register_ok (h : (d.register r).2 = .ok ()) : r.event.asKey = .ok r.event := by
  rw [register] at h
  split at h
  · cases h
  · next event hevent =>
    rw [hevent, (Value.key?_isSome_of_asKey hevent).2]

theorem perm_hooksOf_register (h : (d.register r).2 = .ok ()) (event : Value) :
    ((d.register r).1.hooksOf event).Perm (d.hooksOf event ++ addedFor event [r]) := by
  rw [hooksOf_register (asKey_of_register_ok h), addedFor, List.filter_cons, List.filter_nil]
  split
  · exact perm_arrange r.hook (d.hooksOf event)
  · rw [List.map_nil, List.append_nil]

theorem takes_registerAll : ∀ {rs : List (Registration η)} {d : Dispatcher η}, d.Accepts rs →
    d.Takes rs (d.registerAll rs) := by
  intro rs
  induction rs with
  | nil => exact fun _ => ⟨trivial, rfl, fun event => .of_eq (List.append_nil _).symm⟩
  | cons r rs ih =>
    intro d h
    refine ⟨h, rfl, fun event => ?_⟩
    rw [addedFor_cons, ← List.append_assoc]
    exact ((ih h.2).perm event).trans ((perm_hooksOf_register h.1 event).append_right _)

/-- A registration does not fail for a provider. -/
theorem register_ne_providerTaken (d : Dispatcher η) (r : Registration η) (type : Value) :
    (d.register r).2 ≠ .error (.providerTaken type) := by
  intro h
  rw [register] at h
  split at h
  · next e hevent =>
    -- an event that cannot be a key is refused as such
    rw [Value.asKey] at hevent
    split at hevent
    · cases h
      cases hevent
    · cases hevent
  · rw [arrange] at h
    split at h
    next hmismatch =>
      split at hmismatch
      · cases h
        cases hmismatch
      · cases h
        cases hmismatch

end Dispatcher

namespace Registry

open Dispatcher

variable {r : Registry η π} {type : Value} {ps : List (Value × π)}

/-- A registry with more providers behind its own. -/
def adding (r : Registry η π) (ps : List (Value × π)) : Registry η π :=
  { r with providers := ⟨r.providers.entries ++ ps⟩ }

theorem adding_nil (r : Registry η π) : r.adding [] = r := by
  rw [adding, List.append_nil]

theorem adding_adding (r : Registry η π) (ps qs : List (Value × π)) :
    (r.adding ps).adding qs = r.adding (ps ++ qs) := by
  rw [adding, adding, adding, List.append_assoc]

/-- A provider is looked up behind those of the registry. -/
theorem get?_adding (r : Registry η π) (ps : List (Value × π)) (type : Value) :
    (r.adding ps).providers.get? type =
      (r.providers.get? type).or (OrderedMap.find? type ps) :=
  OrderedMap.find?_append type _ _

/-- So no provider of the registry is replaced. -/
theorem get?_adding_of_eq_some {provider : π} (h : r.providers.get? type = some provider)
    (ps : List (Value × π)) : (r.adding ps).providers.get? type = some provider := by
  rw [get?_adding, h, Option.some_or]

theorem contains_adding {e : Value × π} (h : (e.1 == type) = false) :
    (r.adding [e]).providers.contains type = r.providers.contains type := by
  rw [OrderedMap.contains, get?_adding, OrderedMap.find?, h]
  exact congrArg Option.isSome Option.or_none

theorem registerProvider_of_asKey (htype : type.asKey = .ok type) (p : π) :
    r.registerProvider type p =
      if r.providers.contains type then .error (.providerTaken type)
      else .ok (r.adding [(type, p)]) := by
  have hstep : r.registerProvider type p =
      if r.providers.contains type then .error (.providerTaken type)
      else .ok { r with providers := r.providers.insert type p } := by
    rw [registerProvider, htype]
    rfl
  rw [hstep]
  split
  · rfl
  · next hfree =>
    have hentries := OrderedMap.entries_insert_of_not_contains r.providers p
      (Bool.eq_false_iff.mpr hfree)
    rw [adding, ← hentries]

/-- What comes of registering providers: they are all registered, or those before the first one
whose type is taken. -/
inductive ProvidersLoaded (r : Registry η π) (ps : List (Value × π)) :
    Registry η π × Except Error Unit → Prop
  | complete (free : ∀ e ∈ ps, r.providers.contains e.1 = false) :
      ProvidersLoaded r ps (r.adding ps, .ok ())
  | taken {before later : List (Value × π)} {type : Value} {provider : π}
      (split : ps = before ++ (type, provider) :: later)
      (free : ∀ e ∈ before, r.providers.contains e.1 = false)
      (taken : r.providers.contains type = true) :
      ProvidersLoaded r ps (r.adding before, .error (.providerTaken type))

theorem providersLoaded (hkeyed : Keyed (ps.map Prod.fst)) :
    ∀ r : Registry η π, ProvidersLoaded r ps (r.loadProviders ps) := by
  induction ps with
  | nil =>
    intro r
    have hnone : ProvidersLoaded r [] (r.adding [], .ok ()) := .complete nofun
    rwa [adding_nil] at hnone
  | cons e ps ih =>
    intro r
    obtain ⟨type, p⟩ := e
    obtain ⟨hfirst, hdifferent⟩ := List.pairwise_cons.mp hkeyed.different
    obtain ⟨htype, hkeys⟩ := List.forall_mem_cons.mp hkeyed.keys
    rw [loadProviders, registerProvider_of_asKey htype]
    rcases htaken : r.providers.contains type with _ | _
    · rw [if_neg Bool.false_ne_true]
      -- the types of the others are taken if they were before
      have hsame : ∀ e ∈ ps, (r.adding [(type, p)]).providers.contains e.1 =
          r.providers.contains e.1 :=
        fun e he => contains_adding (hfirst e.1 (List.mem_map_of_mem he))
      have hrest := ih ⟨hkeys, hdifferent⟩ (r.adding [(type, p)])
      dsimp only
      generalize (r.adding [(type, p)]).loadProviders ps = result at hrest ⊢
      cases hrest with
      | complete free =>
        rw [adding_adding]
        exact .complete (List.forall_mem_cons.mpr ⟨htaken, fun e he => hsame e he ▸ free e he⟩)
      | @taken before later type' provider split free taken =>
        have hbefore : ∀ e ∈ before, e ∈ ps := fun e he => split ▸ List.mem_append_left _ he
        have hmem : (type', provider) ∈ ps := split ▸ List.mem_append_right _ List.mem_cons_self
        rw [adding_adding]
        exact .taken (congrArg _ split)
          (List.forall_mem_cons.mpr ⟨htaken, fun e he => hsame e (hbefore e he) ▸ free e he⟩)
          (hsame _ hmem ▸ taken)
    · have hnone :
          ProvidersLoaded r ((type, p) :: ps) (r.adding [], .error (.providerTaken type)) :=
        .taken (List.nil_append _).symm nofun htaken
      rwa [adding_nil] at hnone

/-- Hooks are all registered, or loading fails for one of them; providers are left. -/
theorem loadHooks_outcome (hs : List (Registration η)) : ∀ r : Registry η π,
    (r.dispatcher.Accepts (hs.map custom) ∧
      r.loadHooks hs =
        ({ r with dispatcher := r.dispatcher.registerAll (hs.map custom) }, .ok ())) ∨
    (¬ r.dispatcher.Accepts (hs.map custom) ∧ (r.loadHooks hs).1.providers = r.providers ∧
      ∃ e, (r.loadHooks hs).2 = .error e ∧ ∀ type, e ≠ .providerTaken type) := by
  induction hs with
  | nil => exact fun _ => Or.inl ⟨trivial, rfl⟩
  | cons h hs ih =>
    intro r
    rw [loadHooks, List.map_cons]
    rcases hregister : (r.dispatcher.register (custom h)).2 with e | ⟨⟩
    · have hstep : r.registerHook h = ((r.registerHook h).1, .error e) := Prod.ext rfl hregister
      rw [hstep]
      refine Or.inr ⟨fun haccepts => ?_, rfl, e, rfl, fun type heq => ?_⟩
      · have hok := haccepts.1
        rw [hregister] at hok
        cases hok
      · exact register_ne_providerTaken r.dispatcher (custom h) type (heq ▸ hregister)
    · have hstep : r.registerHook h = ((r.registerHook h).1, .ok ()) := Prod.ext rfl hregister
      rw [hstep]
      rcases ih (r.registerHook h).1 with ⟨haccepts, hload⟩ | ⟨hrefused, hkept, hfailed⟩
      · exact Or.inl ⟨⟨hregister, haccepts⟩, hload⟩
      · exact Or.inr ⟨fun haccepts => hrefused haccepts.2, hkept, hfailed⟩

/-- Providers that stand under different keys are found behind those of a registry that has none of
their types. -/
theorem get?_adding_of_mem (hkeyed : Keyed (ps.map Prod.fst)) {e : Value × π} (he : e ∈ ps)
    (hfree : r.providers.contains e.1 = false) : (r.adding ps).providers.get? e.1 = some e.2 := by
  have hnone : r.providers.get? e.1 = none := by simpa [OrderedMap.contains] using hfree
  have htype : e.1.asKey = .ok e.1 := hkeyed.keys e.1 (List.mem_map_of_mem he)
  rw [get?_adding, hnone, Option.none_or]
  exact OrderedMap.find?_of_mem (List.pairwise_map.mp hkeyed.different) he
    (Value.steady_of_asKey htype).refl

/-- **Loading a plugin.** If loading fails since a type has a provider already, all hooks of the
plugin are registered, and those of its providers that stand before the one of this type; the type
is the first one that is taken. If loading succeeds, all its hooks and providers are registered. No
provider that was there is replaced, whatever comes of loading. Unless a hook is refused, loading
fails exactly if the type of one of the providers is taken. -/
theorem load_registers (r : Registry η π) (p : Plugin η π) :
    (∀ type, (r.load p).2 = .error (.providerTaken type) →
      r.dispatcher.Takes (p.hooks.map custom) (r.load p).1.dispatcher ∧
      ∃ before provider later, p.providers.entries = before ++ (type, provider) :: later ∧
        r.providers.contains type = true ∧ (∀ e ∈ before, r.providers.contains e.1 = false) ∧
        (r.load p).1.providers.entries = r.providers.entries ++ before) ∧
    ((r.load p).2 = .ok () →
      r.dispatcher.Takes (p.hooks.map custom) (r.load p).1.dispatcher ∧
      (r.load p).1.providers.entries = r.providers.entries ++ p.providers.entries ∧
      ∀ e ∈ p.providers.entries, r.providers.contains e.1 = false ∧
        (r.load p).1.providers.get? e.1 = some e.2) ∧
    (∀ type provider, r.providers.get? type = some provider →
      (r.load p).1.providers.get? type = some provider) ∧
    (r.dispatcher.Accepts (p.hooks.map custom) →
      ((∃ type, (r.load p).2 = .error (.providerTaken type)) ↔
        ∃ e ∈ p.providers.entries, r.providers.contains e.1 = true)) := by
  rcases loadHooks_outcome p.hooks r with ⟨haccepts, hload⟩ | ⟨hrefused, hkept, e, hfailed, hother⟩
  · have htakes := takes_registerAll haccepts
    have hprovided := providersLoaded p.keyed
      { r with dispatcher := r.dispatcher.registerAll (p.hooks.map custom) }
    have hstep : r.load p = loadProviders
        { r with dispatcher := r.dispatcher.registerAll (p.hooks.map custom) }
        p.providers.entries := by rw [load, hload]
    rw [hstep]
    generalize loadProviders _ p.providers.entries = result at hprovided ⊢
    cases hprovided with
    | complete free =>
      have hok : ∀ type, (.ok () : Except Error Unit) ≠ .error (.providerTaken type) := by
        rintro type ⟨⟩
      refine ⟨fun type h => absurd h (hok type),
        fun _ => ⟨htakes, rfl, fun e he => ⟨free e he, ?_⟩⟩,
        fun _ _ h => get?_adding_of_eq_some h _, fun _ => ⟨?_, ?_⟩⟩
      · exact get?_adding_of_mem p.keyed he (free e he)
      · rintro ⟨type, h⟩
        exact absurd h (hok type)
      · rintro ⟨e, he, htaken⟩
        cases htaken.symm.trans (free e he)
    | @taken before later type provider split free taken =>
      have hmem : (type, provider) ∈ p.providers.entries :=
        split ▸ List.mem_append_right _ List.mem_cons_self
      refine ⟨fun type' h => ?_, fun h => ?_, fun _ _ h => get?_adding_of_eq_some h _,
        fun _ => ⟨fun _ => ?_, fun _ => ?_⟩⟩
      · cases h
        exact ⟨htakes, before, provider, later, split, taken, free, rfl⟩
      · cases h
      · exact ⟨_, hmem, taken⟩
      · exact ⟨type, rfl⟩
  · have hstep : r.load p = r.loadHooks p.hooks := by
      have hpair : r.loadHooks p.hooks = ((r.loadHooks p.hooks).1, .error e) := Prod.ext rfl hfailed
      rw [load, hpair]
    rw [hstep, hkept, hfailed]
    refine ⟨fun type h => ?_, fun h => ?_, fun _ _ h => h, fun haccepts => absurd haccepts hrefused⟩
    · cases h
      exact absurd rfl (hother type)
    · cases h

/-! ## A plugin with a type that is taken -/

/-- A registry with a provider. -/
def furnished : Registry String String := new.adding [(.str "doppler", "first")]

/-- A plugin with a hook, whose second provider is for the same type. -/
def crossing : Plugin String String where
  hooks := [⟨beforeWrite, "sign", .int 10⟩]
  providers := ⟨[(.str "aws", "other"), (.str "doppler", "second"), (.str "vault", "third")]⟩
  keyed := by
    refine ⟨fun t ht => ?_, by decide⟩
    simp only [OrderedMap.keys, List.map_cons, List.map_nil, List.mem_cons, List.not_mem_nil,
      or_false] at ht
    rcases ht with rfl | rfl | rfl <;> rfl

theorem load_registers_crossing :
    (furnished.load crossing).2 = .error (.providerTaken (.str "doppler")) ∧
    ∃ before provider later, crossing.providers.entries =
      before ++ (.str "doppler", provider) :: later ∧
      (furnished.load crossing).1.providers.entries = furnished.providers.entries ++ before := by
  have hfails : (furnished.load crossing).2 = .error (.providerTaken (.str "doppler")) := rfl
  obtain ⟨-, before, provider, later, hsplit, -, -, hentries⟩ :=
    (load_registers furnished crossing).1 _ hfails
  exact ⟨hfails, before, provider, later, hsplit, hentries⟩

/-- Loading fails, and the hook and the provider that stands first are registered. -/
theorem crossing_half_loaded :
    (furnished.load crossing).2 = .error (.providerTaken (.str "doppler")) ∧
    furnished.dispatcher.hooksOf beforeWrite = [] ∧
    (furnished.load crossing).1.dispatcher.hooksOf beforeWrite = [⟨.int 10, .custom "sign"⟩] ∧
    furnished.providers.get? (.str "aws") = none ∧
    (furnished.load crossing).1.providers.get? (.str "aws") = some "other" :=
  ⟨rfl, rfl, rfl, rfl, rfl⟩

end Registry

end FluxFleet
