import FluxFleet.Proofs.Hooks.Dispatch
import FluxFleet.Proofs.ProviderCalls

/-!
# Whose failure a failed dispatch reports

The calls of providers that are due are made up to the first that comes to no values, and this one
ends the dispatch (`Consulted.eq_error_of_first`, `Dispatched.eq_error_of_mem`). If the provider has
raised an error, the dispatch reports it for the provider's type, unless the error names a type by
itself. If the provider has returned something that is no mapping, no type is named: the hook reads
it when the call is over, and fails like any other hook (`failure_attributed`).
-/

namespace FluxFleet

variable {η π τ : Type}

/-! ## The first failure -/

section Dispatch

variable {answer : η → Value → Context → Dispatcher η → Reply η τ} {event : Value}
variable {hooks : List (Hook η)} {calls : List (Call η)} {k : Call η} {e : Error}
variable {c c' : Context} {d d' : Dispatcher η} {outcome : Except Error Context}

/-- A call behind which a context is handed on has not failed. -/
theorem HandedOn.exists_passedOn (h : HandedOn answer c d calls c' d') (hk : k ∈ calls) :
    ∃ handover, (k.reply answer).outcome = .ok handover := by
  induction h with
  | done c d => cases hk
  | @next k' ks c c' d' passed rest ih =>
    rcases List.mem_cons.mp hk with rfl | hk
    · rw [Reply.passedOn] at passed
      rcases hout : (k.reply answer).outcome with e | handover
      · rw [hout] at passed
        cases passed
      · exact ⟨handover, rfl⟩
    · exact ih hk

/-- A call that fails is the one that ends the dispatch. -/
theorem Dispatched.eq_error_of_mem (h : Dispatched answer event hooks c d calls d' outcome)
    (hk : k ∈ calls) (hfailed : (k.reply answer).outcome = .error e) :
    outcome = .error (Dispatch.reported event e) := by
  cases h with
  | all ran events handed =>
    obtain ⟨handover, hok⟩ := handed.exists_passedOn hk
    rw [hfailed] at hok
    cases hok
  | stopped ran events handed failed =>
    rcases List.mem_append.mp hk with hk | hk
    · obtain ⟨handover, hok⟩ := handed.exists_passedOn hk
      rw [hfailed] at hok
      cases hok
    · obtain rfl := List.mem_singleton.mp hk
      obtain rfl := Except.error.inj (hfailed.symm.trans failed)
      rfl

end Dispatch

namespace Provided

/-- What cannot be read as a mapping is not an error that the library reports by itself. -/
theorem not_isReported_of_pair {index : Nat} {v : Value} {e : Error} (h : pair index v = .error e) :
    e.isReported = false := by
  rw [pair] at h
  split at h
  · cases h
    rfl
  · rcases bind_eq_error.mp h with h | ⟨key, -, h⟩
    · rw [Value.asKey] at h
      split at h
      · cases h
        rfl
      · cases h
    · cases h
  · cases h
    rfl

theorem not_isReported_of_pairs {vs : List Value} {e : Error} :
    ∀ {index : Nat}, pairs index vs = .error e → e.isReported = false := by
  induction vs with
  | nil =>
    intro index h
    cases h
  | cons v vs ih =>
    intro index h
    rcases bind_eq_error.mp h with h | ⟨entry, -, h⟩
    · exact not_isReported_of_pair h
    · rcases bind_eq_error.mp h with h | ⟨entries, -, h⟩
      · exact ih h
      · cases h

theorem not_isReported_of_mapping {v : Value} {e : Error} (h : mapping v = .error e) :
    e.isReported = false := by
  rw [mapping] at h
  split at h
  · cases h
  · rcases bind_eq_error.mp h with h | ⟨items, -, h⟩
    · rw [Value.each] at h
      split at h
      · cases h
      · cases h
        rfl
    · rcases bind_eq_error.mp h with h | ⟨entries, -, h⟩
      · exact not_isReported_of_pairs h
      · cases h

end Provided

namespace Registry

open Resolution (grouped pending)

variable {plugins : Plugins η π τ} {providers : OrderedMap Value π} {c : Context}
variable {a : Asking π} {asked rest : List (Asking π)} {e : Error}

/-- The first call of a row that comes to no values. -/
def firstFailing? (plugins : Plugins η π τ) (row : List (Asking π)) : Option (Asking π) :=
  row.find? fun a => (a.result plugins).toOption.isNone

theorem firstFailing?_append (hasked : ∀ b ∈ asked, ∃ values, b.result plugins = .ok values)
    (ha : a.result plugins = .error e) : firstFailing? plugins (asked ++ a :: rest) = some a := by
  refine List.find?_eq_some_iff_append.mpr ⟨by rw [ha]; rfl, asked, rest, rfl, fun b hb => ?_⟩
  obtain ⟨values, hvalues⟩ := hasked b hb
  rw [hvalues]
  rfl

/-- The first call that comes to no values decides. -/
theorem Consulted.eq_error_of_first {made : List (π × Request)} {outcome : Except Error Handover}
    (h : Consulted plugins (asked ++ a :: rest) made outcome)
    (hasked : ∀ b ∈ asked, ∃ values, b.result plugins = .ok values)
    (ha : a.result plugins = .error e) : outcome = .error e := by
  have hfirst := @firstFailing?_append _ _ _ plugins a asked rest e hasked ha
  generalize asked ++ a :: rest = row at h hfirst
  cases h with
  | all answered =>
    obtain ⟨values, hvalues⟩ := answered a (List.mem_of_find?_eq_some hfirst)
    rw [ha] at hvalues
    cases hvalues
  | stopped answered failed =>
    obtain rfl := Option.some.inj ((firstFailing?_append answered failed).symm.trans hfirst)
    exact congrArg _ (Except.error.inj (failed.symm.trans ha))

/-- The providers that an own hook asks, whether it is the hook of this registry or of one that this
was built on. -/
def asksOf? (r : Registry η π) : PluginHook η π → Option (OrderedMap Value π)
  | .provide => some r.providers
  | .provideFrom providers => some providers
  | .custom _ => none

variable {r : Registry η π} {k : Call (PluginHook η π)}

/-- An own hook that is called makes the calls that are due. -/
theorem consulted_of_call (hasks : r.asksOf? k.handler = some providers)
    (htypes : k.received.TypesKeyed) : ∃ made,
    Consulted plugins (due providers k.received) made (k.reply (r.answer plugins)).outcome := by
  have hreply : k.reply (r.answer plugins) =
      provideAll plugins providers k.received k.dispatcher := by
    rw [Call.reply]
    rcases hhandler : k.handler with _ | _ | _
    all_goals
      rw [hhandler] at hasks
      cases hasks
    · rfl
    · rfl
  obtain ⟨made, -, hconsulted⟩ := @consulted_resolveGroups η π τ plugins providers
    (grouped (pending k.received.kustomizations)).entries k.received [] []
  rw [askings_grouped] at hconsulted
  refine ⟨made, ?_⟩
  rw [hreply, provideAll, Resolution.external_of_keyed htypes]
  exact hconsulted

/-- A registry with no hook but its own calls this one with the context that it is given. -/
theorem calls_withProviders :
    (withProviders providers : Registry η π).dispatcher.calls
        ((withProviders providers).answer plugins) afterResolve c =
      [⟨.provide, afterResolve, c, (withProviders providers).dispatcher⟩] := by
  rw [Dispatcher.calls, Dispatcher.dispatch, hooksOf_afterResolve, Dispatch.run]
  rcases hreply : (noting ((withProviders providers).answer plugins) .provide afterResolve c
    (withProviders providers).dispatcher).outcome with e | handover
  · rfl
  · simp only [Dispatch.run, Dispatch.trace_handOver]
    rfl

/-- A call that comes to no values ends the dispatch, if it is the first. -/
theorem dispatch_of_first (hk : k ∈ r.dispatcher.calls (r.answer plugins) afterResolve c)
    (hasks : r.asksOf? k.handler = some providers) (htypes : k.received.TypesKeyed)
    (hdue : due providers k.received = asked ++ a :: rest)
    (hasked : ∀ b ∈ asked, ∃ values, b.result plugins = .ok values)
    (ha : a.result plugins = .error e) :
    (r.dispatch plugins afterResolve c).2 = .error (Dispatch.reported afterResolve e) := by
  obtain ⟨made, hconsulted⟩ := @consulted_of_call _ _ _ plugins _ _ _ hasks htypes
  rw [hdue] at hconsulted
  have hfailed := hconsulted.eq_error_of_first hasked ha
  let start (ρ : Type) : Dispatch (PluginHook η π) ρ :=
    { dispatcher := r.dispatcher, context := c, caller := c }
  obtain ⟨calls, htrace, hdispatched⟩ := @Dispatch.dispatched_run _ τ (r.answer plugins)
    afterResolve (r.dispatcher.hooksOf afterResolve) (start _) (start _) rfl rfl
  obtain rfl : r.dispatcher.calls (r.answer plugins) afterResolve c = calls := htrace
  exact hdispatched.eq_error_of_mem hk hfailed

/-! ## What is reported -/

/-- What a dispatch comes to in which a call of a provider fails. -/
structure Attributed (plugins : Plugins η π τ) (a : Asking π) (outcome : Except Error Context) :
    Prop where
  /-- an error that names a type by itself is passed on -/
  passed : ∀ type reason,
    (plugins.provide a.provider a.request).2 = .error (.resolution type reason) →
      outcome = .error (.resolution type reason)
  /-- for any other error the type of the provider is named -/
  raised : ∀ e, (plugins.provide a.provider a.request).2 = .error e →
    (∀ type reason, e ≠ .resolution type reason) → outcome = .error (.resolution a.type e.message)
  /-- for what cannot be read as a mapping no type is named -/
  unreadable : ∀ v e, (plugins.provide a.provider a.request).2 = .ok v →
    Provided.mapping v = .error e → outcome = .error (.hook afterResolve e.message)

/-- **Attribution.** An own hook that is called in a dispatch, with types that can be keys, has a
call due for each type with a provider. If one of these calls is the first to fail, the dispatch
fails with the error of its provider, attributed to the type, unless the provider has answered and
the answer is no mapping. -/
theorem failure_attributed (plugins : Plugins η π τ) (r : Registry η π) (c : Context) :
    ∀ k ∈ r.dispatcher.calls (r.answer plugins) afterResolve c,
      ∀ providers, r.asksOf? k.handler = some providers → k.received.TypesKeyed →
        Covers providers k.received (due providers k.received) ∧
        ∀ asked a rest, due providers k.received = asked ++ a :: rest →
          (∀ b ∈ asked, ∃ values, b.result plugins = .ok values) →
            Attributed plugins a (r.dispatch plugins afterResolve c).2 := by
  intro k hk providers hasks htypes
  refine ⟨covers_due htypes, fun asked a rest hdue hasked => ⟨?_, ?_, ?_⟩⟩
  · intro type reason hfailed
    have hresult : a.result plugins = .error (.resolution type reason) := by
      rw [Asking.result, hfailed]
      rfl
    exact dispatch_of_first hk hasks htypes hdue hasked hresult
  · intro e hfailed hother
    have hblamed : Provided.blamed a.type e = .resolution a.type e.message := by
      cases e
      case resolution type reason => exact absurd rfl (hother type reason)
      all_goals rfl
    have hresult : a.result plugins = .error (.resolution a.type e.message) := by
      rw [Asking.result, hfailed, ← hblamed]
    exact dispatch_of_first hk hasks htypes hdue hasked hresult
  · intro v e hanswered hunreadable
    have hresult : a.result plugins = .error e := by
      rw [Asking.result, hanswered]
      exact hunreadable
    rw [dispatch_of_first hk hasks htypes hdue hasked hresult, Dispatch.reported,
      Provided.not_isReported_of_mapping hunreadable]
    rfl

/-! ## A safe that does not open -/

/-- A registry whose second provider of three answers this. -/
def keepers (answer : Except Error Value) : Registry Empty (Except Error Value) :=
  .withProviders ⟨[("shed", .ok (.record [])), ("safe", answer),
    ("vault", .ok (.record [("token", "new")]))]⟩

/-- The safe is asked second, and behind the vault, which answers. -/
theorem due_safe (answer : Except Error Value) :
    ∃ vault safe shed, due (keepers answer).providers storeroom = [vault] ++ safe :: [shed] ∧
      (∀ b ∈ [vault], ∃ values, b.result answering = .ok values) ∧
      safe.type = .str "safe" ∧ (answering.provide safe.provider safe.request).2 = answer := by
  refine ⟨_, _, _, rfl, ?_, rfl, rfl⟩
  rw [List.forall_mem_singleton]
  exact ⟨_, rfl⟩

/-- An error of the safe is reported for it, one that it reports for something else stays, and an
answer of nothing is reported for nothing. -/
theorem failures_of_safe :
    ((keepers (.error (.raised .key ["lock"]))).dispatch answering afterResolve storeroom).2 =
      .error (.resolution "safe" "'lock'") ∧
    ((keepers (.error (.resolution "bank" "closed"))).dispatch answering afterResolve storeroom).2 =
      .error (.resolution "bank" "closed") ∧
    ((keepers (.ok .null)).dispatch answering afterResolve storeroom).2 =
      .error (.hook afterResolve "'NoneType' object is not iterable") := by
  have hattributed (answer : Except Error Value) : ∃ safe, safe.type = .str "safe" ∧
      (answering.provide safe.provider safe.request).2 = answer ∧
      Attributed answering safe
        ((keepers answer).dispatch answering afterResolve storeroom).2 := by
    obtain ⟨vault, safe, shed, hdue, hasked, htype, hanswer⟩ := due_safe answer
    obtain ⟨-, hall⟩ := failure_attributed answering (keepers answer) storeroom
      _ (calls_withProviders ▸ List.mem_cons_self) _ rfl typesKeyed_storeroom
    exact ⟨safe, htype, hanswer, hall _ _ _ hdue hasked⟩
  refine ⟨?_, ?_, ?_⟩
  · obtain ⟨safe, htype, hanswer, hsafe⟩ := hattributed (.error (.raised .key ["lock"]))
    rw [hsafe.raised _ hanswer nofun, htype]
    rfl
  · obtain ⟨safe, -, hanswer, hsafe⟩ := hattributed (.error (.resolution "bank" "closed"))
    exact hsafe.passed _ _ hanswer
  · obtain ⟨safe, -, hanswer, hsafe⟩ := hattributed (.ok .null)
    exact hsafe.unreadable _ _ hanswer rfl

/-- Though it is the answer of the safe that cannot be read, no type is named. -/
theorem unreadable_unattributed :
    (∃ asked safe rest, due (keepers (.ok .null)).providers storeroom = asked ++ safe :: rest ∧
      (∀ b ∈ asked, ∃ values, b.result answering = .ok values) ∧ safe.type = .str "safe" ∧
      ∃ e, safe.result answering = .error e) ∧
    ∀ type reason,
      ((keepers (.ok .null)).dispatch answering afterResolve storeroom).2 ≠
        .error (.resolution type reason) := by
  obtain ⟨vault, safe, shed, hdue, hasked, htype, hanswer⟩ := due_safe (.ok .null)
  refine ⟨⟨_, safe, _, hdue, hasked, htype, .notIterable "NoneType", ?_⟩,
    fun type reason h => ?_⟩
  · rw [Asking.result, hanswer]
    rfl
  · have hfailed : ((keepers (.ok .null)).dispatch answering afterResolve storeroom).2 =
        .error (.hook afterResolve "'NoneType' object is not iterable") := rfl
    cases hfailed.symm.trans h

end Registry

end FluxFleet
