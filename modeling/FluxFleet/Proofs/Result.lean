import FluxFleet.Proofs.Deployment
import FluxFleet.Proofs.Identity
import FluxFleet.Proofs.Value.Text

/-!
# What hooks leave of a result

A run names each manifest by its template and its kustomization, so that none is named like the file
of the controller patches, and it writes these patches for a kind that is a text. A hook could do
anything to the context that it is given, but it is meant to adjust values and to attach documents.
Such a hook keeps contexts regular (`Plugins.KeepRegular`), and if all hooks do, the result of the
run is regular (`Generator.regular_of_generate`).
-/

namespace FluxFleet

variable {η π τ : Type}

/-- A result whose manifests belong to templates with names and leave the file of the controller
patches alone, and whose controller patches are texts. -/
structure Generation.Regular (g : Generation) : Prop where
  named : ∀ m ∈ g.manifests, m.template ≠ ""
  unreserved : ∀ m ∈ g.manifests, ¬ (m.template = "flux-system" ∧ m.name = "patches")
  textual : ∀ ps, g.controllerPatches = some ps → ∀ p ∈ ps, ∃ kind : String, p.kind = .str kind

/-- A context of kustomizations of named templates, with a regular result if there is one. -/
structure Context.Regular (c : Context) : Prop where
  named : ∀ r ∈ c.kustomizations, r.template.name ≠ ""
  result : ∀ g, c.result = some g → g.Regular

/-- The context that a hook passes on. -/
def Reply.passedOn (r : Reply η τ) : Except Error Context :=
  r.outcome.map fun
    | .received => r.left
    | .sharing c => c
    | .other c => c

/-- No hook of a plugin makes a regular context irregular. -/
def Plugins.KeepRegular (plugins : Plugins η π τ) : Prop :=
  ∀ h event c d, c.Regular → ∀ c', (plugins.answer h event c d).passedOn = .ok c' → c'.Regular

/-- A resource that is read has a name. -/
theorem resourceName_ne_empty {kind name : String} {doc : Value}
    (h : resourceName kind doc = .ok name) : name ≠ "" := by
  obtain ⟨metadata, -, h⟩ := bind_eq_ok.mp h
  split at h
  · cases h
  obtain ⟨given, -, h⟩ := bind_eq_ok.mp h
  split at h
  · cases h
  next hgiven =>
  rw [Bool.not_eq_true', Bool.not_eq_false] at hgiven
  rw [Value.written] at h
  split at h
  · cases h
    exact Value.text_ne_empty hgiven
  · cases h

/-- So has a template that is read. -/
theorem Template.Read.name_ne_empty {t : Template} (h : t.Read) : t.name ≠ "" := by
  obtain ⟨doc, h⟩ := h
  obtain ⟨_, -, -, hname⟩ := ofDocument_eq_ok h
  exact resourceName_ne_empty hname

/-! ## A run of hooks -/

namespace Dispatch

variable {answer : η → Value → Context → Dispatcher η → Reply η τ} {event : Value}

/-- What each hook keeps is kept by a run of them. -/
theorem of_run {P : Context → Prop} {hooks : List (Hook η)} {s s' : Dispatch η τ} {c : Context}
    (hstep : ∀ h ∈ hooks, ∀ c d c', P c → (answer h.handler event c d).passedOn = .ok c' → P c')
    (hrun : run answer event hooks s = (s', .ok c)) (hs : P s.context) : P c := by
  induction hooks generalizing s with
  | nil =>
    cases hrun
    exact hs
  | cons h hooks ih =>
    have hkept := hstep h List.mem_cons_self s.context s.dispatcher
    have hrest := fun h' hh' => hstep h' (List.mem_cons_of_mem _ hh')
    rw [run] at hrun
    rcases houtcome : (answer h.handler event s.context s.dispatcher).outcome with e | handover
    · simp only [houtcome] at hrun
      cases hrun
    simp only [houtcome] at hrun
    rw [Reply.passedOn, houtcome] at hkept
    cases handover with
    | received => exact ih hrest hrun (hkept _ hs rfl)
    | sharing c => exact ih hrest hrun (hkept _ hs rfl)
    | other c => exact ih hrest hrun (hkept _ hs rfl)

end Dispatch

namespace Registry

variable {plugins : Plugins η π τ} {c c' : Context}

/-- Values that are written over others leave a kustomization where it was. -/
theorem template_overwrite (answers : List (Value × OrderedMap Value Value)) (r : Resolved) :
    (overwrite answers r).template = r.template := by
  induction answers generalizing r with
  | nil => rfl
  | cons a answers ih =>
    have hone : (Provided.apply a.1 a.2 r).template = r.template := by
      rw [Provided.apply]
      split <;> rfl
    exact (ih _).trans hone

/-- The own hook of a registry changes values only. -/
theorem regular_of_provideAll {providers : OrderedMap Value π}
    {d : Dispatcher (PluginHook η π)} (hc : c.Regular)
    (h : (provideAll plugins providers c d).passedOn = .ok c') : c'.Regular := by
  rw [Reply.passedOn, provideAll] at h
  rcases hgroups : Resolution.external c.kustomizations with e | groups
  · rw [hgroups] at h
    cases h
  rw [hgroups] at h
  rcases hrun : resolveGroups plugins providers groups.entries c [] with ⟨left, trace, e | ⟨⟩⟩
  · simp only [hrun] at h
    cases h
  simp only [hrun] at h
  cases h
  obtain rfl := resolveGroups_eq_ok hrun
  refine ⟨fun r' hr' => ?_, hc.result⟩
  obtain ⟨r, hr, rfl⟩ := List.mem_map.mp hr'
  rw [template_overwrite]
  exact hc.named r hr

/-- Hooks that keep contexts regular do so together. -/
theorem regular_of_dispatch {registry : Registry η π} {event : Value}
    {s : Dispatch (PluginHook η π) τ} (hplugins : plugins.KeepRegular) (hc : c.Regular)
    (h : registry.dispatch plugins event c = (s, .ok c')) : c'.Regular := by
  refine Dispatch.of_run (P := Context.Regular) (fun hook _ c d c' hc hpassed => ?_) h hc
  generalize hook.handler = handler at hpassed
  cases handler with
  | provide => exact regular_of_provideAll hc hpassed
  | provideFrom providers => exact regular_of_provideAll hc hpassed
  | custom handler => exact hplugins handler event c d hc c' hpassed

end Registry

/-! ## A run -/

/-- Controller patches are for deployments. -/
theorem Patch.kind_of_ofSystem? {system : Option SystemSettings} {patches : List Patch} {p : Patch}
    (h : ofSystem? system = .ok (some patches)) (hp : p ∈ patches) :
    p.kind = .str "Deployment" := by
  rw [ofSystem?] at h
  split at h
  · cases h
  next t _ =>
  obtain ⟨row, hrow, h⟩ := bind_eq_ok.mp h
  dsimp only at h
  split at h
  · cases h
  cases h
  obtain ⟨p', hp', rfl⟩ := List.mem_filterMap.mp hp
  obtain ⟨c, -, hc⟩ := (mem_iff_of_mapM_eq_ok hrow).mp hp'
  rw [ofController?] at hc
  obtain ⟨args, -, hc⟩ := bind_eq_ok.mp hc
  split at hc
  · cases hc
  · split at hc
    · cases hc
      rfl
    · cases hc

namespace Generator

variable {plugins : Plugins η π τ} {registry : Registry η π} {d : GeneratorDefaults}
variable {cluster : Cluster} {templates : List Template} {options : Options}
variable {s : Settings} {resolved : List Resolved} {gen : Generation} {c : Context}

/-- Controller patches that are built are for a kind that is a text. -/
theorem textual_of_build (h : build cluster s options resolved = .ok gen) :
    ∀ ps, gen.controllerPatches = some ps → ∀ p ∈ ps, ∃ kind : String, p.kind = .str kind := by
  intro ps hps p hp
  obtain ⟨_, _, patches, _, -, -, hpatches, -, rfl⟩ := build_eq_ok h
  obtain rfl : patches = some ps := hps
  exact ⟨_, Patch.kind_of_ofSystem? hpatches hp⟩

theorem regular_of_build (h : build cluster s options resolved = .ok gen)
    (hresolved : ∀ r ∈ resolved, r.template.name ≠ "") : gen.Regular := by
  refine ⟨fun m hm => ?_, fun m hm hreserved => ?_, textual_of_build h⟩
  · obtain ⟨r, hr, hrender⟩ := (mem_manifests h).mp hm
    obtain ⟨-, htemplate, -, -⟩ := render_eq_some hrender
    rw [htemplate]
    exact hresolved r hr
  · -- the name of a manifest starts like its template
    obtain ⟨r, -, hrender⟩ := (mem_manifests h).mp hm
    obtain ⟨hname, htemplate, -, -⟩ := render_eq_some hrender
    have hidentity : m.name = joined m.template r.kustomization.name.text := by
      rw [hname, htemplate]
      rfl
    rw [hreserved.1, hreserved.2] at hidentity
    have hlists := congrArg String.toList hidentity
    rw [toList_joined] at hlists
    cases congrArg List.head? hlists

/-- The documents of an extension leave the rest of a result as it is. -/
theorem regular_of_finish (hc : c.Regular) (h : finish c = .ok gen) : gen.Regular := by
  rw [finish] at h
  rcases hg : c.result with _ | g
  · rw [hg] at h
    cases h
  rw [hg] at h
  obtain ⟨extension, -, h⟩ := bind_eq_ok.mp h
  split at h
  · cases h
    exact ⟨(hc.result g hg).named, (hc.result g hg).unreserved, (hc.result g hg).textual⟩
  · cases h
    exact hc.result gen hg

/-- With hooks that keep contexts regular, a run returns a regular result. -/
theorem regular_of_generate (htemplates : ∀ t ∈ templates, t.name ≠ "")
    (hplugins : plugins.KeepRegular)
    (h : (generate plugins registry d cluster templates options).2 = .ok gen) : gen.Regular := by
  obtain ⟨c, first, left, g, second, after, hstart, hfirst, hbuild, hsecond, hfinish⟩ :=
    generate_hooked_eq_ok h
  obtain ⟨-, resolved, hresolved, rfl⟩ := start_eq_ok hstart
  -- both runs of hooks start from a regular context: before the manifests are built, and after
  have hresolvedRegular : Context.Regular { cluster, templates, kustomizations := resolved } := by
    refine ⟨fun r hr => ?_, fun g hg => ?_⟩
    · obtain ⟨hd, -⟩ := Resolution.enabled_of_mem hresolved hr
      exact htemplates _ (Graph.mem_declared.mp hd).1
    · cases hg
  have hleft := Registry.regular_of_dispatch hplugins hresolvedRegular hfirst
  have hbuilt : Context.Regular { left with result := some g } := by
    refine ⟨hleft.named, fun g' hg' => ?_⟩
    cases hg'
    exact regular_of_build hbuild hleft.named
  exact regular_of_finish (Registry.regular_of_dispatch hplugins hbuilt hsecond) hfinish

end Generator

end FluxFleet
