import FluxFleet.Proofs.Generation
import FluxFleet.Proofs.Groups
import FluxFleet.Proofs.Value.Record

/-!
# Which value a variable gets

The values of a manifest come from five places: the providers, the cluster, the variables of the
kustomization, the version entries of the template, and the target namespace. Providers write their
values over what is resolved, type after type, so the last type that has a value stands
(`get?_overwrite`). Below them the tiers of the resolution follow each other (`get?_values`). Both
together give each variable of each emitted manifest (`substitute_precedence`).
-/

namespace FluxFleet

open OrderedMap (Steady)

/-- The names that a kustomization declares with a type. -/
def Kustomization.namesOf (ks : Kustomization) (type : Value) : List Value :=
  (ks.substitutions.filter (·.type == type)).map (·.name)

/-! ## What providers write -/

namespace Provided

theorem apply_of_disabled (type : Value) (values : OrderedMap Value Value) {r : Resolved}
    (h : r.enabled.truthy = false) : apply type values r = r := by
  rw [apply, h, if_neg Bool.false_ne_true]

/-- The values of a type are set for the names declared with it. -/
theorem apply_of_enabled (type : Value) (values : OrderedMap Value Value) {r : Resolved}
    (h : r.enabled.truthy = true) :
    apply type values r =
      { r with values := values.override (r.kustomization.namesOf type) r.values } := by
  rw [apply, h, if_pos rfl, OrderedMap.override, Kustomization.namesOf, List.foldl_map,
    List.foldl_filter]
  congr 2
  funext m s
  split
  · cases values.get? s.name <;> rfl
  · rfl

/-- The answer of a provider goes before what was there, for the names declared with its type. -/
theorem get?_apply {type n : Value} {values : OrderedMap Value Value} {r : Resolved}
    (h : r.enabled.truthy = true) (hnames : ∀ s ∈ r.kustomization.substitutions, Steady s.name) :
    (apply type values r).values.get? n =
      (if (r.kustomization.namesOf type).any (· == n) then values.get? n else none).or
        (r.values.get? n) := by
  have hkeys : ∀ k ∈ r.kustomization.namesOf type, Steady k := by
    intro k hk
    obtain ⟨s, hs, rfl⟩ := List.mem_map.mp hk
    exact hnames s (List.mem_of_mem_filter hs)
  rw [apply_of_enabled type values h]
  refine (OrderedMap.get?_override values n hkeys r.values).trans ?_
  split
  · rfl
  · rw [Option.none_or]

end Provided

namespace Registry

/-- The value that the last answer has for a name, among those for types that the name is declared
with. -/
def lastAnswer (ks : Kustomization) (n : Value) (answers : List (Value × OrderedMap Value Value)) :
    Option Value :=
  (answers.filterMap fun a =>
    if (ks.namesOf a.1).any (· == n) then a.2.get? n else none).getLast?

theorem lastAnswer_cons (ks : Kustomization) (n : Value) (a : Value × OrderedMap Value Value)
    (answers : List (Value × OrderedMap Value Value)) :
    lastAnswer ks n (a :: answers) = (lastAnswer ks n answers).or
      (if (ks.namesOf a.1).any (· == n) then a.2.get? n else none) := by
  rw [lastAnswer, lastAnswer, List.filterMap_cons]
  rcases (if (ks.namesOf a.1).any (· == n) then a.2.get? n else none) with _ | v
  · rw [Option.or_none]
  · simp only [List.getLast?_cons]
    cases List.getLast? _ <;> rfl

theorem overwrite_of_disabled {r : Resolved} (h : r.enabled.truthy = false)
    (answers : List (Value × OrderedMap Value Value)) : overwrite answers r = r := by
  induction answers with
  | nil => rfl
  | cons a answers ih =>
    rw [overwrite, List.foldl_cons, Provided.apply_of_disabled _ _ h]
    exact ih

/-- Nothing but values is written over. -/
theorem overwrite_eq (answers : List (Value × OrderedMap Value Value)) :
    ∀ r : Resolved, overwrite answers r = { r with values := (overwrite answers r).values } := by
  induction answers with
  | nil =>
    intro r
    rfl
  | cons a answers ih =>
    intro r
    have hcons : overwrite (a :: answers) r = overwrite answers (Provided.apply a.1 a.2 r) := rfl
    have hone : Provided.apply a.1 a.2 r =
        { r with values := (Provided.apply a.1 a.2 r).values } := by
      rw [Provided.apply]
      split <;> rfl
    rw [hcons, ih, hone]

/-- The last answer for a name stands. -/
theorem get?_overwrite {n : Value} (answers : List (Value × OrderedMap Value Value)) :
    ∀ {r : Resolved}, r.enabled.truthy = true →
      (∀ s ∈ r.kustomization.substitutions, Steady s.name) →
        (overwrite answers r).values.get? n =
          (lastAnswer r.kustomization n answers).or (r.values.get? n) := by
  induction answers with
  | nil =>
    intro r _ _
    rfl
  | cons a answers ih =>
    intro r hon hnames
    have hcons : overwrite (a :: answers) r = overwrite answers (Provided.apply a.1 a.2 r) := rfl
    have hone : overwrite [a] r = Provided.apply a.1 a.2 r := rfl
    -- an answer leaves the flag and the declared names, so the rest is written like before
    have hsame := overwrite_eq [a] r
    rw [hone] at hsame
    have hks : (Provided.apply a.1 a.2 r).kustomization = r.kustomization := by rw [hsame]
    have hon' : (Provided.apply a.1 a.2 r).enabled.truthy = true := by rw [hsame]; exact hon
    rw [hcons, ih hon' (by rw [hks]; exact hnames), hks, Provided.get?_apply hon hnames,
      ← Option.or_assoc, ← lastAnswer_cons]

/-- Of the answers for groups of variables the last one counts, in the order of first appearance of
the types. -/
theorem lastAnswer_answers {η π τ : Type} {plugins : Plugins η π τ}
    {providers : OrderedMap Value π} {cluster : Cluster} {templates : List Template}
    (ks : Kustomization) (n : Value) (subs : List Substitution) :
    lastAnswer ks n (answers plugins providers cluster templates
        (Resolution.grouped subs).entries) =
      ((Resolution.firstAppearances (subs.map (·.type))).filterMap fun type =>
        if (ks.namesOf type).any (· == n)
          then (answered? plugins providers cluster templates type
            (subs.filter (·.type == type))).bind (·.get? n)
          else none).getLast? := by
  rw [lastAnswer, answers, Resolution.grouped, List.filterMap_map, List.filterMap_filterMap]
  congr 2
  funext type
  simp only [Function.comp_apply]
  rcases answered? plugins providers cluster templates type (subs.filter (·.type == type)) with
    _ | values
  · simp
  · rfl

end Registry

/-! ## The variables of a document -/

namespace Manifest

/-- The value of a text key in a mapping. -/
def child? (key : String) (doc : Value) : Option Value :=
  doc.entries?.bind (OrderedMap.find? (.str key))

/-- The value that the document of a manifest sets for a variable. -/
def substituted? (doc : Value) (n : Value) : Option Value :=
  (child? "spec" doc).bind fun spec => (child? "postBuild" spec).bind fun build =>
    (child? "substitute" build).bind fun table => table.entries?.bind (OrderedMap.find? n)

theorem child?_record (key : String) (fields : List (String × Value)) :
    child? key (.record fields) = (fields.find? (·.1 == key)).map (·.2) := by
  have hentries : (Value.record fields).entries? =
      some (fields.map fun f => (.str f.1, f.2)) := rfl
  rw [child?, hentries, Option.bind_some, Value.find?_fields]

theorem find?_listField {α : Type} {key key' : String} (h : key ≠ key') (write : α → Value)
    (items : List α) : (listField key write items).find? (·.1 == key') = none := by
  rw [listField]
  split
  · rfl
  · rw [List.find?_singleton, if_neg (by simpa using h)]

/-- The document of a manifest sets the variables to its values. -/
theorem substituted?_document (m : Manifest) (n : Value) :
    substituted? m.document n = m.values.get? n := by
  have hspec : child? "spec" m.document = some m.spec := rfl
  rw [substituted?, hspec, Option.bind_some, spec, child?_record]
  simp (disch := decide) only [List.find?_append, Value.find?_optional, find?_listField,
    Option.or_none]
  rcases hentries : m.values.entries with _ | ⟨e, es⟩
  · have hempty : m.values.isEmpty = true := by rw [OrderedMap.isEmpty, hentries]; rfl
    rw [hempty, OrderedMap.get?, hentries]
    rfl
  · have hfull : m.values.isEmpty = false := by rw [OrderedMap.isEmpty, hentries]; rfl
    rw [hfull, OrderedMap.get?, hentries]
    rfl

end Manifest

/-! ## The law of a run -/

namespace Generator

open Enablement (flag)
open FluxFleet.Graph (declared)
open Resolution (clusterTier firstAppearances grouped namespaceTier needed ownTier versionTier)

variable {η π τ : Type} {plugins : Plugins η π τ} {providers : OrderedMap Value π}
variable {d : GeneratorDefaults} {cluster : Cluster} {templates : List Template}
variable {options : Options} {gen : Generation}

/-- What the provider of a type returns in a run. It is asked for the variables of the type in
enabled kustomizations. -/
def returned? (plugins : Plugins η π τ) (providers : OrderedMap Value π) (cluster : Cluster)
    (templates : List Template) (type : Value) : Option (OrderedMap Value Value) :=
  Registry.answered? plugins providers cluster templates type
    ((needed cluster templates).filter (·.type == type))

/-- The value that providers give a name of a kustomization: of the types that the name is declared
with and whose provider returns it, the last one counts, in the order of first appearance among
enabled kustomizations. -/
def providerTier (plugins : Plugins η π τ) (providers : OrderedMap Value π) (cluster : Cluster)
    (templates : List Template) (ks : Kustomization) (n : Value) : Option Value :=
  ((firstAppearances ((needed cluster templates).map (·.type))).filterMap fun type =>
    if (ks.namesOf type).any (· == n)
      then (returned? plugins providers cluster templates type).bind (·.get? n)
      else none).getLast?

theorem lastAnswer_eq_providerTier (ks : Kustomization) (n : Value) :
    Registry.lastAnswer ks n (Registry.answers plugins providers cluster templates
        (grouped (needed cluster templates)).entries) =
      providerTier plugins providers cluster templates ks n :=
  Registry.lastAnswer_answers ks n (needed cluster templates)

/-- The names of the variables of a kustomization that is resolved can be keys. -/
theorem steady_names_of_resolve {t : Template} {ks : Kustomization} {s : Selection} {r : Resolved}
    (h : Resolution.resolve t ks (some s) = .ok r) : ∀ s ∈ ks.substitutions, Steady s.name := by
  obtain ⟨merged, hmerged, -⟩ := bind_eq_ok.mp h
  intro s hs
  exact Resolution.steady_of_values_eq_ok hmerged (s.name, s.fallback)
    (List.mem_append_right _ (List.mem_map.mpr ⟨s, hs, rfl⟩))

/-- **Precedence.** Every manifest of a run without hooks of plugins stands for a kustomization of a
selected template. If that one is enabled, a variable gets the value of the providers; otherwise the
first of these that there is: the cluster's value, if the name is declared, the last default of the
kustomization, the last default of the template, and the target namespace for the variable that
holds it. -/
theorem substitute_precedence
    (h : (generate plugins (.withProviders providers) d cluster templates options).2 = .ok gen)
    {m : Generated} (hm : m ∈ gen.manifests) :
    ∃ t ks s, (t, ks) ∈ declared templates ∧ cluster.selection? (.str t.name) = some s ∧
      m.template = t.name ∧ m.manifest.name = ks.identity t.name ∧
      m.preserved = !(flag cluster t ks).truthy ∧
      ∀ n, Manifest.substituted? m.manifest.document n =
        (if (flag cluster t ks).truthy
          then providerTier plugins providers cluster templates ks n else none).or
        (((((clusterTier t ks s.values n).or (ownTier ks n)).or (versionTier t n)).map .str).or
          (namespaceTier ks n)) := by
  obtain ⟨-, resolved, groups, hresolved, hgroups, hbuild⟩ := generate_eq_ok h
  obtain rfl := Resolution.external_eq_ok hresolved hgroups
  obtain ⟨r', hr', hrender⟩ := (mem_manifests hbuild).mp hm
  obtain ⟨r, hr, rfl⟩ := List.mem_map.mp hr'
  obtain ⟨t, ks, s, hd, hsel, hres⟩ := (Resolution.mem_resolveAll hresolved).mp hr
  have hnames := steady_names_of_resolve hres
  obtain ⟨rfl, rfl, henabled, -, -⟩ := Resolution.resolve_eq_ok hres
  have hflag : r.enabled = flag cluster r.template r.kustomization := by
    rw [henabled, flag, hsel]
  obtain ⟨-, htemplate, hpreserved, kept, hmanifest⟩ := render_eq_some hrender
  obtain ⟨hname, hvalues, -, -⟩ := Manifest.ofResolved_eq_ok hmanifest
  -- only the values of what is rendered are not those of what is resolved
  have hover := Registry.overwrite_eq (Registry.answers plugins providers cluster templates
    (grouped (needed cluster templates)).entries) r
  rw [hover] at htemplate hname hpreserved
  rw [hflag] at hpreserved
  refine ⟨r.template, r.kustomization, s, hd, hsel, htemplate, hname, hpreserved, fun n => ?_⟩
  rw [Manifest.substituted?_document, hvalues, ← Resolution.get?_values hres n]
  by_cases hon : r.enabled.truthy = true
  · rw [Registry.get?_overwrite _ hon hnames, lastAnswer_eq_providerTier, ← hflag, if_pos hon]
  · rw [Registry.overwrite_of_disabled (Bool.eq_false_iff.mpr hon), ← hflag, if_neg hon,
      Option.none_or]

/-! ## An application with all tiers -/

/-- A template with a variable for each tier. -/
def application : Template :=
  { name := "app"
    kustomizations := [{ Kustomization.bare "web" [] with
      substitutions := [
        { name := "token", fallback := some "own", kind := .plugin "vault" [] },
        { name := "token", fallback := none, kind := .doppler "T" .null .null },
        { name := "region", fallback := some "own", kind := .generic .null .null },
        { name := "zone", fallback := some "own", kind := .plugin "vault" [] }] }]
    versions := [⟨"zone", some "version", .null, .null, .null, .image ⟨"web", .null⟩⟩,
      ⟨"tag", some "version", .null, .null, .null, .image ⟨"web", .null⟩⟩] }

/-- A cluster that selects the application and sets a declared and an undeclared name. -/
def site : Cluster :=
  { name := "site"
    selections := [{ name := "app", values := ⟨[("region", "cluster"), ("other", "cluster")]⟩ }] }

/-- Providers that return what they are. -/
def constantly : Plugins Empty Value Empty :=
  { answer := fun h => h.elim, provide := fun v _ => ([], .ok v) }

/-- A registry whose two providers know the same name. -/
def vaults : Registry Empty Value :=
  .withProviders ⟨[("vault", .record [("token", "vault")]),
    ("doppler", .record [("token", "doppler")])]⟩

/-- Every tier has a name that it gives the value of, and an undeclared name has none. -/
theorem substitute_of_application :
    ∃ gen, (generate constantly vaults {} site [application] {}).2 = .ok gen ∧
      ∃ m ∈ gen.manifests, (["token", "region", "zone", "tag", "namespace", "other"].map fun n =>
        Manifest.substituted? m.manifest.document (.str n)) =
          [some (.str "doppler"), some (.str "cluster"), some (.str "own"), some (.str "version"),
            some (.str "default"), none] := by
  have hrun : (generate constantly vaults {} site [application] {}).2 = .ok _ := rfl
  refine ⟨_, hrun, _, List.mem_cons_self, ?_⟩
  obtain ⟨t, ks, s, hd, hsel, -, -, -, hlaw⟩ := substitute_precedence hrun List.mem_cons_self
  obtain ⟨rfl, rfl⟩ := Prod.mk.inj (List.mem_singleton.mp hd)
  obtain rfl := Option.some.inj hsel
  exact (List.map_congr_left fun n _ => hlaw (.str n)).trans rfl

end Generator

end FluxFleet
