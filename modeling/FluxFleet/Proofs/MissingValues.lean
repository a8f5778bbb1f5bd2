import FluxFleet.Checks
import FluxFleet.Proofs.Deployment
import FluxFleet.Proofs.Tiers
import FluxFleet.Proofs.Value.Sorting

/-!
# Missing values, as checked and as resolved

The check of a cluster collects names: the variables without a default, the values that the cluster
sets, the version entries of the template and its provided variables. The resolver merges values. A
name that the check finds missing (`Wanting`) and a core variable that the resolver has no value for
(`Valueless`) are the same as long as a name is declared in one way only (`Unambiguous`), and then
the report of a cluster holds exactly the variables without a value (`missing_iff_valueless`).

They part where a name has two meanings. A version entry without a default hides a variable that
has no value, and so does a provided variable of another kustomization. The variable `namespace`,
and one that is declared twice, are reported although they have a value.
-/

namespace FluxFleet

namespace Checks

open FluxFleet.Graph (declared mem_declared)
open Resolution

variable {cluster : Cluster} {templates : List Template} {t : Template} {ks : Kustomization}
  {s : Selection} {n : Value}

/-- The names of version entries, variables and values are texts, and the types of variables can be
keys. -/
structure TextNames (cluster : Cluster) (templates : List Template) : Prop where
  versions : ∀ t ∈ templates, ∀ v ∈ t.versions, v.name.IsText
  names : ∀ d ∈ declared templates, ∀ sub ∈ d.2.substitutions, sub.name.IsText
  types : ∀ d ∈ declared templates, ∀ sub ∈ d.2.substitutions, ∃ type, sub.type.asKey = .ok type
  values : ∀ s ∈ cluster.selections, ∀ n ∈ s.values.keys, n.IsText

/-- A kustomization that a cluster deploys, under a selection of its template. -/
structure Runs (cluster : Cluster) (templates : List Template) (t : Template)
    (ks : Kustomization) (s : Selection) : Prop where
  declared : (t, ks) ∈ declared templates
  selected : cluster.selection? (.str t.name) = some s
  enabled : (ks.enabledUnder (some s)).truthy = true

/-- A name that the check finds missing: a variable without a default has it, the cluster sets no
value for it, and no version entry and no provided variable of the template has it. -/
structure Wanting (t : Template) (ks : Kustomization) (s : Selection) (n : Value) : Prop where
  required : n ∈ required ks
  unset : n ∉ s.values.keys
  unversioned : n ∉ t.versions.map (·.name)
  unprovided : n ∉ provided t

/-- A core variable for which nothing is resolved. -/
structure Valueless (t : Template) (ks : Kustomization) (s : Selection) (n : Value) : Prop where
  core : ∃ sub ∈ ks.substitutions, sub.isCore = true ∧ sub.name = n
  unresolved : ∃ r, resolve t ks (some s) = .ok r ∧ r.values.get? n = none

/-- A name that is declared in one way: a version entry of this name has a default, no provided
variable of the template has it, it is not the variable of the target namespace, and the variables
of the kustomization that have it all have a default or none does. -/
structure Unambiguous (t : Template) (ks : Kustomization) (n : Value) : Prop where
  pinned : ∀ v ∈ t.versions, v.name = n → v.fallback ≠ none
  unprovided : n ∉ provided t
  unreserved : n ≠ namespaceVariable
  uniform : n ∈ Resolution.required ks →
    ∀ sub ∈ ks.substitutions, sub.name = n → sub.fallback = none

/-! ## The report -/

/-- Names that are texts are found in a list if they are its members. -/
theorem any_beq_iff {v : Value} (hv : v.IsText) (ws : List Value) :
    (ws.any (v == ·)) = true ↔ v ∈ ws := by
  rw [List.any_eq_true]
  simp only [hv.beq_iff, exists_eq_right']

/-- The keys of a mapping are what it contains. -/
theorem contains_iff_of_text {α : Type} (m : OrderedMap Value α) {v : Value}
    (hv : v.IsText) :
    m.contains v = true ↔ v ∈ m.keys := by
  rw [OrderedMap.contains_eq_any, List.any_eq_true]
  simp only [hv.beq_iff', exists_eq_right]

/-- How values fit the variables of a kustomization whose names are texts. -/
def fitting (values : OrderedMap Value String) (ks : Kustomization) : Fit :=
  { missing := (required ks).filter fun n => !values.contains n,
    unused := values.keys.filter fun n => !(ks.substitutions.map (·.name)).any (n == ·) }

theorem fit_of_texts (values : OrderedMap Value String)
    (hnames : ∀ sub ∈ ks.substitutions, sub.name.IsText) :
    fit ks values = .ok (fitting values ks) := by
  refine bind_eq_ok.mpr ⟨_, forIn_of_checks fun sub hsub => ?_, rfl⟩
  obtain ⟨name, hname⟩ := hnames sub hsub
  rw [hname]
  rfl

theorem fits_of_texts (hnames : ∀ ks ∈ t.kustomizations, ∀ sub ∈ ks.substitutions, sub.name.IsText)
    (given : OrderedMap Value String) :
    t.kustomizations.mapM (fun ks => fit ks given) =
      .ok (t.kustomizations.map (fitting given)) := by
  rw [mapM_eq_ok_iff, List.forall₂_map_right_iff, List.forall₂_same]
  exact fun ks hks => fit_of_texts _ (hnames ks hks)

theorem isText_of_mem_required (hnames : ∀ sub ∈ ks.substitutions, sub.name.IsText)
    (h : n ∈ required ks) : n.IsText := by
  obtain ⟨sub, hsub, rfl⟩ := List.mem_map.mp h
  exact hnames sub (List.mem_of_mem_filter hsub)

/-- The missing values of a kustomization under a selection: none unless it is enabled. -/
def missingUnder (cluster : Cluster) (t : Template) (s : Selection) (ks : Kustomization) :
    List MissingValue :=
  if (ks.enabledUnder (some s)).truthy then
    missingOf cluster t ks (fitting s.values ks).missing
  else []

/-- The missing values of a kustomization are the names that it wants. -/
theorem mem_missingUnder (hnames : ∀ sub ∈ ks.substitutions, sub.name.IsText) {m : MissingValue} :
    m ∈ missingUnder cluster t s ks ↔ (ks.enabledUnder (some s)).truthy = true ∧
      Wanting t ks s m.name ∧
      m = { cluster := cluster.name, kustomization := ks.identity t.name, name := m.name } := by
  rw [missingUnder]
  split
  · next hon =>
    rw [missingOf, fitting, List.mem_map]
    constructor
    · rintro ⟨n, hn, rfl⟩
      obtain ⟨hn, hsupplied⟩ := List.mem_filter.mp hn
      obtain ⟨hrequired, hunset⟩ := List.mem_filter.mp hn
      have hn := isText_of_mem_required hnames hrequired
      rw [Bool.not_eq_true', Bool.eq_false_iff, Ne, any_beq_iff hn, List.mem_append, not_or]
        at hsupplied
      rw [Bool.not_eq_true', Bool.eq_false_iff, Ne, contains_iff_of_text _ hn] at hunset
      exact ⟨hon, ⟨hrequired, hunset, hsupplied.2, hsupplied.1⟩, rfl⟩
    · rintro ⟨-, hwanting, hm⟩
      have hn := isText_of_mem_required hnames hwanting.required
      refine ⟨m.name, List.mem_filter.mpr ⟨List.mem_filter.mpr ⟨hwanting.required, ?_⟩, ?_⟩,
        hm.symm⟩
      · rw [Bool.not_eq_true', Bool.eq_false_iff, Ne, contains_iff_of_text _ hn]
        exact hwanting.unset
      · rw [Bool.not_eq_true', Bool.eq_false_iff, Ne, any_beq_iff hn, List.mem_append, not_or]
        exact ⟨hwanting.unprovided, hwanting.unversioned⟩
  · next hoff =>
    constructor
    · intro h
      cases h
    · rintro ⟨hon, -⟩
      exact absurd hon hoff

/-- The values of a cluster that no version entry declares, and none of these comparisons finds
declared. -/
theorem unusedOf_eq (t : Template) (s : Selection) (fits : List Fit) :
    unusedOf t s fits = s.values.keys.filter fun n =>
      (fits.all fun f => f.unused.any (n == ·)) && !t.versions.any fun v => n == v.name := by
  have hfold : ∀ (fits : List Fit) (free : List Value),
      fits.foldl (fun acc f => acc.filter fun n => f.unused.any (n == ·)) free =
        free.filter fun n => fits.all fun f => f.unused.any (n == ·) := by
    intro fits
    induction fits with
    | nil =>
      intro free
      exact (List.filter_eq_self.mpr fun _ _ => rfl).symm
    | cons f fits ih =>
      intro free
      rw [List.foldl_cons, ih, List.filter_filter]
      simp only [List.all_cons, Bool.and_comm]
  rw [unusedOf, hfold, List.filter_filter]

/-- The values that no variable of a template takes are values of the cluster, in their order. -/
theorem unusedOf_sublist (t : Template) (s : Selection) (fits : List Fit) :
    (unusedOf t s fits).Sublist s.values.keys := by
  rw [unusedOf_eq]
  exact List.filter_sublist

/-- Texts are put in ascending order. -/
theorem exists_sorted {vs : List Value} (h : ∀ v ∈ vs, v.IsText) :
    ∃ names : List String, sorted vs = .ok (names.map .str) ∧ (names.map Value.str).Perm vs ∧
      names.Pairwise fun a b => Text.inOrder a b := by
  obtain ⟨names, rfl⟩ := Value.exists_texts h
  obtain ⟨row, hrow, hperm, hsorted⟩ := Value.exists_sorted_texts names
  refine ⟨row, ?_, hperm.map _, hsorted⟩
  rw [sorted, hrow]
  rfl

/-- The missing values of a template are those of its kustomizations, if all names are texts. -/
theorem exists_ofTemplate (h : TextNames cluster templates) (ht : t ∈ templates)
    (hsel : cluster.selection? (.str t.name) = some s) :
    ∃ report, ofTemplate cluster t = .ok report ∧
      report.missing = t.kustomizations.flatMap (missingUnder cluster t s) := by
  have hnames : ∀ ks ∈ t.kustomizations, ∀ sub ∈ ks.substitutions, sub.name.IsText :=
    fun ks hks => h.names (t, ks) (mem_declared.mpr ⟨ht, hks⟩)
  have htypes : ∀ ks ∈ t.kustomizations, ∀ sub ∈ ks.substitutions, ∃ k, sub.type.asKey = .ok k :=
    fun ks hks => h.types (t, ks) (mem_declared.mpr ⟨ht, hks⟩)
  have hfits := fits_of_texts hnames s.values
  have hmissing : ((t.kustomizations.zip (t.kustomizations.map (fitting s.values))).flatMap
      fun e =>
        if (e.1.enabledUnder (some s)).truthy then missingOf cluster t e.1 e.2.missing else []) =
      t.kustomizations.flatMap (missingUnder cluster t s) := by
    rw [List.zip_eq_zipWith, List.zipWith_map_right, List.zipWith_self, List.flatMap_map]
    rfl
  have htexts : ∀ n ∈ unusedOf t s (t.kustomizations.map (fitting s.values)), n.IsText :=
    fun n hn => h.values s (List.mem_of_find?_eq_some hsel) n ((unusedOf_sublist t s _).subset hn)
  obtain ⟨unused, hunused, -⟩ := exists_sorted htexts
  rw [ofTemplate, hsel]
  refine ⟨_, bind_eq_ok.mpr ⟨⟨⟩, forIn_of_checks fun v hv => ?_, bind_eq_ok.mpr ⟨⟨⟩,
    forIn_of_checks fun ks hks => ?_, bind_eq_ok.mpr ⟨_, hfits, bind_eq_ok.mpr ⟨⟨⟩,
    forIn_of_checks fun m hm => ?_, bind_eq_ok.mpr ⟨_, hunused, rfl⟩⟩⟩⟩⟩, hmissing⟩
  -- the names of versions, those of variables with their types, and those that are missing
  · obtain ⟨name, hname⟩ := h.versions t ht v hv
    rw [hname]
    rfl
  · refine bind_eq_ok.mpr ⟨⟨⟩, forIn_of_checks fun sub hsub => ?_, rfl⟩
    obtain ⟨name, hname⟩ := hnames ks hks sub hsub
    obtain ⟨type, htype⟩ := htypes ks hks sub hsub
    rw [hname, htype]
    rfl
  · obtain ⟨ks, hks, hm⟩ := List.mem_flatMap.mp (hmissing ▸ hm)
    obtain ⟨-, hwanting, -⟩ := (mem_missingUnder (hnames ks hks)).mp hm
    obtain ⟨name, hname⟩ := isText_of_mem_required (hnames ks hks) hwanting.required
    rw [hname]
    rfl

theorem ofTemplate_of_unselected (hsel : cluster.selection? (.str t.name) = none) :
    ofTemplate cluster t = .ok {} := by
  rw [ofTemplate, hsel]
  rfl

/-- The report of a cluster names what its kustomizations want, if all names are texts. -/
theorem exists_ofCluster (h : TextNames cluster templates) :
    ∃ report, ofCluster cluster templates = .ok report ∧ ∀ m, m ∈ report.missing ↔
      ∃ t ks s, Runs cluster templates t ks s ∧ Wanting t ks s m.name ∧
        m = { cluster := cluster.name, kustomization := ks.identity t.name, name := m.name } := by
  have hnames : ∀ t ∈ templates, ∀ ks ∈ t.kustomizations, ∀ sub ∈ ks.substitutions,
      sub.name.IsText := fun t ht ks hks => h.names (t, ks) (mem_declared.mpr ⟨ht, hks⟩)
  obtain ⟨reports, hreports⟩ : ∃ reports, templates.mapM (ofTemplate cluster) = .ok reports := by
    refine exists_mapM_eq_ok fun t ht => ?_
    rcases hsel : cluster.selection? (.str t.name) with _ | s
    · exact ⟨_, ofTemplate_of_unselected hsel⟩
    · obtain ⟨report, hreport, -⟩ := exists_ofTemplate h ht hsel
      exact ⟨report, hreport⟩
  refine ⟨_, bind_eq_ok.mpr ⟨reports, hreports, rfl⟩, fun m => ?_⟩
  rw [List.mem_flatMap]
  constructor
  · rintro ⟨report, hreport, hm⟩
    obtain ⟨t, ht, hof⟩ := (mem_iff_of_mapM_eq_ok hreports).mp hreport
    rcases hsel : cluster.selection? (.str t.name) with _ | s
    · rw [ofTemplate_of_unselected hsel] at hof
      cases hof
      cases hm
    · obtain ⟨report', hof', hmissing⟩ := exists_ofTemplate h ht hsel
      obtain rfl : report' = report := Except.ok.inj (hof'.symm.trans hof)
      rw [hmissing, List.mem_flatMap] at hm
      obtain ⟨ks, hks, hm⟩ := hm
      obtain ⟨hon, hwanting, hm⟩ := (mem_missingUnder (hnames t ht ks hks)).mp hm
      exact ⟨t, ks, s, ⟨mem_declared.mpr ⟨ht, hks⟩, hsel, hon⟩, hwanting, hm⟩
  · rintro ⟨t, ks, s, hruns, hwanting, hm⟩
    obtain ⟨ht, hks⟩ := mem_declared.mp hruns.declared
    obtain ⟨report, hof, hmissing⟩ := exists_ofTemplate h ht hruns.selected
    refine ⟨report, (mem_iff_of_mapM_eq_ok hreports).mpr ⟨t, ht, hof⟩, ?_⟩
    rw [hmissing, List.mem_flatMap]
    exact ⟨ks, hks, (mem_missingUnder (hnames t ht ks hks)).mpr ⟨hruns.enabled, hwanting, hm⟩⟩

/-! ## The resolver -/

/-- A kustomization is resolved if all names are texts. -/
theorem exists_resolve (hversions : ∀ v ∈ t.versions, v.name.IsText)
    (hnames : ∀ sub ∈ ks.substitutions, sub.name.IsText) :
    ∃ r, resolve t ks (some s) = .ok r :=
  exists_resolve_of_keyed (fun v hv => (hversions v hv).exists_asKey)
    fun sub hsub => (hnames sub hsub).exists_asKey

/-- Nothing is resolved for a variable exactly if the cluster sets no value for it, no variable and
no version entry of its name has a default, and it does not hold the target namespace. -/
theorem get?_values_eq_none_iff {r : Resolved} (h : resolve t ks (some s) = .ok r) (hn : n.IsText)
    (hdeclared : ∃ sub ∈ ks.substitutions, sub.name = n) :
    r.values.get? n = none ↔ n ∉ s.values.keys ∧
      (∀ sub ∈ ks.substitutions, sub.name = n → sub.fallback = none) ∧
      (∀ v ∈ t.versions, v.name = n → v.fallback = none) ∧ n ≠ namespaceVariable := by
  have hany : (Resolution.declarations t ks).any (·.1 == n) = true := by
    obtain ⟨sub, hsub, rfl⟩ := hdeclared
    exact List.any_eq_true.mpr
      ⟨_, List.mem_append_right _ (List.mem_map_of_mem hsub), hn.steady.refl⟩
  have hset : s.values.get? n = none ↔ n ∉ s.values.keys := by
    rw [← contains_iff_of_text _ hn, OrderedMap.contains, Option.isSome_iff_ne_none, not_not]
  have hspace : namespaceTier ks n = none ↔ n ≠ namespaceVariable := by
    rw [namespaceTier, Ne, eq_comm (a := n), ← hn.beq_iff', ite_eq_right_iff]
    exact imp_congr_right fun _ => iff_of_false (Option.some_ne_none _) id
  rw [get?_values h, Option.or_eq_none_iff, Option.map_eq_none_iff, Option.or_eq_none_iff,
    Option.or_eq_none_iff, clusterTier, if_pos hany, hset, hspace, ownTier, versionTier,
    lastDefault_eq_none_iff, lastDefault_eq_none_iff, and_assoc, and_assoc]
  simp only [List.forall_mem_map, hn.beq_iff']

/-! ## Check and resolver -/

/-- A variable that no provider supplies is a core variable. -/
theorem isCore_of_not_mem_provided (hks : ks ∈ t.kustomizations) {sub : Substitution}
    (hsub : sub ∈ ks.substitutions) (h : sub.name ∉ provided t) : sub.isCore = true := by
  by_contra hcore
  refine h (List.mem_flatMap.mpr ⟨ks, hks, List.mem_map_of_mem (List.mem_filter.mpr ⟨hsub, ?_⟩)⟩)
  rw [Bool.not_eq_true', Bool.eq_false_iff]
  exact hcore

theorem mem_required_iff :
    n ∈ required ks ↔ ∃ sub ∈ ks.substitutions, sub.fallback = none ∧ sub.name = n := by
  rw [required, List.mem_map]
  simp only [List.mem_filter, Option.isNone_iff_eq_none, and_assoc]

section Comparison

variable (hks : ks ∈ t.kustomizations) (hversions : ∀ v ∈ t.versions, v.name.IsText)
  (hnames : ∀ sub ∈ ks.substitutions, sub.name.IsText)

include hks hversions hnames

/-- What the check finds missing has no value, unless it is the variable of the target namespace or
another declaration of it has a default. -/
theorem valueless_of_wanting (h : Wanting t ks s n) (hunreserved : n ≠ namespaceVariable)
    (huniform : ∀ sub ∈ ks.substitutions, sub.name = n → sub.fallback = none) :
    Valueless t ks s n := by
  obtain ⟨sub, hsub, -, rfl⟩ := mem_required_iff.mp h.required
  obtain ⟨r, hr⟩ := @exists_resolve t ks s hversions hnames
  refine ⟨⟨sub, hsub, isCore_of_not_mem_provided hks hsub h.unprovided, rfl⟩, r, hr, ?_⟩
  refine (get?_values_eq_none_iff hr (hnames sub hsub) ⟨sub, hsub, rfl⟩).mpr
    ⟨h.unset, huniform, fun v hv hname => ?_, hunreserved⟩
  exact absurd (List.mem_map.mpr ⟨v, hv, hname⟩) h.unversioned

omit hks hversions in
/-- What has no value is found missing, unless a version entry or a provided variable has its
name. -/
theorem wanting_of_valueless (h : Valueless t ks s n)
    (hpinned : ∀ v ∈ t.versions, v.name = n → v.fallback ≠ none) (hunprovided : n ∉ provided t) :
    Wanting t ks s n := by
  obtain ⟨⟨sub, hsub, -, rfl⟩, r, hr, hnone⟩ := h
  obtain ⟨hunset, hdefaults, hversioned, -⟩ :=
    (get?_values_eq_none_iff hr (hnames sub hsub) ⟨sub, hsub, rfl⟩).mp hnone
  refine ⟨mem_required_iff.mpr ⟨sub, hsub, hdefaults sub hsub rfl, rfl⟩, hunset, ?_, hunprovided⟩
  intro hmem
  obtain ⟨v, hv, hname⟩ := List.mem_map.mp hmem
  exact hpinned v hv hname (hversioned v hv hname)

/-- A name that is declared in one way is found missing exactly if it has no value. -/
theorem wanting_iff_valueless (h : Unambiguous t ks n) :
    Wanting t ks s n ↔ Valueless t ks s n :=
  ⟨fun hwanting => valueless_of_wanting hks hversions hnames hwanting h.unreserved
      (h.uniform hwanting.required),
    fun hvalueless => wanting_of_valueless hnames hvalueless h.pinned h.unprovided⟩

end Comparison

/-- **The report of missing values.** If names are texts, a cluster has a report, and it names what
the deployed kustomizations want. If each core variable that they declare is declared in one way,
these are exactly the variables for which the resolver has no value, and an empty report means that
it has one for every core variable of every deployed kustomization. -/
theorem missing_iff_valueless (h : TextNames cluster templates) :
    ∃ report, ofCluster cluster templates = .ok report ∧
      (∀ m, m ∈ report.missing ↔ ∃ t ks s, Runs cluster templates t ks s ∧ Wanting t ks s m.name ∧
        m = { cluster := cluster.name, kustomization := ks.identity t.name, name := m.name }) ∧
      (∀ t ks s n, Runs cluster templates t ks s → Unambiguous t ks n →
        (Wanting t ks s n ↔ Valueless t ks s n)) ∧
      ((∀ t ks s, Runs cluster templates t ks s → ∀ sub ∈ ks.substitutions, sub.isCore = true →
          Unambiguous t ks sub.name) →
        (∀ m, m ∈ report.missing ↔ ∃ t ks s, Runs cluster templates t ks s ∧
          Valueless t ks s m.name ∧
          m = { cluster := cluster.name, kustomization := ks.identity t.name, name := m.name }) ∧
        (report.missing = [] → ∀ t ks s, Runs cluster templates t ks s →
          ∀ sub ∈ ks.substitutions, sub.isCore = true →
            ∃ r v, resolve t ks (some s) = .ok r ∧ r.values.get? sub.name = some v)) := by
  have hagree : ∀ t ks s n, Runs cluster templates t ks s → Unambiguous t ks n →
      (Wanting t ks s n ↔ Valueless t ks s n) := by
    intro t ks s n hruns hn
    obtain ⟨ht, hks⟩ := mem_declared.mp hruns.declared
    exact wanting_iff_valueless hks (h.versions t ht) (h.names _ hruns.declared) hn
  obtain ⟨report, hreport, hmissing⟩ := exists_ofCluster h
  refine ⟨report, hreport, hmissing, hagree, fun hunambiguous => ?_⟩
  have hvalueless : ∀ m, m ∈ report.missing ↔ ∃ t ks s, Runs cluster templates t ks s ∧
      Valueless t ks s m.name ∧
      m = { cluster := cluster.name, kustomization := ks.identity t.name, name := m.name } := by
    intro m
    rw [hmissing]
    constructor
    · rintro ⟨t, ks, s, hruns, hwanting, hm⟩
      obtain ⟨sub, hsub, -, hname⟩ := mem_required_iff.mp hwanting.required
      obtain ⟨-, hks⟩ := mem_declared.mp hruns.declared
      have hcore := isCore_of_not_mem_provided hks hsub (hname ▸ hwanting.unprovided)
      have hone := hunambiguous t ks s hruns sub hsub hcore
      exact ⟨t, ks, s, hruns, (hagree t ks s _ hruns (hname ▸ hone)).mp hwanting, hm⟩
    · rintro ⟨t, ks, s, hruns, hvalueless, hm⟩
      obtain ⟨sub, hsub, hcore, hname⟩ := hvalueless.core
      have hone := hunambiguous t ks s hruns sub hsub hcore
      exact ⟨t, ks, s, hruns, (hagree t ks s _ hruns (hname ▸ hone)).mpr hvalueless, hm⟩
  refine ⟨hvalueless, fun hempty t ks s hruns sub hsub hcore => ?_⟩
  obtain ⟨ht, -⟩ := mem_declared.mp hruns.declared
  obtain ⟨r, hr⟩ := @exists_resolve t ks s (h.versions t ht) (h.names _ hruns.declared)
  rcases hvalue : r.values.get? sub.name with _ | v
  · have hmem := (hvalueless
      { cluster := cluster.name, kustomization := ks.identity t.name, name := sub.name }).mpr
      ⟨t, ks, s, hruns, ⟨⟨sub, hsub, hcore, rfl⟩, r, hr, hvalue⟩, rfl⟩
    rw [hempty] at hmem
    cases hmem
  · exact ⟨r, v, hr, hvalue⟩

/-! ## A server with variables -/

/-- A variable of the core type. -/
def plainVariable (name : String) (fallback : Option String) : Substitution :=
  { name, fallback, kind := .generic .null .null }

/-- The document of a template whose `server` has the given variables. It has a version entry `tag`
without a default and a second kustomization, whose variable `token` a provider supplies. -/
def serviceDocument (subs : List Substitution) : Value :=
  .record [("apiVersion", "kustodian.io/v1"), ("kind", "Template"),
    ("metadata", .record [("name", "app")]),
    ("spec", .record [
      ("versions", .ofList [
        .record [("name", "tag"), ("registry", .record [("image", "web")])]]),
      ("kustomizations", .ofList [
        .record [("name", "server"), ("path", "./server"),
          ("substitutions", .ofList (subs.map (·.summary)))],
        .record [("name", "worker"), ("path", "./worker"), ("substitutions", .ofList [
          .record [("name", "token"), ("type", "doppler"), ("secret", "T")]])]])])]

/-- The server of that document. -/
def server (subs : List Substitution) : Kustomization :=
  { Kustomization.bare "server" [] with substitutions := subs }

/-- The kustomization beside the server. -/
def worker : Kustomization :=
  { Kustomization.bare "worker" [] with
    substitutions := [{ name := "token", fallback := none, kind := .doppler "T" .null .null }] }

/-- The template of that document. -/
def service (subs : List Substitution) : Template :=
  { name := "app", kustomizations := [server subs, worker]
    versions := [⟨"tag", none, .null, .null, .null, .image ⟨"web", .null⟩⟩] }

/-- The document of a cluster that deploys the template without values. -/
def prodDocument : Value :=
  .record [("apiVersion", "kustodian.io/v1"), ("kind", "Cluster"),
    ("metadata", .record [("name", "prod")]),
    ("spec", .record [("git", .record [("owner", "example"), ("repository", "fleet")]),
      ("templates", .ofList [.record [("name", "app")]])])]

/-- The cluster of that document. -/
def prod : Cluster :=
  { name := "prod", git := some { owner := "example", repository := "fleet" },
    selections := [{ name := "app" }] }

/-- Variables that are declared once. -/
def single : List Substitution :=
  [plainVariable "domain" none, plainVariable "replicas" (some "1")]

/-- Variables that share their name with a version entry, a provided variable, the variable of the
target namespace, and one another. -/
def doubled : List Substitution :=
  [plainVariable "tag" none, plainVariable "token" none, plainVariable "namespace" none,
    plainVariable "port" none, plainVariable "port" (some "80")]

/-- Of two variables that are declared once, the one without a default is reported. -/
theorem domain_reported :
    TextNames prod [service single] ∧
    Runs prod [service single] (service single) (server single) { name := "app" } ∧
    (∀ sub ∈ single, Unambiguous (service single) (server single) sub.name) ∧
    ∃ report, ofCluster prod [service single] = .ok report ∧
      Valueless (service single) (server single) { name := "app" } "domain" ∧
      ∃ m ∈ report.missing,
        m.message = "Cluster 'prod': kustomization 'app-server' requires a value for 'domain'" := by
  have hdeclared : ∀ d ∈ declared [service single],
      d = (service single, server single) ∨ d = (service single, worker) := by
    intro d hd
    exact List.mem_pair.mp hd
  have htexts : TextNames prod [service single] := by
    refine ⟨fun t ht v hv => ?_, fun d hd sub hsub => ?_, fun d hd sub hsub => ?_,
      fun s hs n hn => ?_⟩
    · obtain rfl := List.mem_singleton.mp ht
      obtain rfl := List.mem_singleton.mp hv
      exact ⟨"tag", rfl⟩
    · rcases hdeclared d hd with rfl | rfl
      · rcases List.mem_pair.mp hsub with rfl | rfl
        · exact ⟨_, rfl⟩
        · exact ⟨_, rfl⟩
      · obtain rfl := List.mem_singleton.mp hsub
        exact ⟨_, rfl⟩
    · rcases hdeclared d hd with rfl | rfl
      · rcases List.mem_pair.mp hsub with rfl | rfl
        · exact ⟨_, rfl⟩
        · exact ⟨_, rfl⟩
      · obtain rfl := List.mem_singleton.mp hsub
        exact ⟨_, rfl⟩
    · obtain rfl := List.mem_singleton.mp hs
      cases hn
  have hruns : Runs prod [service single] (service single) (server single) { name := "app" } :=
    ⟨List.mem_cons_self, rfl, rfl⟩
  have hprovided : provided (service single) = [.str "token"] := rfl
  have hone : ∀ sub ∈ single, Unambiguous (service single) (server single) sub.name := by
    intro sub hsub
    rcases List.mem_pair.mp hsub with rfl | rfl
    · refine ⟨?_, by simp [hprovided, plainVariable], ?_, ?_⟩ <;>
        simp [service, server, single, plainVariable, namespaceVariable]
    · refine ⟨?_, by simp [hprovided, plainVariable], ?_, ?_⟩ <;>
        simp [service, server, single, plainVariable, namespaceVariable, required]
  obtain ⟨report, hreport, hmissing, hagree, -⟩ := missing_iff_valueless htexts
  have hwanting : Wanting (service single) (server single) { name := "app" } "domain" := by
    refine ⟨List.mem_cons_self, ?_, ?_, (hone _ List.mem_cons_self).unprovided⟩
    · intro h
      cases h
    · simp [service]
  have hvalueless := (hagree _ _ _ _ hruns (hone _ List.mem_cons_self)).mp hwanting
  exact ⟨htexts, hruns, hone, report, hreport, hvalueless, _,
    (hmissing ⟨_, _, _⟩).mpr ⟨_, _, _, hruns, hwanting, rfl⟩, rfl⟩

/-- **Missing values that are not reported, and values that are.** The variables `tag` and `token`
of the server have no value, and `namespace` and `port` have one. The report names the latter. -/
theorem doubled_names_misreported :
    Template.ofDocument (serviceDocument doubled) = .ok (service doubled) ∧
    Cluster.ofDocument prodDocument = .ok prod ∧
    ∃ report r, ofCluster prod [service doubled] = .ok report ∧
      report.missing.map (·.message) =
        ["Cluster 'prod': kustomization 'app-server' requires a value for 'namespace'",
          "Cluster 'prod': kustomization 'app-server' requires a value for 'port'"] ∧
      resolve (service doubled) (server doubled) (prod.selection? "app") = .ok r ∧
      (["tag", "token", "namespace", "port"].map fun n => r.values.get? (.str n)) =
        [none, none, some (.str "default"), some (.str "80")] :=
  ⟨rfl, rfl, _, _, rfl, rfl, rfl, rfl⟩

end Checks

end FluxFleet
