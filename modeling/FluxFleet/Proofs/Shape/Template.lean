import FluxFleet.Model.Template
import FluxFleet.Proofs.Reading
import FluxFleet.Proofs.Value.Key

/-!
# The shape of a template document

What the reader of a template takes for granted of its document (`Template.Shaped`), part by part:
what is asked for fields is a mapping, what is gone through has items, and what is asked how it
starts is a text. Whatever else is wrong with a document is found and named
(`Template.reading`).
-/

namespace FluxFleet

open InputFault (values)

/-- Only a text can be asked how it starts. -/
theorem Reading.startsWith {α : Type} {escapes : List ErrorFamily} {W S : Prop} {v : Value}
    {start : String} {f : Bool → Except Error α} (hattribute : .attribute ∈ escapes)
    (htype : .type ∈ escapes) (h : ∀ b, Reading escapes W S (f b)) :
    Reading escapes W (v.IsText ∧ S) (v.startsWith start >>= f) := by
  have hmisused : ∀ e : Error, e.family ∈ escapes → ¬ v.IsText →
      Reading escapes W (v.IsText ∧ S) (Except.error e : Except Error α) :=
    fun e he hv => .misused he fun h => hv h.1
  cases v with
  | str s => exact (h _).congr ⟨fun h => ⟨⟨s, rfl⟩, h⟩, And.right⟩
  | bytes bs => exact hmisused _ htype (by rintro ⟨s, hs⟩; cases hs)
  | _ => exact hmisused _ hattribute (by rintro ⟨s, hs⟩; cases hs)

/-! ## Sources of versions -/

theorem ImageSource.reading (doc : Value) :
    Reading [.attribute, .type] (doc.isWritable = true) (doc.isDict = true)
      (ImageSource.ofDocument doc) := by
  rw [ofDocument]
  refine .field (by decide) id fun hdoc => ?_
  refine .check (by simp [values, Subject.values]) fun _ => ?_
  exact .part hdoc (.accepted _ hdoc)

/-- The address of a registry is a text. -/
structure ChartSource.Shaped (doc : Value) : Prop where
  mapping : doc.isDict = true
  oci : (doc.part "oci").isNull = false → (doc.part "oci").IsText

theorem ChartSource.reading (doc : Value) :
    Reading [.attribute, .type] (doc.isWritable = true) (Shaped doc)
      (ChartSource.ofDocument doc) := by
  rw [ofDocument]
  refine .field (by decide) Shaped.mapping fun hdoc => ?_
  refine .check (by simp [values, Subject.values]) fun _ => ?_
  refine .part hdoc (.part hdoc ?_)
  refine .check (by simp [values, Subject.values]) fun _ => ?_
  dsimp only
  split
  · next hoci =>
    rw [Bool.not_eq_true'] at hoci
    refine (Reading.startsWith (by decide) (by decide) fun b => ?_).congr
      ⟨fun h => ⟨hdoc, fun _ => h.1⟩, fun h => ⟨h.oci hoci, trivial⟩⟩
    exact .check (by simp [values]) fun _ => .accepted _ trivial
  · next hoci =>
    rw [Bool.not_eq_true', Bool.not_eq_false] at hoci
    exact .accepted _ ⟨hdoc, fun h => by simp [hoci] at h⟩

/-- The one source that a version entry has is shaped as such a source. -/
structure VersionEntry.Shaped (doc : Value) : Prop where
  mapping : doc.isDict = true
  registry : (doc.part "registry").isNull = false → (doc.part "helm").isNull = true →
    (doc.part "registry").isDict = true
  helm : (doc.part "helm").isNull = false → (doc.part "registry").isNull = true →
    ChartSource.Shaped (doc.part "helm")

theorem VersionEntry.reading (doc : Value) :
    Reading [.attribute, .type] (doc.isWritable = true) (Shaped doc)
      (VersionEntry.ofDocument doc) := by
  rw [ofDocument]
  refine .field (by decide) Shaped.mapping fun hdoc => ?_
  refine .check (by simp [values, Subject.values]) fun _ => ?_
  refine .part hdoc (.part hdoc ?_)
  refine .check (fun hW => by simp [values, Subject.values, hW, Value.isWritable_part hW])
    fun hone => ?_
  refine .andThen (.optionalText hdoc id) fun _ _ => ?_
  refine .part hdoc (.part hdoc (.part hdoc ?_))
  split
  · next hregistry =>
    have hhelm : (doc.part "helm").isNull = false := by simpa [hregistry] using hone
    have hchart := (ChartSource.reading (doc.part "helm")).ofPart fun hW =>
      Value.isWritable_part hW "helm"
    refine ((hchart.map VersionSource.chart).bind fun _ _ => .accepted _ trivial).congr
      ⟨fun h => ⟨hdoc, fun h' => ?_, fun _ _ => h.1⟩, fun h => ⟨h.helm hhelm hregistry, trivial⟩⟩
    rw [hregistry] at h'
    cases h'
  · next hregistry =>
    rw [Bool.not_eq_true] at hregistry
    have hhelm : (doc.part "helm").isNull = true := by simpa [hregistry] using hone
    have himage := (ImageSource.reading (doc.part "registry")).ofPart fun hW =>
      Value.isWritable_part hW "registry"
    refine ((himage.map VersionSource.image).bind fun _ _ => .accepted _ trivial).congr
      ⟨fun h => ⟨hdoc, fun _ _ => h.1, fun h' => ?_⟩,
        fun h => ⟨h.registry hregistry hhelm, trivial⟩⟩
    rw [hhelm] at h'
    cases h'

/-! ## Variables -/

/-- The type of a declared variable; without one it is generic. -/
def Substitution.typeOf (doc : Value) : Value := (doc.part "type").orElse "generic"

/-- A variable that is a version, or a version of a chart, has a source that is shaped so, if it has
any. -/
structure Substitution.Shaped (doc : Value) : Prop where
  mapping : doc.isDict = true
  registry : typeOf doc = "version" → (doc.part "registry").truthy = true →
    (doc.part "registry").isDict = true
  helm : typeOf doc = "helm" → (doc.part "helm").truthy = true →
    ChartSource.Shaped (doc.part "helm")

/-- A source is read if it counts as given. -/
theorem Substitution.reading_givenSource {α : Type} {P : Value → Prop} {doc : Value}
    {read : Value → Except Error α}
    (hread : ∀ v, Reading [.attribute, .type] (v.isWritable = true) (P v) (read v))
    (hdoc : doc.isDict = true) (key : String) :
    Reading [.attribute, .type] (doc.isWritable = true)
      ((doc.part key).truthy = true → P (doc.part key)) (givenSource doc key read) := by
  rw [givenSource]
  refine .part hdoc ?_
  split
  · next hgiven =>
    exact (((hread _).ofPart fun hW => Value.isWritable_part hW key).map some).congr
      ⟨fun h _ => h, fun h => h hgiven⟩
  · next hgiven => exact .accepted none fun h => absurd h hgiven

/-- Which parts of a declaration its type asks for. -/
theorem Substitution.reading_kind {name doc : Value} (type : Value) (hdoc : doc.isDict = true)
    (hname : doc.isWritable = true → name.isWritable = true) :
    Reading [.attribute, .type] (doc.isWritable = true)
      ((type = "version" → (doc.part "registry").truthy = true →
          (doc.part "registry").isDict = true) ∧
        (type = "helm" → (doc.part "helm").truthy = true → ChartSource.Shaped (doc.part "helm")))
      (kindOfDocument type name doc) := by
  unfold kindOfDocument
  split
  · exact .part hdoc (.part hdoc (.accepted _ (by simp)))
  · refine ((reading_givenSource ImageSource.reading hdoc "registry").bind fun _ _ => ?_).congr
      ⟨fun h => ⟨fun _ => h.1, by simp⟩, fun h => ⟨h.1 rfl, trivial⟩⟩
    exact .part hdoc (.part hdoc (.part hdoc (.accepted _ trivial)))
  · refine ((reading_givenSource ChartSource.reading hdoc "helm").bind fun _ _ => ?_).congr
      ⟨fun h => ⟨by simp, fun _ => h.1⟩, fun h => ⟨h.2 rfl, trivial⟩⟩
    exact .part hdoc (.part hdoc (.part hdoc (.accepted _ trivial)))
  · exact .accepted _ (by simp)
  · refine .part hdoc (.part hdoc (.part hdoc (.check ?_ fun _ => ?_)))
    · exact fun hW => by simp [values, Subject.values, hW, hname hW]
    · exact .part hdoc (.accepted _ (by simp))
  · refine .part hdoc (.check ?_ fun _ => ?_)
    · exact fun hW => by simp [values, Subject.values, hW, hname hW]
    · exact .part hdoc (.part hdoc (.accepted _ (by simp)))
  · next hversion hhelm _ _ _ =>
    exact .accepted _ ⟨fun h => (hversion h).elim, fun h => (hhelm h).elim⟩

theorem Substitution.reading (doc : Value) :
    Reading [.attribute, .type] (doc.isWritable = true) (Shaped doc)
      (Substitution.ofDocument doc) := by
  rw [ofDocument]
  refine .field (by decide) Shaped.mapping fun hdoc => ?_
  refine .check (by simp [values, Subject.values]) fun _ => ?_
  refine .part hdoc (.andThen (.optionalText hdoc id) fun _ _ => ?_)
  refine ((reading_kind (typeOf doc) hdoc fun hW => Value.isWritable_part hW "name").bind
    fun _ _ => .accepted _ trivial).congr ?_
  exact ⟨fun h => ⟨hdoc, h.1.1, h.1.2⟩, fun h => ⟨⟨h.registry, h.helm⟩, trivial⟩⟩

/-! ## Kustomizations -/

theorem Preservation.reading {escapes : List ErrorFamily} (hescapes : .attribute ∈ escapes)
    (doc : Value) :
    Reading escapes (doc.isWritable = true) (doc.isDict = true)
      (Preservation.ofDocument doc) := by
  rw [ofDocument]
  by_cases hdoc : doc.isDict = true
  · refine .fieldOr hdoc rfl fun mode hmode => ?_
    split
    · exact .part hdoc (.accepted _ hdoc)
    · exact .ofInput fun hW => by simp [values, hW, hmode hW]
  · rw [Value.fieldOr, Value.entries?_eq_none (Bool.eq_false_iff.mpr hdoc)]
    exact .misused hescapes hdoc

/-- A policy is read unless it is absent. -/
theorem Preservation.reading_given {α : Type} {escapes : List ErrorFamily} {W S : Prop}
    (hescapes : .attribute ∈ escapes) {policy : Value} (hW : W → policy.isWritable = true)
    {f : Option Preservation → Except Error α} (h : ∀ p, Reading escapes W S (f p)) :
    Reading escapes W ((policy.isNull = false → policy.isDict = true) ∧ S)
      (if policy.isNull = true then Pure.pure none >>= f
        else some <$> Preservation.ofDocument policy >>= f) := by
  split
  · next hnull => exact (h none).congr ⟨fun h => ⟨fun h' => by simp [hnull] at h', h⟩, And.right⟩
  · next hgiven =>
    rw [Bool.not_eq_true] at hgiven
    exact ((((reading hescapes policy).ofPart hW).map some).bind fun p _ => h p).congr
      ⟨fun h => ⟨fun _ => h.1, h.2⟩, fun h => ⟨h.1 hgiven, h.2⟩⟩

namespace Kustomization

/-- What is gone through has items, and each of the nested documents has its shape. -/
structure Shaped (doc : Value) : Prop where
  mapping : doc.isDict = true
  dependsOn : (doc.part "depends_on").Row fun _ => True
  healthChecks : (doc.part "health_checks").Row fun check => check.isDict = true
  healthExpressions : (doc.part "health_check_exprs").Row fun expr => expr.isDict = true
  preservation : (doc.part "preservation").isNull = false →
    (doc.part "preservation").isDict = true
  substitutions : (doc.part "substitutions").Row Substitution.Shaped

variable {escapes : List ErrorFamily} {W : Prop} {name doc : Value}

theorem reading_target (hdoc : doc.isDict = true) (hname : W → name.isWritable = true)
    (hW : W → doc.isWritable = true) :
    Reading escapes W True (targetOfDocument name doc) := by
  rw [targetOfDocument]
  refine .part hdoc ?_
  dsimp only
  split
  · exact .accepted none trivial
  · have hcheck : W → ∀ v ∈ values (.missing (subject name "namespace") "default" doc),
        v.isWritable = true :=
      fun h => by simp [values, subject, Subject.values, hname h, hW h]
    split
    · next hns =>
      refine .part hns (.check hcheck fun _ => ?_)
      exact .fieldOr hns rfl fun create _ => .accepted _ trivial
    · rw [pure_bind]
      exact .check hcheck fun h => by cases h

theorem reading_dependency (hname : W → name.isWritable = true) (dep : Value)
    (hW : W → dep.isWritable = true) :
    Reading escapes W True (dependencyOfDocument name dep) := by
  rw [dependencyOfDocument]
  split
  · split
    · exact .accepted _ trivial
    · split
      · exact .ofInput fun h => by simp [values, subject, Subject.values, hname h]
      · next hnot => exact .unwritable rfl fun h => hnot (hW h)
  · exact (Reading.written hW).map Dependency.written

theorem reading_healthCheck (hescapes : .attribute ∈ escapes) (hname : W → name.isWritable = true)
    (check : Value) (hW : W → check.isWritable = true) :
    Reading escapes W (check.isDict = true) (healthCheckOfDocument name check) := by
  rw [healthCheckOfDocument]
  refine .field hescapes id fun hcheck => .part hcheck (.check ?_ fun _ => ?_)
  · exact fun h => by simp [values, subject, Subject.values, hname h, hW h]
  · exact .part hcheck (.part hcheck (.accepted _ hcheck))

theorem reading_healthExpression (hescapes : .attribute ∈ escapes)
    (hname : W → name.isWritable = true) (expr : Value) (hW : W → expr.isWritable = true) :
    Reading escapes W (expr.isDict = true) (healthExpressionOfDocument name expr) := by
  rw [healthExpressionOfDocument]
  refine .field hescapes id fun hexpr => .part hexpr (.check ?_ fun _ => ?_)
  · exact fun h => by simp [values, subject, Subject.values, hname h, hW h]
  · exact .part hexpr (.part hexpr (.part hexpr (.accepted _ hexpr)))

theorem reading (doc : Value) :
    Reading [.attribute, .type] (doc.isWritable = true) (Shaped doc)
      (Kustomization.ofDocument doc) := by
  rw [ofDocument]
  refine .field (by decide) Shaped.mapping fun hdoc => ?_
  have hpart := fun (hW : doc.isWritable = true) key => Value.isWritable_part hW key
  refine .check (by simp [values, Subject.values]) fun _ => ?_
  refine .part hdoc (.check ?_ fun _ => ?_)
  · exact fun hW => by simp [values, subject, Subject.values, hW, hpart hW]
  have hname := fun hW => hpart hW "name"
  refine .andThen (reading_target hdoc hname id) fun target _ => ?_
  -- the parts are read one by one, each with a shape of its own
  refine .congr ?_ (S := (doc.part "depends_on").Row (fun _ => True) ∧
    (doc.part "health_checks").Row (fun check => check.isDict = true) ∧
    (doc.part "health_check_exprs").Row (fun expr => expr.isDict = true) ∧
    ((doc.part "preservation").isNull = false → (doc.part "preservation").isDict = true) ∧
    (doc.part "substitutions").Row Substitution.Shaped ∧ True)
    ⟨?_, fun h =>
      ⟨h.dependsOn, h.healthChecks, h.healthExpressions, h.preservation, h.substitutions, trivial⟩⟩
  rotate_left
  · rintro ⟨hdepends, hchecks, hexpressions, hpolicy, hsubstitutions, -⟩
    exact ⟨hdoc, hdepends, hchecks, hexpressions, hpolicy, hsubstitutions⟩
  refine .part hdoc (.row (by decide) (hpart · _) (reading_dependency hname) fun _ => ?_)
  refine .part hdoc (.row (by decide) (hpart · _) (reading_healthCheck (by decide) hname)
    fun _ => ?_)
  refine .part hdoc (.row (by decide) (hpart · _) (reading_healthExpression (by decide) hname)
    fun _ => ?_)
  refine .part hdoc (Preservation.reading_given (by decide) (hpart · _) fun _ => ?_)
  refine .part hdoc (.row (by decide) (hpart · _)
    (fun sub hW => (Substitution.reading sub).ofPart hW) fun _ => ?_)
  refine .fieldOr hdoc rfl fun _ _ => .fieldOr hdoc rfl fun _ _ => .part hdoc (.part hdoc ?_)
  exact .fieldOr hdoc rfl fun _ _ => .accepted _ trivial

end Kustomization

/-! ## Resources -/

/-- What is taken for granted of every resource document. -/
structure ResourceShaped (doc : Value) : Prop where
  mapping : doc.isDict = true
  apiVersion : (doc.part "apiVersion").truthy = true → (doc.part "apiVersion").IsText
  metadata : (doc.part "metadata").truthy = true → (doc.part "metadata").isDict = true
  spec : (doc.part "spec").truthy = true → (doc.part "spec").isDict = true

section Resource

variable {α : Type} {escapes : List ErrorFamily} {doc : Value} {S : Prop}

theorem reading_checkKind (hattribute : .attribute ∈ escapes) (htype : .type ∈ escapes)
    (kind : String) :
    Reading escapes (doc.isWritable = true)
      (doc.isDict = true ∧
        ((doc.part "apiVersion").truthy = true → (doc.part "apiVersion").IsText))
      (checkKind doc kind) := by
  rw [checkKind]
  refine .field hattribute And.left fun hdoc => .check (by simp [values, Subject.values])
    fun hgiven => ?_
  rw [Bool.not_eq_false'] at hgiven
  refine (Reading.startsWith (S := True) hattribute htype fun b => ?_).congr
    ⟨fun h => ⟨hdoc, fun _ => h.1⟩, fun h => ⟨h.2 hgiven, trivial⟩⟩
  refine .check (by simp [values]) fun _ => .part hdoc ?_
  split
  · exact .ofInput (by simp [values])
  · exact .accepted _ trivial

theorem reading_resourceName (hattribute : .attribute ∈ escapes) (hdoc : doc.isDict = true)
    (kind : String) :
    Reading escapes (doc.isWritable = true)
      ((doc.part "metadata").truthy = true → (doc.part "metadata").isDict = true)
      (resourceName kind doc) := by
  rw [resourceName]
  refine .part hdoc (.check (by simp [values, Subject.values]) fun hgiven => ?_)
  rw [Bool.not_eq_false'] at hgiven
  refine .field hattribute (fun h => h hgiven) fun hmetadata => ?_
  refine .check (by simp [values, Subject.values]) fun _ => ?_
  refine (Reading.written fun hW => ?_).congr ⟨fun _ _ => hmetadata, fun _ => trivial⟩
  exact Value.isWritable_part (Value.isWritable_part hW "metadata") "name"

/-- A resource is read by its specification, once its kind and its name are. -/
theorem reading_resource (hattribute : .attribute ∈ escapes) (htype : .type ∈ escapes)
    (kind : String) {f : String → Value → Except Error α}
    (h : ∀ name, doc.isDict = true →
      Reading escapes (doc.isWritable = true) ((doc.part "spec").isDict = true ∧ S)
        (f name (doc.part "spec"))) :
    Reading escapes (doc.isWritable = true) (ResourceShaped doc ∧ S) (do
      checkKind doc kind
      let name ← resourceName kind doc
      let spec ← resourceSpec kind doc
      f name spec) := by
  have hkind := @reading_checkKind escapes doc hattribute htype kind
  refine (hkind.bind fun _ hok => ?_).congr (T := ResourceShaped doc ∧ S)
    (S := _ ∧ ((doc.part "metadata").truthy = true → (doc.part "metadata").isDict = true) ∧
      ((doc.part "spec").truthy = true → (doc.part "spec").isDict = true) ∧ S) ?_
  · have hdoc := (hkind.shaped_of_eq_ok hok).1
    refine (reading_resourceName hattribute hdoc kind).bind fun name _ => ?_
    rw [resourceSpec, bind_assoc]
    refine .part hdoc ?_
    dsimp only
    split
    · exact .ofInput (by simp [values, Subject.values])
    · next hgiven =>
      rw [Bool.not_eq_true', Bool.not_eq_false] at hgiven
      exact (h name hdoc).congr (and_congr_left' ⟨fun h _ => h, fun h => h hgiven⟩)
  · constructor
    · rintro ⟨⟨hdoc, hversion⟩, hmetadata, hspec, h⟩
      exact ⟨⟨hdoc, hversion, hmetadata, hspec⟩, h⟩
    · rintro ⟨hresource, h⟩
      exact ⟨⟨hresource.mapping, hresource.apiVersion⟩, hresource.metadata, hresource.spec, h⟩

end Resource

/-- The name of a kustomization is the one in its document. -/
theorem Kustomization.name_of_ofDocument {doc : Value} {ks : Kustomization}
    (h : ofDocument doc = .ok ks) : ks.name = doc.part "name" := by
  have hdoc := ((reading doc).shaped_of_eq_ok h).mapping
  rw [ofDocument, Value.field_of_isDict hdoc, pure_bind] at h
  obtain ⟨path, -, h⟩ := bind_eq_ok.mp (bind_check_eq_ok.mp h).2
  replace h := (bind_check_eq_ok.mp h).2
  -- nothing that follows changes the name
  repeat obtain ⟨_, -, h⟩ := bind_eq_ok.mp h
  split at h
  all_goals
    repeat obtain ⟨_, -, h⟩ := bind_eq_ok.mp h
    cases h
    rfl

theorem Kustomization.names_of_mapM {docs : List Value} {row : List Kustomization}
    (h : docs.mapM ofDocument = .ok row) :
    row.map (·.name) = docs.map fun doc => doc.part "name" := by
  have hall := (mapM_eq_ok_iff.mp h).imp fun _ _ => name_of_ofDocument
  clear h
  induction hall with
  | nil => rfl
  | cons hname _ ih => rw [List.map_cons, List.map_cons, hname, ih]

namespace Template

/-- What is gone through has items, each of the nested documents has its shape, and each name of a
kustomization can be a key. -/
structure Shaped (doc : Value) : Prop extends ResourceShaped doc where
  kustomizations : ((doc.part "spec").part "kustomizations").Row fun ks =>
    Kustomization.Shaped ks ∧ (ks.part "name").unkeyable? = none
  versions : ((doc.part "spec").part "versions").Row VersionEntry.Shaped

theorem firstDuplicate?_cons {n : Value} (h : n.unkeyable? = none) (seen ns : List Value) :
    firstDuplicate? seen (n :: ns) =
      if seen.any (n == ·) then .ok (some n) else firstDuplicate? (n :: seen) ns := by
  rw [firstDuplicate?, Value.asKey, h]
  rfl

/-- The search for a duplicate ends at a name that cannot be a key, at a duplicate, or not before
the last name. -/
theorem firstDuplicate?_cases (names seen : List Value) :
    (∃ n ∈ names, ∃ kind, n.unkeyable? = some kind ∧
        firstDuplicate? seen names = .error (.notKeyable kind)) ∨
      (∃ n ∈ names, firstDuplicate? seen names = .ok (some n)) ∨
      ((∀ n ∈ names, n.unkeyable? = none) ∧ firstDuplicate? seen names = .ok none) := by
  induction names generalizing seen with
  | nil => exact Or.inr (Or.inr ⟨List.forall_mem_nil _, rfl⟩)
  | cons n ns ih =>
    cases hkind : n.unkeyable? with
    | some kind =>
      refine Or.inl ⟨n, List.mem_cons_self, kind, hkind, ?_⟩
      rw [firstDuplicate?, Value.asKey, hkind]
      rfl
    | none =>
      rw [firstDuplicate?_cons hkind]
      split
      · exact Or.inr (Or.inl ⟨n, List.mem_cons_self, rfl⟩)
      · rcases ih (n :: seen) with ⟨m, hm, h⟩ | ⟨m, hm, h⟩ | ⟨hall, h⟩
        · exact Or.inl ⟨m, List.mem_cons_of_mem _ hm, h⟩
        · exact Or.inr (Or.inl ⟨m, List.mem_cons_of_mem _ hm, h⟩)
        · exact Or.inr (Or.inr ⟨List.forall_mem_cons.mpr ⟨hkind, hall⟩, h⟩)

/-- The names of kustomizations are looked at until one occurs again, which refuses the template;
only some values can be a key. -/
theorem reading_names {α : Type} {escapes : List ErrorFamily} {W S : Prop} (htype : .type ∈ escapes)
    {docs : List Value} {row : List Kustomization} {f : Option Value → Except Error α}
    (hrow : docs.mapM Kustomization.ofDocument = .ok row)
    (hW : W → ∀ doc ∈ docs, doc.isWritable = true)
    (hduplicate : ∀ n, (W → n.isWritable = true) → ∀ T, Reading escapes W T (f (some n)))
    (hnone : Reading escapes W S (f none)) :
    Reading escapes W ((∀ doc ∈ docs, (doc.part "name").unkeyable? = none) ∧ S)
      (firstDuplicate? [] (row.map (·.name)) >>= f) := by
  rw [Kustomization.names_of_mapM hrow]
  rcases firstDuplicate?_cases (docs.map fun doc => doc.part "name") [] with
    ⟨_, hn, kind, hkind, hfail⟩ | ⟨_, hn, hfound⟩ | ⟨hkeys, hends⟩
  · obtain ⟨doc, hdoc, rfl⟩ := List.mem_map.mp hn
    rw [hfail]
    refine .misused htype fun h => ?_
    rw [h.1 doc hdoc] at hkind
    cases hkind
  · obtain ⟨doc, hdoc, rfl⟩ := List.mem_map.mp hn
    rw [hfound]
    exact hduplicate _ (fun h => Value.isWritable_part (hW h doc hdoc) "name") _
  · rw [hends]
    exact hnone.congr ⟨fun h => ⟨List.forall_mem_map.mp hkeys, h⟩, And.right⟩

theorem reading (doc : Value) :
    Reading [.attribute, .type] (doc.isWritable = true) (Shaped doc)
      (Template.ofDocument doc) := by
  rw [ofDocument]
  refine .congr ?_ (S := ResourceShaped doc ∧
      ((doc.part "spec").part "kustomizations").Row (fun ks =>
        Kustomization.Shaped ks ∧ (ks.part "name").unkeyable? = none) ∧
      ((doc.part "spec").part "versions").Row VersionEntry.Shaped)
    ⟨fun h => ⟨h.1, h.2.1, h.2.2⟩, fun h => ⟨h.toResourceShaped, h.kustomizations, h.versions⟩⟩
  refine reading_resource (by decide) (by decide) "Template" fun name hdoc => ?_
  refine .field (by decide) And.left fun hspec => ?_
  refine .check (fun hW => by simp [values, Subject.values, hW, Value.isWritable]) fun hgiven => ?_
  rw [Bool.not_eq_false'] at hgiven
  have hpart := fun (hW : doc.isWritable = true) key =>
    Value.isWritable_part (Value.isWritable_part hW "spec") key
  rw [and_iff_right hspec, ← Value.row_and_eachItem, and_assoc]
  refine .each (by decide) (hpart · _) (fun ks hW => (Kustomization.reading ks).ofPart hW) hgiven
    fun items row hitems hrow => ?_
  rw [Value.eachItem_iff hgiven hitems]
  refine reading_names (by decide) hrow
    (fun hW ks hks => Value.isWritable_of_items? (hpart hW _) hitems hks)
    (fun n hn T => .ofInput fun hW => by simp [values, hn hW]) ?_
  refine .congr (S := _ ∧ True) (.part hspec (.row (by decide) (hpart · _)
    (fun v hW => (VersionEntry.reading v).ofPart hW) fun _ => .accepted _ trivial))
    (and_true _).to_iff

end Template

end FluxFleet
