import FluxFleet.Model.Cluster
import FluxFleet.Proofs.Shape.Template

/-!
# The shape of a cluster document

What the reader of a cluster takes for granted of its document (`Cluster.Shaped`). Inside of the
specification more is found and named than in a template, since the errors of the settings records
are reported as errors of the cluster (`Reading.blame`). A required field of such a record is not
among them: it is taken for granted too (`Cluster.reading`).
-/

namespace FluxFleet

open InputFault (values)

variable {escapes : List ErrorFamily} {W S : Prop}

/-! ## Selections -/

/-- The policy of an override is a mapping. -/
def Override.Shaped (doc : Value) : Prop :=
  doc.isDict = true → (doc.part "preservation").isNull = false →
    (doc.part "preservation").isDict = true

theorem Override.reading (hescapes : .attribute ∈ escapes) {selection kustomization doc : Value}
    (hselection : W → selection.isWritable = true)
    (hkustomization : W → kustomization.isWritable = true) (hdoc : W → doc.isWritable = true) :
    Reading escapes W (Shaped doc) (Override.ofDocument selection kustomization doc) := by
  have hother : ∀ fault, fault = .override selection kustomization doc →
      Reading escapes W (Shaped doc) (.error (.ofInput fault) : Except Error Override) := by
    rintro _ rfl
    exact .ofInput fun h => by
      simp [values, hselection h, hkustomization h, hdoc h]
  cases doc with
  | bool b => exact .accepted _ fun h => by cases h
  | dict mark entries =>
    refine .part rfl (.part rfl ?_)
    refine .congr (Preservation.reading_given (S := True) hescapes
      (fun h => Value.isWritable_part (hdoc h) "preservation") fun _ => .accepted _ trivial)
      ⟨fun h _ => h.1, fun h => ⟨h rfl, trivial⟩⟩
  | _ => exact hother _ rfl

/-- The overrides and the values of a selection are mappings, if they are given. -/
structure Selection.Shaped (doc : Value) : Prop where
  mapping : doc.isDict = true
  overrides : (doc.part "kustomizations").Table fun e => Override.Shaped e.2
  values : (doc.part "values").Table fun _ => True

theorem Reading.variableText {v : Value} (hW : W → v.isWritable = true) :
    Reading escapes W True v.variableText := by
  cases v with
  | bool b => exact .accepted _ trivial
  | _ => exact .written hW

theorem Selection.reading (hescapes : .attribute ∈ escapes) (doc : Value) :
    Reading escapes (doc.isWritable = true) (Shaped doc) (Selection.ofDocument doc) := by
  rw [ofDocument]
  refine .field hescapes Shaped.mapping fun hdoc => ?_
  refine .check (by simp [InputFault.values, Subject.values]) fun _ => ?_
  have hpart := fun (hW : doc.isWritable = true) key => Value.isWritable_part hW key
  refine .congr ?_ (S := (doc.part "kustomizations").Table (fun e => Override.Shaped e.2) ∧
      (doc.part "values").Table (fun _ => True) ∧ True)
    ⟨fun h => ⟨hdoc, h.1, h.2.1⟩, fun h => ⟨h.overrides, h.values, trivial⟩⟩
  refine .part hdoc (.table hescapes (hpart · _) (fun e he => ?_) fun _ => ?_)
  · exact (Override.reading hescapes (hpart · "name") (fun h => (he h).1) fun h => (he h).2).map
      (e.1, ·)
  · refine .part hdoc (.table hescapes (hpart · _) (fun e he => ?_) fun _ => .accepted _ trivial)
    exact (Reading.variableText fun h => (he h).2).map (e.1, ·)

/-! ## Errors of settings records -/

section Blame

variable {α β : Type} (name : String)

/-- An error inside of a cluster is reported as one of the cluster, or passes. -/
theorem Cluster.blame_error (e : Error) :
    (∃ reason, ∀ α : Type, blame name (.error e : Except Error α) =
        .error (.ofInput (.within { kind := "Cluster", name := some (.str name) } reason))) ∨
      ∀ α : Type, blame name (.error e : Except Error α) = .error e := by
  cases e with
  | invalidField | notRecord | notIterable | notKeyable | wrongArgument | digits =>
    exact Or.inl ⟨_, fun _ => rfl⟩
  | _ => exact Or.inr fun _ => rfl

theorem Cluster.blame_bind (x : Except Error α) (f : α → Except Error β) :
    blame name (x >>= f) = blame name x >>= fun a => blame name (f a) := by
  cases x with
  | ok a => rfl
  | error e =>
    change blame name (.error e) = _
    rcases blame_error name e with ⟨reason, h⟩ | h
    · rw [h, h]
      rfl
    · rw [h, h]
      rfl

theorem Cluster.blame_mapM (f : α → Except Error β) (xs : List α) :
    blame name (xs.mapM f) = xs.mapM fun x => blame name (f x) := by
  induction xs with
  | nil => rfl
  | cons x xs ih =>
    rw [List.mapM_cons, List.mapM_cons, blame_bind]
    refine bind_congr fun y => ?_
    rw [blame_bind, ih]
    rfl

namespace Reading

/-- What is reported as an error of the cluster is an input error. -/
theorem of_blamed (reason : String) : Reading escapes W S
    (.error (.ofInput (.within { kind := "Cluster", name := some (.str name) } reason)) :
      Except Error α) :=
  .ofInput fun _ => by simp [values, Subject.values, Value.isWritable]

theorem blame {x : Except Error α} (h : Reading escapes W S x) :
    Reading escapes W S (Cluster.blame name x) := by
  cases h with
  | accepted a h => exact .accepted a h
  | refused fault => exact .refused fault
  | @unwritable e he h =>
    rcases Cluster.blame_error name e with ⟨reason, hblame⟩ | hblame
    · rw [hblame]
      exact of_blamed name reason
    · rw [hblame]
      exact .unwritable he h
  | @misused e he h =>
    rcases Cluster.blame_error name e with ⟨reason, hblame⟩ | hblame
    · rw [hblame]
      exact of_blamed name reason
    · rw [hblame]
      exact .misused he h

variable {name} {S T : Prop}

theorem blame_bind {x : Except Error α} {f : α → Except Error β}
    (hx : Reading escapes W S (Cluster.blame name x))
    (hf : ∀ a, Reading escapes W T (Cluster.blame name (f a))) :
    Reading escapes W (S ∧ T) (Cluster.blame name (x >>= f)) := by
  rw [Cluster.blame_bind]
  exact hx.bind fun a _ => hf a

theorem blame_part {doc : Value} {key : String} {f : Value → Except Error α}
    (hdoc : doc.isDict = true) (h : Reading escapes W S (Cluster.blame name (f (doc.part key)))) :
    Reading escapes W S (Cluster.blame name (doc.field key >>= f)) := by
  rw [Value.field_of_isDict hdoc, pure_bind]
  exact h

end Reading

/-- A row inside of a cluster is read part by part; what has no items is reported. -/
theorem Reading.blame_row {name : String} {P : Value → Prop} {v : Value}
    {f : Value → Except Error α} {k : List α → Except Error β} (hW : W → v.isWritable = true)
    (hf : ∀ x, (W → x.isWritable = true) → Reading escapes W (P x) (Cluster.blame name (f x)))
    (hk : ∀ ys, Reading escapes W S (Cluster.blame name (k ys))) :
    Reading escapes W (v.EachItem P ∧ S)
      (Cluster.blame name (v.eachGiven >>= fun items => items.mapM f >>= k)) := by
  rw [Value.eachGiven]
  split
  · next hgiven =>
    rw [Value.each]
    rcases hitems : v.items? with _ | items
    · exact of_blamed name _
    · have hmembers : Reading escapes W (∀ x ∈ items, P x) (Cluster.blame name (items.mapM f)) := by
        rw [Cluster.blame_mapM]
        exact mapM fun x hx => hf x fun h => Value.isWritable_of_items? (hW h) hitems hx
      exact (blame_bind hmembers hk).congr
        (and_congr_left' (Value.eachItem_iff hgiven hitems).symm)
  · next hgiven => exact (hk []).congr ⟨fun h => ⟨fun hv => absurd hv hgiven, h⟩, And.right⟩

end Blame

/-! ## Settings records -/

section Settings

variable {name : String} {entries : List (Value × Value)} {v : Value} {key : String}

/-- A mapping has an entry for each of these keys. -/
def Value.HasKeys (keys : List String) (v : Value) : Prop :=
  ∀ entries, v.entries? = some entries → ∀ key ∈ keys, (Value.lookup? entries key).isSome = true

/-- An absent record has no entries at all. -/
theorem Value.hasKeys_of_isNull (h : v.isNull = true) (keys : List String) : v.HasKeys keys := by
  intro entries hentries
  cases v with
  | null => cases hentries
  | _ => cases h

theorem Reading.settingText (hW : W → v.isWritable = true) :
    Reading escapes W True v.settingText := by
  rw [Value.settingText, Value.written]
  split
  · exact .accepted _ trivial
  · next hnot => exact .unwritable rfl fun h => hnot (hW h)

theorem Value.isWritable_of_lookup? (h : ∀ e ∈ entries, e.2.isWritable = true)
    (hfound : Value.lookup? entries key = some v) : v.isWritable = true := by
  obtain ⟨k, hk⟩ := OrderedMap.exists_mem_of_get?_eq_some (m := ⟨entries⟩) hfound
  exact h _ hk

/-- A required field of a settings record is taken for granted. -/
theorem Reading.requiredSetting (hescapes : .missingField ∈ escapes)
    (hW : W → ∀ e ∈ entries, e.2.isWritable = true) (record key : String) :
    Reading escapes W ((Value.lookup? entries key).isSome = true)
      (Value.requiredSetting entries record key) := by
  rw [Value.requiredSetting]
  rcases hfound : Value.lookup? entries key with _ | v
  · exact .misused hescapes (by simp)
  · exact (settingText fun h => Value.isWritable_of_lookup? (hW h) hfound).congr (by simp)

theorem Reading.textSetting (hW : W → ∀ e ∈ entries, e.2.isWritable = true) (key other : String) :
    Reading escapes W True (Value.textSetting entries key other) := by
  rw [Value.textSetting]
  split
  · next hfound => exact settingText fun h => Value.isWritable_of_lookup? (hW h) hfound
  · exact .accepted _ trivial

theorem Value.isWritable_of_given? (h : ∀ e ∈ entries, e.2.isWritable = true)
    (hgiven : (Value.lookup? entries key).bind Value.given? = some v) : v.isWritable = true := by
  obtain ⟨w, hfound, hw⟩ := Option.bind_eq_some_iff.mp hgiven
  obtain rfl := Value.eq_of_given? hw
  exact Value.isWritable_of_lookup? h hfound

theorem Reading.optionalSetting (hW : W → ∀ e ∈ entries, e.2.isWritable = true) (key : String) :
    Reading escapes W True (Value.optionalSetting entries key) := by
  rw [Value.optionalSetting]
  split
  · next hgiven => exact (settingText fun h => Value.isWritable_of_given? (hW h) hgiven).map some
  · exact .accepted _ trivial

/-- A settings record that is no mapping is reported. -/
theorem Reading.settings {α : Type} {doc : Value} {record : String}
    {f : List (Value × Value) → Except Error α} {P : List (Value × Value) → Prop}
    (hW : W → doc.isWritable = true)
    (h : ∀ entries, (W → ∀ e ∈ entries, e.1.isWritable = true ∧ e.2.isWritable = true) →
      Reading escapes W (P entries) (Cluster.blame name (f entries))) :
    Reading escapes W (∀ entries, doc.entries? = some entries → P entries)
      (Cluster.blame name (doc.settings record >>= f)) := by
  rw [Value.settings]
  rcases hentries : doc.entries? with _ | entries
  · exact of_blamed name _
  · refine (h entries fun hw e he => ?_).congr (by simp)
    exact Value.isWritable_of_entries? (hW hw) hentries he

variable {doc : Value}

theorem GitSource.reading (hescapes : .missingField ∈ escapes) (hW : W → doc.isWritable = true) :
    Reading escapes W (doc.HasKeys ["owner", "repository"])
      (Cluster.blame name (ofSettings doc)) := by
  rw [ofSettings]
  refine .settings hW fun entries hentries => .blame name ?_
  have hvalues := fun h e he => (hentries h e he).2
  have hrequired := fun key => Reading.requiredSetting hescapes hvalues "GitConfig" key
  refine .congr (S := _ ∧ _ ∧ True) (.bind (hrequired "owner") fun _ _ =>
    .bind (hrequired "repository") fun _ _ => ?_) (by simp)
  refine .andThen (.textSetting hvalues _ _) fun _ _ => ?_
  exact .andThen (.optionalSetting hvalues _) fun _ _ => .accepted _ trivial

theorem ArtifactSource.reading (hescapes : .missingField ∈ escapes)
    (hW : W → doc.isWritable = true) :
    Reading escapes W (doc.HasKeys ["registry", "repository"])
      (Cluster.blame name (ofSettings doc)) := by
  rw [ofSettings]
  refine .settings hW fun entries hentries => .blame name ?_
  have hvalues := fun h e he => (hentries h e he).2
  have hrequired := fun key => Reading.requiredSetting hescapes hvalues "OciConfig" key
  refine .congr (S := _ ∧ _ ∧ True) (.bind (hrequired "registry") fun _ _ =>
    .bind (hrequired "repository") fun _ _ => ?_) (by simp)
  refine .andThen (.textSetting hvalues _ _) fun _ _ => ?_
  refine .andThen (.optionalSetting hvalues _) fun _ _ => ?_
  refine .andThen (.optionalSetting hvalues _) fun _ _ => ?_
  exact .andThen (.textSetting hvalues _ _) fun _ _ => .accepted _ trivial

/-- A field that cannot be read is reported, unless its value cannot be written. -/
theorem Reading.invalidField {α : Type} {v : Value} (hW : W → v.isWritable = true)
    (record field type : String) :
    Reading escapes W S
      (Cluster.blame name (throw (v.invalidField record field type)) : Except Error α) := by
  rw [Value.invalidField]
  split
  · exact of_blamed name _
  · next hnot => exact .unwritable rfl fun h => hnot (hW h)

theorem SystemSettings.reading (hW : W → doc.isWritable = true) :
    Reading escapes W True (Cluster.blame name (ofSettings doc)) := by
  rw [ofSettings]
  refine .congr (.settings (P := fun _ => True) hW fun entries hentries => ?_) (by simp)
  split
  · exact .accepted _ trivial
  · next v hgiven =>
    have hvalues := fun h e he => (hentries h e he).2
    split
    · exact .accepted _ trivial
    · exact .invalidField (fun h => Value.isWritable_of_given? (hvalues h) hgiven) _ _ _

theorem ClusterDefaults.reading (hW : W → doc.isWritable = true) :
    Reading escapes W True (Cluster.blame name (ofSettings doc)) := by
  rw [ofSettings]
  refine .congr (.settings (P := fun _ => True) hW fun entries hentries => .blame name ?_)
    (by simp)
  have hvalues := fun h e he => (hentries h e he).2
  refine .andThen (.optionalSetting hvalues _) fun _ _ => ?_
  refine .andThen (.optionalSetting hvalues _) fun _ _ => ?_
  refine .andThen (.optionalSetting hvalues _) fun _ _ => ?_
  refine .andThen (.optionalSetting hvalues _) fun _ _ => ?_
  exact .andThen (.optionalSetting hvalues _) fun _ _ => .accepted _ trivial

theorem PluginSettings.reading (hescapes : .missingField ∈ escapes)
    (hW : W → doc.isWritable = true) :
    Reading escapes W (doc.HasKeys ["name"]) (Cluster.blame name (ofSettings doc)) := by
  rw [ofSettings]
  refine .settings hW fun entries hentries => ?_
  have hvalues := fun h e he => (hentries h e he).2
  refine .congr (.blame_bind (T := True)
    (.blame name (.requiredSetting hescapes hvalues _ "name")) fun _ => ?_) (by simp)
  split
  · exact .accepted _ trivial
  · next v hfound =>
    have hv := fun h => Value.isWritable_of_lookup? (hvalues h) hfound
    split
    · next config hconfig =>
      refine .blame name (.andThen (.congr (.mapM (P := fun _ => True) fun e he => ?_) (by simp))
        fun _ _ => .accepted _ trivial)
      refine .andThen (.settingText fun h => ?_) fun _ _ => .accepted _ trivial
      exact (Value.isWritable_of_entries? (hv h) hconfig he).1
    · exact .invalidField hv _ _ _

/-- A settings record is read if it is given. -/
theorem Reading.givenSettings {α β : Type} {given : Bool} {read : Value → Except Error α}
    {f : Option α → Except Error β} {T : Prop}
    (hread : Reading escapes W S (Cluster.blame name (read doc))) (hnot : given = false → S)
    (hf : ∀ a, Reading escapes W T (Cluster.blame name (f a))) :
    Reading escapes W (S ∧ T)
      (Cluster.blame name (Cluster.givenSettings doc given read >>= f)) := by
  cases given with
  | true =>
    rw [Cluster.givenSettings, if_pos rfl, bind_map_left]
    exact blame_bind hread fun a => hf (some a)
  | false => exact (hf none).congr ⟨fun h => ⟨hnot rfl, h⟩, And.right⟩

end Settings

namespace Cluster

/-- The records of the sources and of the plugins have their required fields, and each selection
has its shape. -/
structure Shaped (doc : Value) : Prop extends ResourceShaped doc where
  git : ((doc.part "spec").part "git").HasKeys ["owner", "repository"]
  oci : ((doc.part "spec").part "oci").HasKeys ["registry", "repository"]
  selections : ((doc.part "spec").part "templates").EachItem Selection.Shaped
  plugins : ((doc.part "spec").part "plugins").EachItem (Value.HasKeys ["name"])

theorem reading (doc : Value) :
    Reading [.attribute, .type, .missingField] (doc.isWritable = true) (Shaped doc)
      (Cluster.ofDocument doc) := by
  rw [ofDocument]
  refine .congr ?_ (S := ResourceShaped doc ∧
      ((doc.part "spec").part "git").HasKeys ["owner", "repository"] ∧
      ((doc.part "spec").part "oci").HasKeys ["registry", "repository"] ∧
      ((doc.part "spec").part "templates").EachItem Selection.Shaped ∧
      True ∧ True ∧ ((doc.part "spec").part "plugins").EachItem (Value.HasKeys ["name"]) ∧ True)
    ⟨?_, fun h =>
      ⟨h.toResourceShaped, h.git, h.oci, h.selections, trivial, trivial, h.plugins, trivial⟩⟩
  rotate_left
  · rintro ⟨hresource, hgit, hoci, hselections, -, -, hplugins, -⟩
    exact ⟨hresource, hgit, hoci, hselections, hplugins⟩
  refine reading_resource (by decide) (by decide) "Cluster" fun name hdoc => ?_
  have hpart := fun (hW : doc.isWritable = true) key =>
    Value.isWritable_part (Value.isWritable_part hW "spec") key
  refine .field (by decide) And.left fun hspec => .part hspec (.check ?_ fun _ => ?_)
  · exact fun _ => by simp [values]
  refine .congr ?_ (and_iff_right hspec).symm
  refine .givenSettings (GitSource.reading (by decide) (hpart · _))
    (fun h => Value.hasKeys_of_isNull ((Bool.not_eq_false' _).mp h) _) fun _ => ?_
  refine .givenSettings (ArtifactSource.reading (by decide) (hpart · _))
    (fun h => Value.hasKeys_of_isNull ((Bool.not_eq_false' _).mp h) _) fun _ => ?_
  refine .blame_part hspec (.blame_row (hpart · _)
    (fun s hW => .blame name ((Selection.reading (by decide) s).ofPart hW)) fun _ => ?_)
  refine .blame_part hspec (.givenSettings (SystemSettings.reading (hpart · _))
    (fun _ => trivial) fun _ => ?_)
  refine .blame_part hspec (.givenSettings (ClusterDefaults.reading (hpart · _))
    (fun _ => trivial) fun _ => ?_)
  exact .blame_part hspec (.blame_row (hpart · _)
    (fun p hW => PluginSettings.reading (by decide) hW) fun _ => .accepted _ trivial)

end Cluster

end FluxFleet
