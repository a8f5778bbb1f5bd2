import FluxFleet.Model.Selection
import FluxFleet.Model.VersionEntry
import FluxFleet.Proofs.Success
import FluxFleet.Proofs.Value.Record

/-!
# Documents that are read again

What is read from a document can be written down again, and is then read as it was. What a reader
has checked still holds of the document that is written (`Sound`), and its fields are found there,
those that are left out as absent ones. The one thing that changes is the list of kinds that a
policy keeps, of which a new one is written, so a policy is read as an equal one
(`Preservation.Equal`); and so is what holds a policy.
-/

namespace FluxFleet

open Value (field_record find?_optional find?_optionalString getD_find?_optional
  getD_find?_optionalString)

/-! ## Sources of versions -/

namespace ImageSource

variable {s : ImageSource}

theorem truthy_of_ofDocument {doc : Value} (h : ofDocument doc = .ok s) :
    s.image.truthy = true := by
  obtain ⟨image, -, h⟩ := bind_eq_ok.mp h
  obtain ⟨himage, h⟩ := bind_check_eq_ok.mp h
  obtain ⟨type, -, h⟩ := bind_eq_ok.mp h
  cases h
  simpa using himage

/-- An image source is read from its document. -/
theorem ofDocument_document (h : s.image.truthy = true) : ofDocument s.document = .ok s := by
  have himage : s.document.field "image" = pure s.image := field_record _ _
  have htype : s.document.field "type" = pure s.type := by
    rw [document, field_record, List.find?_append]
    exact congrArg pure (getD_find?_optional "type" s.type)
  simp only [ofDocument, himage, htype, pure_bind, h, Bool.not_true, Bool.false_eq_true, if_false]
  rfl

end ImageSource

namespace ChartSource

variable {s : ChartSource}

/-- A chart source as it comes from a document. -/
structure Sound (s : ChartSource) : Prop where
  chart : s.chart.truthy = true
  located : (s.repository.isNull && s.oci.isNull) = false
  scheme : s.oci.isNull = false → s.oci.startsWith "oci://" = .ok true

theorem sound_of_ofDocument {doc : Value} (h : ofDocument doc = .ok s) : s.Sound := by
  obtain ⟨chart, -, h⟩ := bind_eq_ok.mp h
  obtain ⟨hchart, h⟩ := bind_check_eq_ok.mp h
  obtain ⟨repository, -, h⟩ := bind_eq_ok.mp h
  obtain ⟨oci, -, h⟩ := bind_eq_ok.mp h
  obtain ⟨hlocated, h⟩ := bind_check_eq_ok.mp h
  have hlocated := Bool.eq_false_iff.mpr hlocated
  have hchart : chart.truthy = true := by simpa using hchart
  dsimp only at h
  split at h
  · obtain ⟨b, hb, h⟩ := bind_eq_ok.mp h
    split at h
    · cases h
    next hscheme =>
    cases h
    obtain rfl : b = true := by simpa using hscheme
    exact ⟨hchart, hlocated, fun _ => hb⟩
  · next hnone =>
    cases h
    refine ⟨hchart, hlocated, fun hsome => ?_⟩
    rw [hsome] at hnone
    exact absurd rfl hnone

/-- A chart source is read from its document. -/
theorem ofDocument_document (h : s.Sound) : ofDocument s.document = .ok s := by
  have hchart : s.document.field "chart" = pure s.chart := field_record _ _
  obtain ⟨hrepository, hoci⟩ : s.document.field "repository" = pure s.repository ∧
      s.document.field "oci" = pure s.oci := by
    refine ⟨?_, ?_⟩
    all_goals
      rw [document, field_record]
      simp (disch := decide) only [List.find?_append, find?_optional, Option.or_none]
      exact congrArg pure (getD_find?_optional _ _)
  simp only [ofDocument, hchart, hrepository, hoci, pure_bind, h.chart, h.located, Bool.not_true,
    Bool.false_eq_true, if_false]
  rcases hnull : s.oci.isNull with _ | _
  · rw [h.scheme hnull]
    rfl
  · rfl

end ChartSource

/-! ## Version entries -/

/-- The field that holds the source of a version. -/
def VersionSource.fields : VersionSource → List (String × Value)
  | .image s => [("registry", s.document)]
  | .chart s => [("helm", s.document)]

/-- A source as it comes from a document. -/
def VersionSource.Sound : VersionSource → Prop
  | .image s => s.image.truthy = true
  | .chart s => s.Sound

theorem VersionSource.find?_fields {key : String} (hregistry : "registry" ≠ key)
    (hhelm : "helm" ≠ key) (source : VersionSource) :
    source.fields.find? (·.1 == key) = none := by
  cases source with
  | image s => rw [fields, List.find?_singleton, if_neg (by simpa using hregistry)]
  | chart s => rw [fields, List.find?_singleton, if_neg (by simpa using hhelm)]

namespace VersionEntry

variable {v : VersionEntry}

theorem document_eq (v : VersionEntry) : v.document = .record ([("name", v.name)] ++
    Value.optionalString "default" v.fallback ++ Value.optional "constraint" v.constraint ++
    Value.optional "tag_pattern" v.tagPattern ++
    Value.optional "exclude_prerelease" v.excludePrerelease ++ v.source.fields) := rfl

/-- A version entry as it comes from a document. -/
structure Sound (v : VersionEntry) : Prop where
  name : v.name.truthy = true
  source : v.source.Sound

theorem sound_of_ofDocument {doc : Value} (h : ofDocument doc = .ok v) : v.Sound := by
  obtain ⟨name, -, h⟩ := bind_eq_ok.mp h
  obtain ⟨hname, h⟩ := bind_check_eq_ok.mp h
  have hname : name.truthy = true := by simpa using hname
  obtain ⟨registry, -, h⟩ := bind_eq_ok.mp h
  obtain ⟨helm, -, h⟩ := bind_eq_ok.mp h
  obtain ⟨-, h⟩ := bind_check_eq_ok.mp h
  obtain ⟨fallback, -, h⟩ := bind_eq_ok.mp h
  obtain ⟨constraint, -, h⟩ := bind_eq_ok.mp h
  obtain ⟨tagPattern, -, h⟩ := bind_eq_ok.mp h
  obtain ⟨excludePrerelease, -, h⟩ := bind_eq_ok.mp h
  dsimp only at h
  split at h
  · obtain ⟨source, hsource, h⟩ := bind_eq_ok.mp h
    cases h
    rcases hchart : ChartSource.ofDocument helm with e | chart
    · rw [hchart] at hsource
      cases hsource
    · rw [hchart] at hsource
      cases hsource
      exact ⟨hname, ChartSource.sound_of_ofDocument hchart⟩
  · obtain ⟨source, hsource, h⟩ := bind_eq_ok.mp h
    cases h
    rcases himage : ImageSource.ofDocument registry with e | image
    · rw [himage] at hsource
      cases hsource
    · rw [himage] at hsource
      cases hsource
      exact ⟨hname, ImageSource.truthy_of_ofDocument himage⟩

/-- An optional text is read from its field. -/
theorem optionalText_of_field {doc : Value} {key : String} {s : Option String}
    (h : doc.field key = pure ((s.map Value.str).getD .null)) : doc.optionalText key = pure s := by
  rw [Value.optionalText, h]
  cases s <;> rfl

/-- A version entry is read from its document. -/
theorem ofDocument_document (h : v.Sound) : ofDocument v.document = .ok v := by
  have hname : v.document.field "name" = pure v.name := by
    rw [document_eq, field_record]
    rfl
  have hfallback : v.document.optionalText "default" = pure v.fallback := by
    refine optionalText_of_field ?_
    rw [document_eq, field_record]
    simp (disch := decide) only [List.find?_append, find?_optional, VersionSource.find?_fields,
      Option.or_none]
    exact congrArg pure (getD_find?_optionalString "default" v.fallback)
  obtain ⟨hconstraint, hpattern, hexclude⟩ : v.document.field "constraint" = pure v.constraint ∧
      v.document.field "tag_pattern" = pure v.tagPattern ∧
      v.document.field "exclude_prerelease" = pure v.excludePrerelease := by
    refine ⟨?_, ?_, ?_⟩
    all_goals
      rw [document_eq, field_record]
      simp (disch := decide) only [List.find?_append, find?_optional, find?_optionalString,
        VersionSource.find?_fields, Option.or_none]
      exact congrArg pure (getD_find?_optional _ _)
  have hplace : ∀ key, key = "registry" ∨ key = "helm" → v.document.field key =
      pure (((v.source.fields.find? (·.1 == key)).map (·.2)).getD .null) := by
    rintro key (rfl | rfl)
    all_goals
      rw [document_eq, field_record]
      simp (disch := decide) only [List.find?_append, find?_optional, find?_optionalString]
      rfl
  have hsound := h.source
  rcases hsource : v.source with s | s
  · rw [hsource] at hplace hsound
    have hregistry : v.document.field "registry" = pure s.document := hplace _ (Or.inl rfl)
    have hhelm : v.document.field "helm" = pure .null := hplace _ (Or.inr rfl)
    have hread : ImageSource.ofDocument s.document = pure s :=
      ImageSource.ofDocument_document hsound
    have hgiven : s.document.isNull = false := rfl
    simp only [ofDocument, hname, pure_bind, h.name, hfallback, hconstraint, hpattern, hexclude,
      hregistry, hhelm, hread, hgiven, Bool.not_true, Bool.false_eq_true, if_false]
    have hsame : { v with source := .image s } = v := by rw [← hsource]
    rw [if_neg (by decide)]
    exact congrArg Except.ok hsame
  · rw [hsource] at hplace hsound
    have hregistry : v.document.field "registry" = pure .null := hplace _ (Or.inl rfl)
    have hhelm : v.document.field "helm" = pure s.document := hplace _ (Or.inr rfl)
    have hread : ChartSource.ofDocument s.document = pure s :=
      ChartSource.ofDocument_document hsound
    have hgiven : s.document.isNull = false := rfl
    have hnull : Value.null.isNull = true := rfl
    simp only [ofDocument, hname, pure_bind, h.name, hfallback, hconstraint, hpattern, hexclude,
      hregistry, hhelm, hread, hgiven, hnull, Bool.not_true, Bool.false_eq_true, if_false, if_true]
    have hsame : { v with source := .chart s } = v := by rw [← hsource]
    rw [if_neg (by decide)]
    exact congrArg Except.ok hsame

end VersionEntry

/-! ## Selections -/

namespace Preservation

/-- The kinds to keep are a list of texts, or absent. -/
def Listed (p : Preservation) : Prop :=
  p.keepResources = .null ∨
    ∃ (mark : Mark) (names : List String), p.keepResources = .list mark (names.map Value.str)

/-- Two policies are equal if they have the same mode and keep equal kinds. -/
structure Equal (p q : Preservation) : Prop where
  mode : p.mode = q.mode
  keepResources : (p.keepResources == q.keepResources) = true

theorem ofDocument_eq {doc : Value} {mode : PreservationMode} {kinds : Value}
    (hmode : doc.fieldOr "mode" "stateful" = pure (.str mode.word))
    (hkinds : doc.field "keep_resources" = pure kinds) :
    ofDocument doc = .ok { mode, keepResources := kinds } := by
  rw [ofDocument, hmode, pure_bind, PreservationMode.ofWord?_word]
  dsimp only
  rw [hkinds]
  rfl

section Names

variable (names : List String)

/-- Texts in a row equal themselves. -/
theorem sameItems_names :
    Value.sameItems (names.map Value.str) (names.map Value.str) = true := by
  induction names with
  | nil => rfl
  | cons name names ih =>
    rw [List.map_cons, Value.sameItems, ih, Value.same_str, BEq.rfl, Bool.true_and]

/-- A text is no part that stands inside itself. -/
theorem closeItems_names (n : Nat) (whole : Value) :
    Value.closeItems n whole (names.map Value.str) = names.map Value.str := by
  induction names with
  | nil => rfl
  | cons name names ih =>
    rw [List.map_cons, Value.closeItems, ih]
    rfl

theorem copy?_names (mark : Mark) :
    (Value.list mark (names.map Value.str)).copy? = some (.ofList (names.map Value.str)) := by
  cases mark with
  | loop n => rw [Value.copy?, Value.inside, closeItems_names]
  | _ => rfl

end Names

/-- A policy is read again from its document. -/
theorem reread {p : Preservation} (h : p.Listed) :
    ∃ doc q, p.document = .ok doc ∧ doc.isNull = false ∧ ofDocument doc = .ok q ∧ p.Equal q := by
  obtain ⟨mode, keepResources⟩ := p
  rcases h with hnull | ⟨mark, names, hnames⟩
  · cases hnull
    exact ⟨_, _, rfl, rfl, ofDocument_eq rfl rfl, rfl, rfl⟩
  · cases hnames
    have hdoc : document { mode, keepResources := .list mark (names.map Value.str) } =
        .ok (.record [("mode", mode.word), ("keep_resources", .ofList (names.map Value.str))]) := by
      simp only [document, copy?_names]
      rfl
    exact ⟨_, _, hdoc, rfl, ofDocument_eq rfl rfl, rfl, sameItems_names names⟩

end Preservation

namespace Override

/-- The policy of an override, if it has one, lists the kinds to keep. -/
def Listed : Override → Prop
  | .adjust _ (some p) => p.Listed
  | _ => True

/-- Two overrides are equal if they switch or adjust in the same way. -/
inductive Equal : Override → Override → Prop
  | switch (on : Bool) : Equal (.switch on) (.switch on)
  | bare (enabled : Value) : Equal (.adjust enabled none) (.adjust enabled none)
  | policy (enabled : Value) {p q : Preservation} (h : p.Equal q) :
    Equal (.adjust enabled (some p)) (.adjust enabled (some q))

theorem ofDocument_of_null {mark : Mark} {entries : List (Value × Value)} {enabled : Value}
    (hpolicy : (Value.dict mark entries).field "preservation" = pure .null)
    (henabled : (Value.dict mark entries).field "enabled" = pure enabled)
    (selection kustomization : Value) :
    ofDocument selection kustomization (.dict mark entries) = .ok (.adjust enabled none) := by
  rw [ofDocument, hpolicy, pure_bind, henabled]
  rfl

theorem ofDocument_of_policy {mark : Mark} {entries : List (Value × Value)}
    {enabled policy : Value} {p : Preservation}
    (hpolicy : (Value.dict mark entries).field "preservation" = pure policy)
    (henabled : (Value.dict mark entries).field "enabled" = pure enabled)
    (hgiven : policy.isNull = false) (hread : Preservation.ofDocument policy = .ok p)
    (selection kustomization : Value) :
    ofDocument selection kustomization (.dict mark entries) = .ok (.adjust enabled (some p)) := by
  rw [ofDocument, hpolicy, pure_bind, henabled, pure_bind]
  simp only [hgiven, hread, Bool.false_eq_true, if_false]
  rfl

/-- An override is read again from its document. -/
theorem reread {o : Override} (h : o.Listed) : ∃ doc o', o.document = .ok doc ∧
    (∀ selection kustomization, ofDocument selection kustomization doc = .ok o') ∧ o.Equal o' := by
  cases o with
  | switch on => exact ⟨_, _, rfl, fun _ _ => rfl, .switch on⟩
  | adjust enabled preservation =>
    cases preservation with
    | none =>
      have hpolicy : (Value.record (Value.optional "enabled" enabled)).field "preservation" =
          pure .null := by
        rw [field_record, find?_optional (by decide)]
        rfl
      have henabled : (Value.record (Value.optional "enabled" enabled)).field "enabled" =
          pure enabled := by
        rw [field_record, getD_find?_optional]
      exact ⟨_, _, rfl, ofDocument_of_null hpolicy henabled, .bare enabled⟩
    | some p =>
      obtain ⟨policy, q, hdocument, hgiven, hread, hequal⟩ := p.reread h
      have hdoc : document (.adjust enabled (some p)) =
          .ok (.record (Value.optional "enabled" enabled ++ [("preservation", policy)])) := by
        simp only [document, hdocument]
        rfl
      have hpolicy : (Value.record (Value.optional "enabled" enabled ++
          [("preservation", policy)])).field "preservation" = pure policy := by
        rw [field_record, List.find?_append, find?_optional (by decide)]
        rfl
      have henabled : (Value.record (Value.optional "enabled" enabled ++
          [("preservation", policy)])).field "enabled" = pure enabled := by
        rw [field_record, List.find?_append]
        have hnone : [("preservation", policy)].find? (·.1 == "enabled") = none := rfl
        rw [hnone, Option.or_none, getD_find?_optional]
      exact ⟨_, _, hdoc, ofDocument_of_policy hpolicy henabled hgiven hread, .policy enabled hequal⟩

end Override

namespace Selection

/-- The policies of the overrides list the kinds to keep. -/
def Listed (s : Selection) : Prop := ∀ e ∈ s.overrides.entries, e.2.Listed

/-- Two selections are equal if they name the same template, with the same values and equal
overrides in the same order. -/
structure Equal (s t : Selection) : Prop where
  name : s.name = t.name
  values : s.values = t.values
  overrides : List.Forall₂ (fun a b => a.1 = b.1 ∧ a.2.Equal b.2)
    s.overrides.entries t.overrides.entries

theorem truthy_of_ofDocument {s : Selection} {doc : Value} (h : ofDocument doc = .ok s) :
    s.name.truthy = true := by
  obtain ⟨name, -, h⟩ := bind_eq_ok.mp h
  obtain ⟨hname, h⟩ := bind_check_eq_ok.mp h
  obtain ⟨_, -, h⟩ := bind_eq_ok.mp h
  obtain ⟨_, -, h⟩ := bind_eq_ok.mp h
  obtain ⟨_, -, h⟩ := bind_eq_ok.mp h
  obtain ⟨_, -, h⟩ := bind_eq_ok.mp h
  obtain ⟨_, -, h⟩ := bind_eq_ok.mp h
  obtain ⟨_, -, h⟩ := bind_eq_ok.mp h
  cases h
  simpa using hname

theorem entriesGiven_ofEntries (entries : List (Value × Value)) :
    (Value.ofEntries entries).entriesGiven = pure entries := by
  cases entries <;> rfl

/-- The values of variables are read as the texts that are written. -/
theorem mapM_variableText (values : List (Value × String)) :
    (values.map fun e => (e.1, Value.str e.2)).mapM
      (fun e => do return (e.1, ← e.2.variableText)) = (pure values : Except Error _) := by
  induction values with
  | nil => rfl
  | cons e values ih =>
    rw [List.map_cons, List.mapM_cons, ih]
    rfl

/-- Overrides are read again one after another. -/
theorem reread_overrides (name : Value) {overrides : List (Value × Override)}
    (h : ∀ e ∈ overrides, e.2.Listed) :
    ∃ documents overrides',
      overrides.mapM (fun e => do return (e.1, ← e.2.document)) = .ok documents ∧
      documents.mapM (fun e => do return (e.1, ← Override.ofDocument name e.1 e.2)) =
        .ok overrides' ∧
      List.Forall₂ (fun a b => a.1 = b.1 ∧ a.2.Equal b.2) overrides overrides' := by
  induction overrides with
  | nil => exact ⟨[], [], rfl, rfl, .nil⟩
  | cons e overrides ih =>
    obtain ⟨he, hothers⟩ := List.forall_mem_cons.mp h
    obtain ⟨doc, o, hdocument, hread, hequal⟩ := e.2.reread he
    obtain ⟨documents, others, hdocuments, hreads, hequals⟩ := ih hothers
    refine ⟨(e.1, doc) :: documents, (e.1, o) :: others, ?_, ?_, .cons ⟨rfl, hequal⟩ hequals⟩
    · rw [List.mapM_cons, hdocument, hdocuments]
      rfl
    · rw [List.mapM_cons, hread, hreads]
      rfl

/-- A selection is read again from its document. -/
theorem reread {s : Selection} (hname : s.name.truthy = true) (h : s.Listed) :
    ∃ doc t, s.document = .ok doc ∧ ofDocument doc = .ok t ∧ s.Equal t := by
  obtain ⟨documents, overrides, hdocuments, hreads, hequals⟩ := reread_overrides s.name h
  have hdocument : s.document = .ok (.record [("name", s.name),
      ("values", .ofEntries (s.values.entries.map fun e => (e.1, .str e.2))),
      ("kustomizations", .ofEntries documents)]) := by
    refine bind_eq_ok.mpr ⟨documents, hdocuments, rfl⟩
  refine ⟨_, { s with overrides := ⟨overrides⟩ }, hdocument, ?_, rfl, rfl, hequals⟩
  generalize hdoc : Value.record _ = doc at hdocument ⊢
  have hfields : doc.field "name" = pure s.name ∧
      doc.field "kustomizations" = pure (.ofEntries documents) ∧ doc.field "values" =
        pure (.ofEntries (s.values.entries.map fun e => (e.1, .str e.2))) := by
    rw [← hdoc]
    exact ⟨rfl, rfl, rfl⟩
  obtain ⟨hname', hkustomizations, hvalues⟩ := hfields
  simp only [ofDocument, hname', hkustomizations, hvalues, pure_bind, hname, entriesGiven_ofEntries,
    mapM_variableText, Bool.not_true, Bool.false_eq_true, if_false]
  exact bind_eq_ok.mpr ⟨overrides, hreads, rfl⟩

end Selection

/-! ## All of them -/

/-- **Documents are read again.** What has been read from a document of a selection, a policy, a
source of versions or a version entry can be written down, and what is read from that is equal to
it. The kinds that policies keep are meant to be lists of texts; of other ones, some cannot be
written down. -/
theorem documents_reread :
    (∀ doc p, Preservation.ofDocument doc = .ok p → p.Listed → ∃ doc' q,
      p.document = .ok doc' ∧ Preservation.ofDocument doc' = .ok q ∧ p.Equal q) ∧
    (∀ doc s, ImageSource.ofDocument doc = .ok s → ImageSource.ofDocument s.document = .ok s) ∧
    (∀ doc s, ChartSource.ofDocument doc = .ok s → ChartSource.ofDocument s.document = .ok s) ∧
    (∀ doc v, VersionEntry.ofDocument doc = .ok v → VersionEntry.ofDocument v.document = .ok v) ∧
    ∀ doc s, Selection.ofDocument doc = .ok s → s.Listed → ∃ doc' t,
      s.document = .ok doc' ∧ Selection.ofDocument doc' = .ok t ∧ s.Equal t := by
  refine ⟨fun doc p _ hlisted => ?_, fun doc s h => ?_, fun doc s h => ?_, fun doc v h => ?_,
    fun doc s h hlisted => ?_⟩
  · obtain ⟨doc', q, hdocument, -, hread, hequal⟩ := p.reread hlisted
    exact ⟨doc', q, hdocument, hread, hequal⟩
  · exact ImageSource.ofDocument_document (ImageSource.truthy_of_ofDocument h)
  · exact ChartSource.ofDocument_document (ChartSource.sound_of_ofDocument h)
  · exact VersionEntry.ofDocument_document (VersionEntry.sound_of_ofDocument h)
  · exact Selection.reread (Selection.truthy_of_ofDocument h) hlisted

/-- A policy that keeps what it lists. -/
def keepingSecrets : Value :=
  .record [("mode", "custom"), ("keep_resources", .list (.one 1) ["Secret", "ConfigMap"])]

/-- An image in a registry of the usual kind. -/
def imageDocument : Value := .record [("image", "ghcr.io/shop/web")]

/-- A chart that is found by the address of a registry. -/
def chartDocument : Value := .record [("oci", "oci://ghcr.io/charts"), ("chart", "redis")]

/-- A version that is looked up there, with fields in another order. -/
def cacheVersion : Value :=
  .record [("helm", chartDocument), ("default", .bool true), ("name", "cache")]

/-- A selection with a switch and an adjustment. -/
def shopSelection : Value :=
  .record [("kustomizations", .record [("web", .bool true),
    ("cache", .record [("preservation", keepingSecrets), ("enabled", .bool false)])]),
    ("name", "shop"), ("values", .record [("debug", .bool false), ("host", "shop.example")])]

/-- Each of them is read again, though none is written down as it was. -/
theorem documents_reread_shop :
    (∃ p, Preservation.ofDocument keepingSecrets = .ok p ∧ p.Listed ∧ ∃ doc q,
      p.document = .ok doc ∧ Preservation.ofDocument doc = .ok q ∧ p.Equal q) ∧
    (∃ s, ImageSource.ofDocument imageDocument = .ok s ∧
      ImageSource.ofDocument s.document = .ok s) ∧
    (∃ s, ChartSource.ofDocument chartDocument = .ok s ∧
      ChartSource.ofDocument s.document = .ok s) ∧
    (∃ v, VersionEntry.ofDocument cacheVersion = .ok v ∧
      VersionEntry.ofDocument v.document = .ok v) ∧
    ∃ s, Selection.ofDocument shopSelection = .ok s ∧ s.Listed ∧ ∃ doc t,
      s.document = .ok doc ∧ Selection.ofDocument doc = .ok t ∧ s.Equal t := by
  obtain ⟨hpolicy, himage, hchart, hversion, hselection⟩ := documents_reread
  have hlisted : Preservation.Listed ⟨.custom, .list (.one 1) ["Secret", "ConfigMap"]⟩ :=
    Or.inr ⟨.one 1, ["Secret", "ConfigMap"], rfl⟩
  refine ⟨⟨_, rfl, hlisted, hpolicy keepingSecrets _ rfl hlisted⟩,
    ⟨_, rfl, himage imageDocument _ rfl⟩, ⟨_, rfl, hchart chartDocument _ rfl⟩,
    ⟨_, rfl, hversion cacheVersion _ rfl⟩, ?_⟩
  obtain ⟨s, hs⟩ : ∃ s, Selection.ofDocument shopSelection = .ok s := ⟨_, rfl⟩
  have hall : s.Listed := by
    cases hs
    intro e he
    rcases List.mem_pair.mp he with rfl | rfl
    · trivial
    · exact hlisted
  exact ⟨s, hs, hall, hselection shopSelection s hs hall⟩

end FluxFleet
