import FluxFleet.Proofs.Generation
import FluxFleet.Proofs.Shape.Cluster
import FluxFleet.Proofs.Tiers

/-!
# The text of a scalar

The value of a variable is written in one of three places: as a default of the variable, as a
default of a version entry, or among the values of the cluster. Each place has a reader of its own,
which makes a text of the value, and the tiers are merged from these texts. The three places give
the same text, or fail with the same error, for every value but a truth value (`substituted_text`):
a default has it as `True` or `False`, and a cluster as `true` or `false`.
-/

namespace FluxFleet

namespace Value

variable {v : Value}

/-- A cluster has the text of a default for every value that is not a truth value. -/
theorem variableText_eq_written_iff : v.variableText = v.written ↔ ∀ b, v ≠ .bool b := by
  cases v with
  | bool b =>
    have hne : (Value.bool b).variableText ≠ (Value.bool b).written := by
      intro h
      cases b
      · exact absurd (Except.ok.inj h) (by decide)
      · exact absurd (Except.ok.inj h) (by decide)
    simp [hne]
  | _ => simp [variableText]

/-- Only a number that cannot be written has no text in a cluster. -/
theorem exists_variableText (h : v.isWritable = true) : ∃ text, v.variableText = .ok text := by
  by_cases hbool : ∃ b, v = .bool b
  · obtain ⟨b, rfl⟩ := hbool
    exact ⟨_, rfl⟩
  · rw [variableText_eq_written_iff.mpr fun b hb => hbool ⟨b, hb⟩, written, if_pos h]
    exact ⟨_, rfl⟩

theorem optionalText_of_part {doc : Value} {key : String} (hdoc : doc.isDict = true)
    (hpart : doc.part key = v) (hv : v.isNull = false) :
    doc.optionalText key = some <$> v.written := by
  rw [optionalText, field_of_isDict hdoc, pure_bind, hpart, given?, hv]
  rfl

/-- A mapping with an entry counts as given. -/
theorem entriesGiven_of_mem {entries : List (Value × Value)} (h : v.entries? = some entries)
    {e : Value × Value} (he : e ∈ entries) : v.entriesGiven = .ok entries := by
  have hgiven : v.truthy = true := by
    cases v with
    | dict mark inner =>
      cases inner with
      | nil => cases mark <;> cases h <;> cases he
      | cons _ _ => rfl
    | _ => cases h
  rw [entriesGiven, if_pos hgiven, h]
  rfl

end Value

namespace Resolution

/-! ## Documents with a value -/

/-- A document that declares the variable `n` with the default `v`. -/
structure Declares (doc n v : Value) : Prop where
  mapping : doc.isDict = true
  name : doc.part "name" = n
  fallback : doc.part "default" = v
  /-- it has what its type asks for -/
  settings : ∃ kind, Substitution.kindOfDocument (Substitution.typeOf doc) n doc = .ok kind

/-- A document of a version entry `n` with the default `v`. -/
structure Pins (doc n v : Value) : Prop where
  mapping : doc.isDict = true
  name : doc.part "name" = n
  fallback : doc.part "default" = v
  /-- it has one source -/
  source : ((doc.part "helm").isNull = true ∧ (doc.part "registry").isNull = false ∧
      ∃ image, ImageSource.ofDocument (doc.part "registry") = .ok image) ∨
    ((doc.part "helm").isNull = false ∧ (doc.part "registry").isNull = true ∧
      ∃ chart, ChartSource.ofDocument (doc.part "helm") = .ok chart)

/-- A document of a selection that sets `n` to `v`. -/
structure Sets (doc n v : Value) : Prop where
  mapping : doc.isDict = true
  name : (doc.part "name").truthy = true
  /-- each override that it has can be read -/
  overrides : ∃ entries, (doc.part "kustomizations").entriesGiven = .ok entries ∧
    ∀ e ∈ entries, ∃ o, Override.ofDocument (doc.part "name") e.1 e.2 = .ok o
  /-- what else it sets can be written -/
  values : ∃ entries, (doc.part "values").entries? = some entries ∧
    OrderedMap.find? n entries = some v ∧ ∀ e ∈ entries, e.2 = v ∨ e.2.isWritable = true

variable {doc n v : Value}

/-- A declaration is read with the text of its default. -/
theorem Declares.ofDocument (h : Declares doc n v) (hn : n.truthy = true)
    (hv : v.isNull = false) :
    ∃ kind, Substitution.ofDocument doc =
      (fun text => { name := n, fallback := some text, kind }) <$> v.written := by
  obtain ⟨kind, hkind⟩ := h.settings
  refine ⟨kind, ?_⟩
  rw [Substitution.typeOf] at hkind
  -- the name is given and the settings are there, so only the text can fail
  simp only [Substitution.ofDocument, Value.field_of_isDict h.mapping, pure_bind, h.name, hn,
    Value.optionalText_of_part h.mapping h.fallback hv, hkind]
  cases v.written <;> rfl

/-- A version entry is read with the text of its default. -/
theorem Pins.ofDocument (h : Pins doc n v) (hn : n.truthy = true) (hv : v.isNull = false) :
    ∃ source, VersionEntry.ofDocument doc =
      (fun text => { name := n, fallback := some text, constraint := doc.part "constraint",
                     tagPattern := doc.part "tag_pattern",
                     excludePrerelease := doc.part "exclude_prerelease", source }) <$>
        v.written := by
  have hdefault := Value.optionalText_of_part h.mapping h.fallback hv
  rcases h.source with ⟨hhelm, hregistry, image, himage⟩ | ⟨hhelm, hregistry, chart, hchart⟩
  · refine ⟨.image image, ?_⟩
    simp only [VersionEntry.ofDocument, Value.field_of_isDict h.mapping, pure_bind, h.name, hn,
      hdefault, hregistry, hhelm, himage]
    cases v.written <;> rfl
  · refine ⟨.chart chart, ?_⟩
    simp only [VersionEntry.ofDocument, Value.field_of_isDict h.mapping, pure_bind, h.name, hn,
      hdefault, hregistry, hhelm, hchart]
    cases v.written <;> rfl

/-- The text of an entry. -/
def textOf (e : Value × Value) : Except Error (Value × String) := do
  return (e.1, ← e.2.variableText)

theorem textOf_eq_ok_iff {e : Value × Value} {e' : Value × String} :
    textOf e = .ok e' ↔ e'.1 = e.1 ∧ e.2.variableText = .ok e'.2 := by
  obtain ⟨k, v⟩ := e
  obtain ⟨k', text⟩ := e'
  rw [textOf]
  cases v.variableText with
  | error e =>
    constructor
    · intro h
      cases h
    · rintro ⟨-, h⟩
      cases h
  | ok text' =>
    constructor
    · intro h
      cases h
      exact ⟨rfl, rfl⟩
    · rintro ⟨rfl, h⟩
      cases h
      rfl

theorem textOf_eq_error_iff {e : Value × Value} {failure : Error} :
    textOf e = .error failure ↔ e.2.variableText = .error failure := by
  rw [textOf, bind_eq_error]
  refine or_iff_left ?_
  rintro ⟨text, -, h⟩
  cases h

/-- A value is found as its text in the place where it was. -/
theorem find?_of_texts {entries : List (Value × Value)} {texts : List (Value × String)}
    (h : List.Forall₂ (fun e e' => textOf e = .ok e') entries texts)
    (hfind : OrderedMap.find? n entries = some v) :
    ∃ text, v.variableText = .ok text ∧ OrderedMap.find? n texts = some text := by
  induction h with
  | nil => cases hfind
  | @cons e e' entries texts he _ ih =>
    obtain ⟨hkey, htext⟩ := textOf_eq_ok_iff.mp he
    rw [OrderedMap.find?] at hfind
    rw [OrderedMap.find?, hkey]
    by_cases hn : (e.1 == n) = true
    · rw [if_pos hn] at hfind
      cases hfind
      exact ⟨e'.2, htext, if_pos hn⟩
    · rw [if_neg hn] at hfind
      rw [if_neg hn]
      exact ih hfind

/-- The entries of a selection have texts exactly if this value has one, and it is found there. -/
theorem mapM_textOf {entries : List (Value × Value)}
    (hfind : OrderedMap.find? n entries = some v)
    (hothers : ∀ e ∈ entries, e.2 = v ∨ e.2.isWritable = true) :
    OrderedMap.find? n <$> entries.mapM textOf = some <$> v.variableText := by
  have hwritten : ∀ e ∈ entries, e.2 = v ∨ ∃ text, e.2.variableText = .ok text :=
    fun e he => (hothers e he).imp_right Value.exists_variableText
  cases htext : v.variableText with
  | error failure =>
    obtain ⟨k, hk⟩ := OrderedMap.exists_mem_of_get?_eq_some (m := ⟨entries⟩) hfind
    rw [mapM_eq_error_of_mem hk (textOf_eq_error_iff.mpr htext) fun e he failure' hfails => ?_]
    · rfl
    · rw [textOf_eq_error_iff] at hfails
      rcases hwritten e he with hsame | ⟨text, hok⟩
      · rw [hsame, htext] at hfails
        exact (Except.error.inj hfails).symm
      · rw [hok] at hfails
        cases hfails
  | ok text =>
    obtain ⟨texts, htexts⟩ : ∃ texts, entries.mapM textOf = .ok texts := by
      refine exists_mapM_eq_ok fun e he => ?_
      rcases hwritten e he with hsame | ⟨text', hok⟩
      · exact ⟨(e.1, text), textOf_eq_ok_iff.mpr ⟨rfl, hsame ▸ htext⟩⟩
      · exact ⟨(e.1, text'), textOf_eq_ok_iff.mpr ⟨rfl, hok⟩⟩
    obtain ⟨text', hok, hfound⟩ := find?_of_texts (mapM_eq_ok_iff.mp htexts) hfind
    rw [htext] at hok
    cases hok
    rw [htexts]
    exact congrArg Except.ok hfound

/-- A selection is read with the text of its value. -/
theorem Sets.ofDocument (h : Sets doc n v) :
    (fun s => s.values.get? n) <$> Selection.ofDocument doc = some <$> v.variableText := by
  obtain ⟨entries, hentries, hfind, hothers⟩ := h.values
  obtain ⟨given, hgiven, hread⟩ := h.overrides
  obtain ⟨k, hk⟩ := OrderedMap.exists_mem_of_get?_eq_some (m := ⟨entries⟩) hfind
  obtain ⟨overrides, hoverrides⟩ : ∃ overrides, (given.mapM fun e => do
      return (e.1, ← Override.ofDocument (doc.part "name") e.1 e.2)) = pure overrides := by
    refine exists_mapM_eq_ok fun e he => ?_
    obtain ⟨o, ho⟩ := hread e he
    exact ⟨(e.1, o), bind_eq_ok.mpr ⟨o, ho, rfl⟩⟩
  have hgiven : (doc.part "kustomizations").entriesGiven = pure given := hgiven
  have hvalues : (doc.part "values").entriesGiven = pure entries :=
    Value.entriesGiven_of_mem hentries hk
  have hdoc : Selection.ofDocument doc =
      (fun texts => { name := doc.part "name", values := ⟨texts⟩, overrides := ⟨overrides⟩ }) <$>
        entries.mapM textOf := by
    simp only [Selection.ofDocument, Value.field_of_isDict h.mapping, pure_bind, h.name, hgiven,
      hoverrides, hvalues, map_eq_pure_bind]
    rfl
  rw [hdoc, ← mapM_textOf hfind hothers, Functor.map_map]
  rfl

/-! ## The three places -/

/-- The text that is substituted for a name. -/
def substituted (t : Template) (ks : Kustomization) (cluster : OrderedMap Value String)
    (n : Value) : Except Error (Option String) := do
  return (← values t ks cluster).get? n

variable {t : Template} {ks : Kustomization} {cluster : OrderedMap Value String}

theorem substituted_of_keyed (hversions : ∀ e ∈ t.versions, ∃ k, e.name.asKey = .ok k)
    (hnames : ∀ sub ∈ ks.substitutions, ∃ k, sub.name.asKey = .ok k) :
    substituted t ks cluster n =
      .ok (((clusterTier t ks cluster n).or (ownTier ks n)).or (versionTier t n)) := by
  have hmerged := values_of_keyed hversions hnames cluster
  rw [substituted, hmerged]
  exact congrArg Except.ok (get?_merge_declarations (steady_of_values_eq_ok hmerged) cluster n)

theorem clusterTier_eq_none (h : cluster.get? n = none) : clusterTier t ks cluster n = none := by
  rw [clusterTier, h, ite_self]

/-- The text for `n` if a document declares it between other variables. -/
def textOfVariable (t : Template) (ks : Kustomization) (before after : List Substitution)
    (cluster : OrderedMap Value String) (doc n : Value) : Except Error (Option String) := do
  let sub ← Substitution.ofDocument doc
  substituted t { ks with substitutions := before ++ sub :: after } cluster n

/-- The text for `n` if a document pins it between other versions. -/
def textOfVersion (t : Template) (ks : Kustomization) (before after : List VersionEntry)
    (cluster : OrderedMap Value String) (doc n : Value) : Except Error (Option String) := do
  let entry ← VersionEntry.ofDocument doc
  substituted { t with versions := before ++ entry :: after } ks cluster n

/-- The text for `n` if the selection of a cluster is that of a document. -/
def textOfSelection (t : Template) (ks : Kustomization) (doc n : Value) :
    Except Error (Option String) := do
  let s ← Selection.ofDocument doc
  substituted t ks s.values n

/-- The text of a default of a variable counts, if the cluster does not set the variable and no
later declaration of it has a default. -/
theorem textOfVariable_eq (h : Declares doc n v) (hn : n.truthy = true) (hv : v.isNull = false)
    (hkey : ∃ k, n.asKey = .ok k) {before after : List Substitution}
    (hversions : ∀ e ∈ t.versions, ∃ k, e.name.asKey = .ok k)
    (hnames : ∀ sub ∈ before ++ after, ∃ k, sub.name.asKey = .ok k)
    (hlater : ∀ sub ∈ after, (sub.name == n) = true → sub.fallback = none)
    (hunset : cluster.get? n = none) :
    textOfVariable t ks before after cluster doc n = some <$> v.written := by
  obtain ⟨kind, hdoc⟩ := h.ofDocument hn hv
  obtain ⟨_, hasKey⟩ := hkey
  rw [textOfVariable, hdoc]
  cases v.written with
  | error e => rfl
  | ok text =>
    have hnames : ∀ sub ∈ before ++ { name := n, fallback := some text, kind } :: after,
        ∃ k, sub.name.asKey = .ok k := by
      rw [List.forall_mem_append] at hnames
      rw [List.forall_mem_append, List.forall_mem_cons]
      exact ⟨hnames.1, ⟨_, hasKey⟩, hnames.2⟩
    refine (substituted_of_keyed hversions hnames).trans (congrArg Except.ok ?_)
    rw [clusterTier_eq_none hunset, Option.none_or, ownTier, List.map_append, List.map_cons,
      lastDefault_of_later (Value.steady_of_asKey hasKey).refl (List.forall_mem_map.mpr hlater)]
    rfl

/-- The text of a default of a version counts, if the cluster does not set the version, no variable
of its name has a default, and no later entry of its name has one. -/
theorem textOfVersion_eq (h : Pins doc n v) (hn : n.truthy = true) (hv : v.isNull = false)
    (hkey : ∃ k, n.asKey = .ok k) {before after : List VersionEntry}
    (hversions : ∀ e ∈ before ++ after, ∃ k, e.name.asKey = .ok k)
    (hnames : ∀ sub ∈ ks.substitutions, ∃ k, sub.name.asKey = .ok k)
    (hlater : ∀ e ∈ after, (e.name == n) = true → e.fallback = none)
    (hown : ∀ sub ∈ ks.substitutions, (sub.name == n) = true → sub.fallback = none)
    (hunset : cluster.get? n = none) :
    textOfVersion t ks before after cluster doc n = some <$> v.written := by
  obtain ⟨source, hdoc⟩ := h.ofDocument hn hv
  obtain ⟨_, hasKey⟩ := hkey
  rw [textOfVersion, hdoc]
  cases v.written with
  | error e => rfl
  | ok text =>
    refine (substituted_of_keyed ?_ hnames).trans (congrArg Except.ok ?_)
    · rw [List.forall_mem_append] at hversions
      rw [List.forall_mem_append, List.forall_mem_cons]
      exact ⟨hversions.1, ⟨_, hasKey⟩, hversions.2⟩
    · rw [clusterTier_eq_none hunset, Option.none_or, ownTier,
        lastDefault_eq_none_iff.mpr (List.forall_mem_map.mpr hown), Option.none_or, versionTier,
        List.map_append, List.map_cons,
        lastDefault_of_later (Value.steady_of_asKey hasKey).refl (List.forall_mem_map.mpr hlater)]

/-- The text of a value of the cluster counts, if its name is declared. -/
theorem textOfSelection_eq (h : Sets doc n v)
    (hversions : ∀ e ∈ t.versions, ∃ k, e.name.asKey = .ok k)
    (hnames : ∀ sub ∈ ks.substitutions, ∃ k, sub.name.asKey = .ok k)
    (hdeclared : (declarations t ks).any (·.1 == n) = true) :
    textOfSelection t ks doc n = some <$> v.variableText := by
  have hdoc := h.ofDocument
  rw [textOfSelection, ← hdoc]
  cases hs : Selection.ofDocument doc with
  | error e => rfl
  | ok s =>
    obtain ⟨text, hset⟩ : ∃ text, s.values.get? n = some text := by
      rw [hs] at hdoc
      cases htext : v.variableText with
      | error e =>
        rw [htext] at hdoc
        cases hdoc
      | ok text =>
        rw [htext] at hdoc
        exact ⟨text, Except.ok.inj hdoc⟩
    refine (substituted_of_keyed hversions hnames).trans (congrArg Except.ok ?_)
    rw [clusterTier, if_pos hdeclared, hset]
    exact hset.symm

/-- **The text of a value, wherever it is written.** The default of a variable, wherever it stands
among the variables of a kustomization, and the default of a version entry are substituted with the
same text, or fail with the same error, if no tier above them has a value. A declared name that the
cluster sets has that text too, exactly if the value is not a truth value. -/
theorem substituted_text {own entry doc : Value} (hown : Declares own n v)
    (hentry : Pins entry n v) (hdoc : Sets doc n v) (hn : n.truthy = true)
    (hkey : ∃ k, n.asKey = .ok k) (hv : v.isNull = false)
    (hversions : ∀ e ∈ t.versions, ∃ k, e.name.asKey = .ok k)
    (hnames : ∀ sub ∈ ks.substitutions, ∃ k, sub.name.asKey = .ok k)
    (hunset : cluster.get? n = none) :
    (∀ before after, before ++ after = ks.substitutions →
      (∀ sub ∈ after, (sub.name == n) = true → sub.fallback = none) →
        textOfVariable t ks before after cluster own n = some <$> v.written) ∧
    (∀ before after, before ++ after = t.versions →
      (∀ e ∈ after, (e.name == n) = true → e.fallback = none) →
      (∀ sub ∈ ks.substitutions, (sub.name == n) = true → sub.fallback = none) →
        textOfVersion t ks before after cluster entry n = some <$> v.written) ∧
    ((declarations t ks).any (·.1 == n) = true →
      textOfSelection t ks doc n = some <$> v.variableText) ∧
    (v.variableText = v.written ↔ ∀ b, v ≠ .bool b) := by
  refine ⟨fun before after hsplit hlater => ?_, fun before after hsplit hlater hown' => ?_,
    fun hdeclared => ?_, Value.variableText_eq_written_iff⟩
  · exact textOfVariable_eq hown hn hv hkey hversions (hsplit ▸ hnames) hlater hunset
  · exact textOfVersion_eq hentry hn hv hkey (hsplit ▸ hversions) hnames hlater hown' hunset
  · exact textOfSelection_eq hdoc hversions hnames hdeclared

/-! ## A number and a truth value -/

/-- A document with nothing but a name and a default declares a variable. -/
theorem declares_plain (n v : Value) : Declares (.record [("name", n), ("default", v)]) n v :=
  ⟨rfl, rfl, rfl, _, rfl⟩

/-- The document of a version entry of an image. -/
def imageVersionDocument (n v : Value) : Value :=
  .record [("name", n), ("default", v), ("registry", .record [("image", "web")])]

theorem pins_image (n v : Value) : Pins (imageVersionDocument n v) n v :=
  ⟨rfl, rfl, rfl, Or.inl ⟨rfl, rfl, _, rfl⟩⟩

/-- The document of a selection that sets one value. -/
def singleValueDocument (n v : Value) : Value :=
  .record [("name", "app"), ("values", .ofEntries [(n, v)])]

theorem sets_single {n : Value} (hn : (n == n) = true) (v : Value) :
    Sets (singleValueDocument n v) n v := by
  refine ⟨rfl, rfl, ⟨[], rfl, fun e he => ?_⟩, [(n, v)], rfl, if_pos hn, fun e he => ?_⟩
  · cases he
  · rw [List.mem_singleton.mp he]
    exact Or.inl rfl

/-- A variable that has no default yet. -/
def verbosity : Substitution :=
  { name := "verbose", fallback := none, kind := .generic .null .null }

/-- A kustomization with that variable. -/
def talker : Kustomization := { Kustomization.bare "server" [] with substitutions := [verbosity] }

/-- The template of it. -/
def talking : Template := { name := "app", kustomizations := [talker], versions := [] }

theorem three_has_one_text :
    textOfVariable talking talker [verbosity] [] .empty
      (.record [("name", "verbose"), ("default", .int 3)]) "verbose" = .ok (some "3") ∧
    textOfVersion talking talker [] [] .empty (imageVersionDocument "verbose" (.int 3)) "verbose" =
      .ok (some "3") ∧
    textOfSelection talking talker (singleValueDocument "verbose" (.int 3)) "verbose" =
      .ok (some "3") := by
  have hversions : ∀ e ∈ talking.versions, ∃ k, e.name.asKey = .ok k := fun e he => by cases he
  have hnames : ∀ sub ∈ talker.substitutions, ∃ k, sub.name.asKey = .ok k := by
    intro sub hsub
    rw [List.mem_singleton.mp hsub]
    exact ⟨_, rfl⟩
  have hunset : (OrderedMap.empty : OrderedMap Value String).get? "verbose" = none := rfl
  have hwritten : (Value.int 3).written = .ok "3" := by
    have h : (Value.int 3).isWritable = true := Value.isWritable_byte 3
    rw [Value.written, if_pos h]
    rfl
  obtain ⟨hvariable, hversion, hselection, hsame⟩ :=
    substituted_text (declares_plain "verbose" (.int 3)) (pins_image "verbose" (.int 3))
      (sets_single (by decide) (.int 3)) rfl ⟨_, rfl⟩ rfl hversions hnames hunset
  refine ⟨(hvariable [verbosity] [] rfl (by decide)).trans ?_,
    (hversion [] [] rfl (by decide) (by decide)).trans ?_, (hselection (by decide)).trans ?_⟩
  · rw [hwritten]
    rfl
  · rw [hwritten]
    rfl
  · rw [hsame.mpr (by simp), hwritten]
    rfl

/-- **A truth value has two texts.** As a default, of a variable or of a version, `true` is `True`;
as a value of the cluster it is `true`. -/
theorem true_has_two_texts :
    textOfVariable talking talker [verbosity] [] .empty
      (.record [("name", "verbose"), ("default", .bool true)]) "verbose" = .ok (some "True") ∧
    textOfVersion talking talker [] [] .empty (imageVersionDocument "verbose" (.bool true))
      "verbose" = .ok (some "True") ∧
    textOfSelection talking talker (singleValueDocument "verbose" (.bool true)) "verbose" =
      .ok (some "true") :=
  ⟨rfl, rfl, rfl⟩

end Resolution

end FluxFleet
