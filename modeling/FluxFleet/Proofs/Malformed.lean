import FluxFleet.Project
import FluxFleet.Proofs.Shape.Cluster

/-!
# Malformed documents

A template or a cluster that is refused should be refused with an input error, which then names its
file. This holds for every document that has the shape its reader relies on, and whose whole numbers
can be written; a document that ends in another error fails in one of these two ways
(`Project.malformed_named`). Not every mapping has the shape: a cluster that leaves out a required
field of its repository ends in an error that names no file (`Project.unfinished_escapes`).
-/

namespace FluxFleet.Project

/-- The result of a reader of files, if the document is read. -/
theorem run_read {α : Type} {stack : Stack} {fs : FileSystem} {p : Path} {doc : Value}
    {first next : Nat} (h : document stack fs p first = .ok (doc, next)) (k : Value → Loader α) :
    ((StateT.mk (document stack fs p) : Loader Value) >>= k).run first = (k doc).run next := by
  change (document stack fs p first >>= fun r => (k r.1).run r.2) = _
  rw [h]
  rfl

/-- An input error gets the name of the file. -/
theorem blaming_reading {α : Type} {escapes : List ErrorFamily} {W S : Prop}
    {x : Except Error α} (h : Reading escapes W S x) (hW : W) (hS : S)
    (fault : String → InputFault) :
    (∃ a, x = .ok a) ∨ ∃ reason, blaming fault x = .error (.input (fault reason)) := by
  cases x with
  | ok a => exact Or.inl ⟨a, rfl⟩
  | error e =>
    obtain ⟨inner, rfl⟩ := h.eq_input hW hS rfl
    exact Or.inr ⟨inner.message, rfl⟩

/-- **Malformed documents are refused under the name of their file.** A document that is accepted
has the shape that its reader relies on. A document that is refused is refused with an input error;
any other error means that a whole number is too long to be written, or that the document does not
have this shape. So a file whose document has the shape, and can be written, is read or refused
under its name. -/
theorem malformed_named (doc : Value) :
    ((∀ t, Template.ofDocument doc = .ok t → Template.Shaped doc) ∧
      ∀ e, Template.ofDocument doc = .error e → (∃ fault, e = .input fault) ∨
        (e.family = .value ∧ ¬ doc.isWritable = true) ∨
        (e.family ∈ [.attribute, .type] ∧ ¬ Template.Shaped doc)) ∧
    ((∀ c, Cluster.ofDocument doc = .ok c → Cluster.Shaped doc) ∧
      ∀ e, Cluster.ofDocument doc = .error e → (∃ fault, e = .input fault) ∨
        (e.family = .value ∧ ¬ doc.isWritable = true) ∨
        (e.family ∈ [.attribute, .type, .missingField] ∧ ¬ Cluster.Shaped doc)) ∧
    ∀ stack fs p first next, document stack fs p first = .ok (doc, next) → doc.isWritable = true →
      (Template.Shaped doc → ∀ directory,
        (∃ t, (template stack fs directory p).run first = .ok (t, next)) ∨
        ∃ reason, (template stack fs directory p).run first =
          .error (.input (.templateFile p.text reason))) ∧
      (Cluster.Shaped doc →
        (∃ c, (cluster stack fs p).run first = .ok (c, next)) ∨
        ∃ reason,
          (cluster stack fs p).run first = .error (.input (.clusterFile p.text reason))) := by
  refine ⟨⟨fun _ => (Template.reading doc).shaped_of_eq_ok, fun _ => (Template.reading doc).reason⟩,
    ⟨fun _ => (Cluster.reading doc).shaped_of_eq_ok, fun _ => (Cluster.reading doc).reason⟩,
    fun stack fs p first next hread hwritable => ⟨fun hshaped directory => ?_, fun hshaped => ?_⟩⟩
  · rw [template, run_read hread]
    rcases blaming_reading (Template.reading doc) hwritable hshaped (.templateFile p.text) with
      ⟨t, ht⟩ | ⟨reason, h⟩
    · rw [ht]
      exact Or.inl ⟨_, rfl⟩
    · rw [h]
      exact Or.inr ⟨reason, rfl⟩
  · rw [cluster, run_read hread]
    rcases blaming_reading (Cluster.reading doc) hwritable hshaped (.clusterFile p.text) with
      ⟨c, hc⟩ | ⟨reason, h⟩
    · rw [hc]
      exact Or.inl ⟨c, rfl⟩
    · rw [h]
      exact Or.inr ⟨reason, rfl⟩

/-- The file of a cluster without a source. -/
def sourceless : FileSystem :=
  { root := .directory [("clusters", .directory [("prod", .directory [("cluster.yaml",
      .file (Text.bytesOf ("\x7bapiVersion: kustodian.io/v1, kind: Cluster, " ++
        "metadata: \x7bname: prod\x7d, spec: \x7btemplates: []\x7d\x7d")))])])] }

/-- The place of this file. -/
def sourcelessFile : Path := Path.ofString "/clusters/prod/cluster.yaml"

/-- A cluster without a source is refused under the name of its file. -/
theorem sourceless_named : ∃ reason, (cluster {} sourceless sourcelessFile).run 0 =
    .error (.input (.clusterFile "/clusters/prod/cluster.yaml" reason)) := by
  -- what is needed of the document can be evaluated along with it
  have hchecks : (document {} sourceless sourcelessFile 0).toOption.any (fun r => decide (
      r.1.isWritable = true ∧ r.1.isDict = true ∧ (r.1.part "apiVersion").IsText ∧
      (r.1.part "metadata").isDict = true ∧ (r.1.part "spec").isDict = true ∧
      ((r.1.part "spec").part "git").isNull = true ∧
      ((r.1.part "spec").part "oci").isNull = true ∧
      ¬ ((r.1.part "spec").part "templates").truthy = true ∧
      ¬ ((r.1.part "spec").part "plugins").truthy = true ∧
      ((cluster {} sourceless sourcelessFile).run 0).toOption.isNone = true)) = true := by
    decide +kernel
  rcases hread : document {} sourceless sourcelessFile 0 with e | ⟨doc, next⟩
  · rw [hread] at hchecks
    cases hchecks
  rw [hread] at hchecks
  obtain ⟨hwritable, hdoc, hversion, hmetadata, hspec, hgit, hoci, hselections, hplugins,
    hrefused⟩ := of_decide_eq_true hchecks
  have hshaped : Cluster.Shaped doc :=
    { mapping := hdoc
      apiVersion := fun _ => hversion
      metadata := fun _ => hmetadata
      spec := fun _ => hspec
      git := Value.hasKeys_of_isNull hgit _
      oci := Value.hasKeys_of_isNull hoci _
      selections := fun h => absurd h hselections
      plugins := fun h => absurd h hplugins }
  rcases ((malformed_named doc).2.2 _ _ _ _ _ hread hwritable).2 hshaped with ⟨c, hc⟩ | hnamed
  · rw [hc] at hrefused
    cases hrefused
  · exact hnamed

/-- A cluster that leaves out a required field of its repository. -/
def unfinished : Value := .record
  [("apiVersion", .str "kustodian.io/v1"), ("kind", .str "Cluster"),
    ("metadata", .record [("name", .str "prod")]),
    ("spec", .record [("git", .record [("owner", .str "example")])])]

/-- A template whose version is a number. -/
def numbered : Value := .record
  [("apiVersion", .int 1), ("kind", .str "Template"), ("metadata", .record [("name", .str "shop")]),
    ("spec", .record [("kustomizations", .ofList [.record [("name", .str "web"),
      ("path", .str "./web")]])])]

/-- **Other errors escape.** A field that is left out and a value of another kind are mappings like
any other document, and end in errors that are neither results nor input errors. -/
theorem unfinished_escapes :
    (unfinished.isDict = true ∧ unfinished.isWritable = true ∧
      Cluster.ofDocument unfinished = .error (.missingField "GitConfig" "repository") ∧
      ¬ ((∃ c, Cluster.ofDocument unfinished = .ok c) ∨
        ∃ fault, Cluster.ofDocument unfinished = .error (.input fault))) ∧
    numbered.isDict = true ∧ numbered.isWritable = true ∧
      Template.ofDocument numbered = .error (.noAttribute "int" "startswith") ∧
      ¬ ((∃ t, Template.ofDocument numbered = .ok t) ∨
        ∃ fault, Template.ofDocument numbered = .error (.input fault)) := by
  have hcluster : Cluster.ofDocument unfinished = .error (.missingField "GitConfig" "repository") :=
    rfl
  have htemplate : Template.ofDocument numbered = .error (.noAttribute "int" "startswith") := rfl
  refine ⟨⟨rfl, rfl, hcluster, ?_⟩, rfl, by decide +kernel, htemplate, ?_⟩
  · rw [hcluster]
    rintro (⟨_, h⟩ | ⟨_, h⟩) <;> cases h
  · rw [htemplate]
    rintro (⟨_, h⟩ | ⟨_, h⟩) <;> cases h

end FluxFleet.Project
