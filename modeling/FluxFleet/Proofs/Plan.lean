import FluxFleet.Output
import FluxFleet.Proofs.FileSystem.Path

/-!
# What is planned to be written

The resource files of a result hold its own documents and those of plugins (`documents`). Each file
holds the text of a document of its path (`exists_document`); documents of different paths have a
file each, in their order (`entries_of_store`). No file of a plugin takes the path of the root file
or of the controller patches (`Additional`). The root file comes last, behind the resources and the
patches (`plan_eq_ok`).
-/

namespace FluxFleet

namespace Output

variable {form : Yaml.Node.Form} {g : Generation} {format : String}

/-- A document with the path of its file and the format that it is written in. -/
structure Planned where
  path : String
  content : Content
  format : String

/-- A file that holds a document. -/
def IsFileOf (form : Yaml.Node.Form) (f : String × String) (d : Planned) : Prop :=
  f.1 = d.path ∧ serialize form d.content d.format = .ok f.2

/-- Take in the text of a document. -/
def store (form : Yaml.Node.Form) (files : OrderedMap String String) (d : Planned) :
    Except Error (OrderedMap String String) := do
  return files.insert d.path (← serialize form d.content d.format)

/-- The documents of a result itself. -/
def ownDocuments (g : Generation) (format : String) : List Planned :=
  (g.manifests.map fun m => ⟨manifestFile m format, .single m.manifest.document, format⟩) ++
    (g.repository.toList.map fun r => ⟨s!"oci-repository.{format}", .single r.document, format⟩) ++
    if g.namespaces.isEmpty then []
    else [⟨s!"namespaces.{format}", .many (g.namespaces.map (·.document)), format⟩]

/-- The document that a plugin has put at a path. -/
def addition? (format : String) (entry : Value × Value) : Option Planned :=
  match entry.1 with
  | .str written =>
    let path := Path.ofString written
    some ⟨path.text, Content.ofValue entry.2, formatFor path format⟩
  | _ => none

/-- All documents that resource files are written for. -/
def documents (g : Generation) (format : String) : List Planned :=
  ownDocuments g format ++ g.additional.entries.filterMap (addition? format)

/-- What is known of a document that a plugin has put at a path: the path stays below the directory
and is not one of the paths that are taken. -/
structure Additional (format : String) (d : Planned) : Prop where
  named : ∃ path : Path, path.root = "" ∧ ".." ∉ path.parts ∧ (∀ n ∈ path.parts, Path.Plain n) ∧
    d.path = path.text ∧ d.format = formatFor path format
  notRoot : d.path ≠ rootFile
  notPatches : d.path ≠ patchesFile format

/-! ## Paths that do not depend on a document -/

theorem ofString_repositoryFile (h : format ∈ formats) :
    Path.ofString s!"oci-repository.{format}" = { parts := [s!"oci-repository.{format}"] } := by
  rcases List.mem_pair.mp h with rfl | rfl <;> decide

theorem ofString_namespacesFile (h : format ∈ formats) :
    Path.ofString s!"namespaces.{format}" = { parts := [s!"namespaces.{format}"] } := by
  rcases List.mem_pair.mp h with rfl | rfl <;> decide

theorem ofString_patchesFile (h : format ∈ formats) :
    Path.ofString (patchesFile format) = { parts := ["flux-system", s!"patches.{format}"] } := by
  rcases List.mem_pair.mp h with rfl | rfl <;> decide

theorem ofString_rootFile : Path.ofString rootFile = { parts := [rootFile] } := rfl

/-! ## The resource files -/

/-- The resource files of a result itself are those of its own documents. -/
theorem generatedFiles_eq (form : Yaml.Node.Form) (g : Generation) (format : String) :
    generatedFiles form g format = (ownDocuments g format).foldlM (store form) .empty := by
  have hlast : ∀ files : OrderedMap String String,
      (if g.namespaces.isEmpty then pure files else do
        let text ← serialize form (.many (g.namespaces.map (·.document))) format
        pure (files.insert s!"namespaces.{format}" text)) =
      List.foldlM (store form) files (if g.namespaces.isEmpty then []
        else [⟨s!"namespaces.{format}", .many (g.namespaces.map (·.document)), format⟩]) := by
    intro files
    split
    · rfl
    · rw [List.foldlM_cons, store]
      cases serialize form (.many (g.namespaces.map (·.document))) format <;> rfl
  rw [generatedFiles, ownDocuments, List.append_assoc, List.foldlM_append, List.foldlM_map]
  refine bind_congr fun files => ?_
  rw [List.foldlM_append]
  cases g.repository with
  | none => exact hlast files
  | some r =>
    rw [Option.toList_some, List.map_singleton, List.foldlM_cons, store]
    dsimp only
    rcases serialize form (.single r.document) format with e | text
    · rfl
    · exact hlast _

/-- Files have the paths of their documents. -/
theorem paths_eq_of_files {fs : List (String × String)} {ds : List Planned}
    (h : List.Forall₂ (IsFileOf form) fs ds) : fs.map (·.1) = ds.map (·.path) := by
  induction h with
  | nil => rfl
  | cons hfile _ ih => rw [List.map_cons, List.map_cons, hfile.1, ih]

theorem exists_file {fs : List (String × String)} {ds : List Planned}
    (h : List.Forall₂ (IsFileOf form) fs ds) {d : Planned} (hd : d ∈ ds) :
    ∃ f ∈ fs, IsFileOf form f d := by
  induction h with
  | nil => cases hd
  | cons hfile _ ih =>
    rcases List.mem_cons.mp hd with rfl | hd
    · exact ⟨_, List.mem_cons_self, hfile⟩
    · obtain ⟨f, hf, hfile⟩ := ih hd
      exact ⟨f, List.mem_cons_of_mem _ hf, hfile⟩

theorem store_eq_ok {files files' : OrderedMap String String} {d : Planned} :
    store form files d = .ok files' ↔
      ∃ text, serialize form d.content d.format = .ok text ∧ files' = files.insert d.path text := by
  rw [store, bind_eq_ok]
  constructor
  · rintro ⟨text, htext, h⟩
    cases h
    exact ⟨text, htext, rfl⟩
  · rintro ⟨text, htext, rfl⟩
    exact ⟨text, htext, rfl⟩

/-- The keys of a mapping into which documents have been taken are their paths. -/
theorem mem_keys_of_store {ds : List Planned} {start r : OrderedMap String String}
    (h : ds.foldlM (store form) start = .ok r) {k : String} :
    k ∈ r.keys ↔ k ∈ start.keys ∨ k ∈ ds.map (·.path) := by
  induction ds generalizing start with
  | nil =>
    cases h
    simp
  | cons d ds ih =>
    rw [List.foldlM_cons] at h
    obtain ⟨next, hstore, h⟩ := bind_eq_ok.mp h
    obtain ⟨text, -, rfl⟩ := store_eq_ok.mp hstore
    rw [ih h, OrderedMap.mem_keys_insert, List.map_cons, List.mem_cons, or_assoc, or_left_comm]

/-- What a file holds that has been taken in is the text of a document of its path. -/
theorem exists_document {ds : List Planned} {start r : OrderedMap String String}
    (h : ds.foldlM (store form) start = .ok r) {e : String × String} (he : e ∈ r.entries) :
    e ∈ start.entries ∨ ∃ d ∈ ds, IsFileOf form e d := by
  induction ds generalizing start with
  | nil =>
    cases h
    exact Or.inl he
  | cons d ds ih =>
    rw [List.foldlM_cons] at h
    obtain ⟨next, hstore, h⟩ := bind_eq_ok.mp h
    obtain ⟨text, htext, rfl⟩ := store_eq_ok.mp hstore
    rcases ih h with hnext | ⟨d', hd', hfile⟩
    · rcases OrderedMap.mem_entries_insert hnext with hstart | rfl
      · exact Or.inl hstart
      · exact Or.inr ⟨d, List.mem_cons_self, rfl, htext⟩
    · exact Or.inr ⟨d', List.mem_cons_of_mem _ hd', hfile⟩

/-- Documents of new and different paths get a file each, behind what there is. -/
theorem entries_of_store {ds : List Planned} {start r : OrderedMap String String}
    (h : ds.foldlM (store form) start = .ok r) (hnew : ∀ d ∈ ds, d.path ∉ start.keys)
    (hnodup : (ds.map (·.path)).Nodup) :
    ∃ row, r.entries = start.entries ++ row ∧ List.Forall₂ (IsFileOf form) row ds := by
  induction ds generalizing start with
  | nil =>
    cases h
    exact ⟨[], (List.append_nil _).symm, .nil⟩
  | cons d ds ih =>
    rw [List.foldlM_cons] at h
    obtain ⟨next, hstore, h⟩ := bind_eq_ok.mp h
    obtain ⟨text, htext, rfl⟩ := store_eq_ok.mp hstore
    rw [List.map_cons, List.nodup_cons] at hnodup
    have hfree : start.contains d.path = false := by
      rw [Bool.eq_false_iff, Ne, OrderedMap.contains_iff_mem_keys]
      exact hnew d List.mem_cons_self
    have hrest : ∀ d' ∈ ds, d'.path ∉ (start.insert d.path text).keys := by
      intro d' hd' hmem
      rcases (OrderedMap.mem_keys_insert _ _ _ _).mp hmem with heq | hmem
      · exact hnodup.1 (List.mem_map.mpr ⟨d', hd', heq⟩)
      · exact hnew d' (List.mem_cons_of_mem _ hd') hmem
    obtain ⟨row, hrow, hfiles⟩ := ih h hrest hnodup.2
    rw [OrderedMap.entries_insert_of_not_contains start text hfree, List.append_assoc,
      List.singleton_append] at hrow
    exact ⟨(d.path, text) :: row, hrow, .cons ⟨rfl, htext⟩ hfiles⟩

/-- A plugin's document is taken in if its path is free and stays below the directory. -/
theorem of_addFile {files files' : OrderedMap String String} {entry : Value × Value}
    (h : addFile form format files entry = .ok files') :
    ∃ d, addition? format entry = some d ∧ Additional format d ∧ files.contains d.path = false ∧
      store form files d = .ok files' := by
  obtain ⟨key, v⟩ := entry
  obtain ⟨written, rfl⟩ : ∃ written, key = .str written := by
    obtain ⟨written, hwritten, -⟩ := bind_eq_ok.mp h
    cases key <;> cases hwritten
    exact ⟨_, rfl⟩
  have hplain : ∀ n ∈ (Path.ofString written).parts, Path.Plain n :=
    fun n hn => Path.plain_of_mem_parts hn
  rw [addFile, pathText] at h
  simp only [pure_bind] at h
  simp only [addition?]
  generalize Path.ofString written = path at h hplain ⊢
  split at h
  · cases h
  next hrelative =>
  split at h
  · cases h
  next hfree =>
  obtain ⟨text, htext, h⟩ := bind_eq_ok.mp h
  cases h
  rw [Bool.or_eq_true, not_or, Bool.not_eq_true] at hrelative
  rw [Bool.or_eq_true, not_or] at hfree
  obtain ⟨habsolute, hclimbs⟩ := hrelative
  obtain ⟨hreserved, hnew⟩ := hfree
  rw [Path.climbs, List.contains_iff_mem] at hclimbs
  rw [List.contains_iff_mem, List.mem_pair, not_or] at hreserved
  refine ⟨_, rfl, ⟨⟨path, Path.isAbsolute_eq_false_iff.mp habsolute, hclimbs, hplain, rfl, rfl⟩,
    hreserved.1, hreserved.2⟩, Bool.eq_false_iff.mpr hnew, store_eq_ok.mpr ⟨text, htext, rfl⟩⟩

/-- The documents of plugins are taken in one after another, each at a path that is free. -/
theorem of_foldlM_addFile {entries : List (Value × Value)} {start r : OrderedMap String String}
    (h : entries.foldlM (addFile form format) start = .ok r) :
    (entries.filterMap (addition? format)).foldlM (store form) start = .ok r ∧
      (∀ d ∈ entries.filterMap (addition? format), Additional format d ∧ d.path ∉ start.keys) ∧
      ((entries.filterMap (addition? format)).map (·.path)).Nodup := by
  induction entries generalizing start with
  | nil => exact ⟨h, fun _ hd => absurd hd List.not_mem_nil, List.nodup_nil⟩
  | cons entry entries ih =>
    rw [List.foldlM_cons] at h
    obtain ⟨next, hentry, h⟩ := bind_eq_ok.mp h
    obtain ⟨d, hd, hadditional, hfree, hstore⟩ := of_addFile hentry
    obtain ⟨hfold, hall, hnodup⟩ := ih h
    obtain ⟨text, -, hnext⟩ := store_eq_ok.mp hstore
    have hfree : d.path ∉ start.keys := by
      rw [← OrderedMap.contains_iff_mem_keys, hfree]
      exact Bool.false_ne_true
    have hkeys : ∀ k, k ∈ next.keys ↔ k = d.path ∨ k ∈ start.keys := by
      intro k
      rw [hnext, OrderedMap.mem_keys_insert]
    rw [List.filterMap_cons_some hd]
    refine ⟨?_, ?_, ?_⟩
    · rw [List.foldlM_cons, hstore]
      exact hfold
    · intro d' hd'
      rcases List.mem_cons.mp hd' with rfl | hd'
      · exact ⟨hadditional, hfree⟩
      · exact ⟨(hall d' hd').1, fun hmem => (hall d' hd').2 ((hkeys _).mpr (Or.inr hmem))⟩
    · rw [List.map_cons, List.nodup_cons]
      refine ⟨fun hmem => ?_, hnodup⟩
      obtain ⟨d', hd', hpath⟩ := List.mem_map.mp hmem
      exact (hall d' hd').2 ((hkeys _).mpr (Or.inl hpath))

/-- The resource files of a result are those of its documents. -/
theorem files_eq_ok {resources : OrderedMap String String}
    (h : files form g format = .ok resources) :
    (documents g format).foldlM (store form) .empty = .ok resources ∧
      (∀ d ∈ g.additional.entries.filterMap (addition? format), Additional format d ∧
        d.path ∉ (ownDocuments g format).map (·.path)) ∧
      ((g.additional.entries.filterMap (addition? format)).map (·.path)).Nodup := by
  obtain ⟨own, hown, h⟩ := bind_eq_ok.mp h
  rw [generatedFiles_eq] at hown
  obtain ⟨hfold, hall, hnodup⟩ := of_foldlM_addFile h
  refine ⟨?_, fun d hd => ⟨(hall d hd).1, fun hmem => (hall d hd).2 ?_⟩, hnodup⟩
  · rw [documents, List.foldlM_append]
    exact bind_eq_ok.mpr ⟨own, hown, hfold⟩
  · exact (mem_keys_of_store hown).mpr (Or.inr hmem)

/-- A path that no plugin may put a document at. -/
def Refused (format written : String) : Prop :=
  (Path.ofString written).isAbsolute = true ∨ (Path.ofString written).climbs = true ∨
    (Path.ofString written).text = rootFile ∨ (Path.ofString written).text = patchesFile format

/-- A plugin's document at such a path fails the whole. -/
theorem exists_files_eq_error {written : String} {v : Value}
    (hentry : (.str written, v) ∈ g.additional.entries) (h : Refused format written) :
    ∃ e, files form g format = .error e := by
  rcases hfiles : files form g format with e | resources
  · exact ⟨e, rfl⟩
  obtain ⟨start, -, hfold⟩ := bind_eq_ok.mp hfiles
  obtain ⟨before, after, hsplit⟩ := List.append_of_mem hentry
  rw [hsplit, List.foldlM_append] at hfold
  obtain ⟨mid, -, hfold⟩ := bind_eq_ok.mp hfold
  rw [List.foldlM_cons] at hfold
  obtain ⟨next, hadd, -⟩ := bind_eq_ok.mp hfold
  exfalso
  rw [addFile, pathText] at hadd
  simp only [pure_bind] at hadd
  rw [Refused] at h
  generalize Path.ofString written = path at h hadd
  split at hadd
  · cases hadd
  next hrelative =>
  split at hadd
  · cases hadd
  next hfree =>
  rw [Bool.or_eq_true, not_or] at hrelative hfree
  rw [List.contains_iff_mem, List.mem_pair, not_or] at hfree
  rcases h with h | h | h | h
  · exact hrelative.1 h
  · exact hrelative.2 h
  · exact hfree.1.1 h
  · exact hfree.1.2 h

/-! ## The plan -/

theorem plan_of_format (h : format ∉ formats) :
    plan form g format = .error (.output (.format format)) := by
  rw [plan, if_pos (by simpa using h)]
  rfl

/-- The document of the controller patches, if there are any. -/
def patchDocument? (g : Generation) (format : String) : Option Planned :=
  match g.controllerPatches with
  | some (p :: ps) => some ⟨patchesFile format, .many (patchDocuments (p :: ps)), format⟩
  | _ => none

/-- The files of controller patches have one path. -/
theorem path_of_mem_patchFiles {patchFiles : List (String × String)}
    (h : List.Forall₂ (IsFileOf form) patchFiles (patchDocument? g format).toList)
    {f : String × String} (hf : f ∈ patchFiles) : f.1 = patchesFile format := by
  rw [patchDocument?] at h
  split at h
  · cases h with
    | cons hpatch hnil =>
      cases hnil
      obtain rfl := List.mem_singleton.mp hf
      exact hpatch.1
  · cases h
    cases hf

/-- Write a document as a file. -/
def fileOf (form : Yaml.Node.Form) (d : Planned) : Except Error (String × String) := do
  return (d.path, ← serialize form d.content d.format)

theorem fileOf_eq_ok {d : Planned} {f : String × String} :
    fileOf form d = .ok f ↔ IsFileOf form f d := by
  constructor
  · intro h
    obtain ⟨text, htext, h⟩ := bind_eq_ok.mp h
    cases h
    exact ⟨rfl, htext⟩
  · rintro ⟨hpath, htext⟩
    exact bind_eq_ok.mpr ⟨f.2, htext, by rw [← hpath]; rfl⟩

/-- In a known format a plan is made of the files of all documents, one stage after another. -/
theorem plan_of_mem_formats (hformat : format ∈ formats) : plan form g format = (do
    let resources ← files form g format
    let patchFiles ← (patchDocument? g format).toList.mapM (fileOf form)
    let rootText ← serialize form (.single (root (listed resources.keys) g)) "yaml"
    return sortedFiles resources ++ patchFiles ++ [(rootFile, rootText)]) := by
  rw [plan, if_neg (by simpa using hformat), patchDocument?]
  rcases hpatches : g.controllerPatches with _ | ⟨_ | ⟨p, ps⟩⟩
  · rfl
  · rfl
  · simp only [Option.toList_some, List.mapM_cons, List.mapM_nil, fileOf, bind_assoc, pure_bind]

/-- A plan holds the resource files in ascending order, the controller patches if there are any, and
the root file. -/
theorem plan_eq_ok {planned : List (String × String)} (h : plan form g format = .ok planned) :
    format ∈ formats ∧ ∃ resources patchFiles rootText, files form g format = .ok resources ∧
      List.Forall₂ (IsFileOf form) patchFiles (patchDocument? g format).toList ∧
      serialize form (.single (root (listed resources.keys) g)) "yaml" = .ok rootText ∧
      planned = sortedFiles resources ++ patchFiles ++ [(rootFile, rootText)] := by
  by_cases hformat : format ∈ formats
  · rw [plan_of_mem_formats hformat] at h
    obtain ⟨resources, hresources, h⟩ := bind_eq_ok.mp h
    obtain ⟨patchFiles, hpatches, h⟩ := bind_eq_ok.mp h
    obtain ⟨rootText, hroot, h⟩ := bind_eq_ok.mp h
    cases h
    have hfiles : List.Forall₂ (IsFileOf form) patchFiles (patchDocument? g format).toList :=
      ((mapM_eq_ok_iff.mp hpatches).imp fun _ _ => fileOf_eq_ok.mp).flip
    exact ⟨hformat, resources, patchFiles, rootText, hresources, hfiles, hroot, rfl⟩
  · rw [plan_of_format hformat] at h
    cases h

/-- A result whose resource files cannot be made has no plan. -/
theorem exists_plan_eq_error {e : Error} (h : files form g format = .error e) :
    ∃ e, plan form g format = .error e := by
  rcases hplan : plan form g format with e' | planned
  · exact ⟨e', rfl⟩
  · obtain ⟨-, resources, -, -, hfiles, -⟩ := plan_eq_ok hplan
    rw [h] at hfiles
    cases hfiles

end Output

end FluxFleet
