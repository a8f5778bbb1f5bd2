import FluxFleet.Proofs.Ascending
import FluxFleet.Proofs.Layout
import FluxFleet.Proofs.Publish
import FluxFleet.Proofs.Serialization

/-!
# What a run publishes

A result whose resource files can be made can be planned as a whole, since the controller patches
and the root document are texts (`exists_plan_eq_ok`). If no write fails, each file has a place of
its own and can be read there, and the root file lists what is written (`generate_published`).
-/

namespace FluxFleet

/-! ## The documents of texts -/

/-- A controller patch is a document of texts. -/
theorem Patch.textual_document {p : Patch} {kind : String} (h : p.kind = .str kind) :
    p.document.Textual 2 := by
  rw [document, h]
  refine .record fun f hf => ?_
  rcases List.mem_pair.mp hf with rfl | rfl
  · exact .text _
  · refine .record fun f hf => ?_
    rcases List.mem_append.mp hf with hf | hf
    · obtain rfl := List.mem_singleton.mp hf
      exact .text kind
    · cases hname : p.name with
      | none =>
        rw [hname] at hf
        cases hf
      | some name =>
        rw [hname] at hf
        obtain rfl := List.mem_singleton.mp hf
        exact .text name

namespace Output

variable {form : Yaml.Node.Form} {g : Generation} {format : String} {names : List String}
  {resources : OrderedMap String String}

/-- So are the controller patches of a result together. -/
theorem textual_patchDocuments {ps : List Patch}
    (h : ∀ p ∈ ps, ∃ kind : String, p.kind = .str kind) :
    (Value.ofList (patchDocuments ps)).Textual 3 := by
  refine .ofList fun v hv => ?_
  obtain ⟨p, hp, rfl⟩ := List.mem_map.mp hv
  obtain ⟨kind, hkind⟩ := h p hp
  exact Patch.textual_document hkind

section Textual

variable (htextual : ∀ ps, g.controllerPatches = some ps →
  ∀ p ∈ ps, ∃ kind : String, p.kind = .str kind)
include htextual

/-- So is the root document. -/
theorem textual_root (names : List String) : (root names g).Textual 4 := by
  rw [root]
  refine .record fun f hf => ?_
  rcases List.mem_append.mp hf with hf | hf
  · rcases List.mem_cons.mp hf with rfl | hf
    · exact .text _
    rcases List.mem_pair.mp hf with rfl | rfl
    · exact .text _
    · refine .ofList fun v hv => ?_
      obtain ⟨name, -, rfl⟩ := List.mem_map.mp hv
      exact .text name
  · split at hf
    · next p ps hpatches =>
      obtain rfl := List.mem_singleton.mp hf
      exact textual_patchDocuments (htextual _ hpatches)
    · cases hf

/-- The controller patches of a result can be written. -/
theorem exists_serialize_patches (hform : form.sortKeys = false) (hformat : format ∈ formats)
    {d : Planned} (hd : d ∈ (patchDocument? g format).toList) :
    ∃ text, serialize form d.content d.format = .ok text := by
  rw [patchDocument?] at hd
  split at hd
  · next p ps hpatches =>
    obtain rfl := List.mem_singleton.mp hd
    exact exists_serialize hform hformat (textual_patchDocuments (htextual _ hpatches))
      (by decide)
  · cases hd

/-- A result can be planned if its resource files can be made. -/
theorem exists_plan_eq_ok (hform : form.sortKeys = false) (hformat : format ∈ formats)
    (hfiles : files form g format = .ok resources) :
    ∃ planned, plan form g format = .ok planned := by
  obtain ⟨patchFiles, hpatches⟩ :
      ∃ patchFiles, (patchDocument? g format).toList.mapM (fileOf form) = .ok patchFiles := by
    refine exists_mapM_eq_ok fun d hd => ?_
    obtain ⟨text, htext⟩ := exists_serialize_patches htextual hform hformat hd
    exact ⟨(d.path, text), fileOf_eq_ok.mpr ⟨rfl, htext⟩⟩
  obtain ⟨rootText, hroot⟩ : ∃ text,
      serialize form (.single (root (listed resources.keys) g)) "yaml" = .ok text :=
    exists_serialize hform List.mem_cons_self (textual_root htextual _) (by decide)
  rw [plan_of_mem_formats hformat]
  exact ⟨_, bind_eq_ok.mpr ⟨resources, hfiles,
    bind_eq_ok.mpr ⟨patchFiles, hpatches, bind_eq_ok.mpr ⟨rootText, hroot, rfl⟩⟩⟩⟩

end Textual

/-! ## The files of a result -/

/-- The resource files are those besides the root file and the controller patches. -/
theorem mem_paths_documents (hregular : g.Regular) (hseparate : g.Separate)
    (hformat : format ∈ formats) (hfiles : files form g format = .ok resources) {n : String} :
    n ∈ (documents g format).map (·.path) ↔
      n ∈ (allDocuments g format).map (·.path) ∧ n ≠ rootFile ∧ n ≠ patchesFile format := by
  rw [allDocuments, List.map_append, List.map_append, List.mem_append, List.mem_append]
  constructor
  · intro hn
    obtain ⟨d, hd, rfl⟩ := List.mem_map.mp hn
    exact ⟨Or.inl (Or.inl hn), path_ne_root hformat hfiles hd,
      path_ne_patches hregular hseparate hformat hfiles hd⟩
  · rintro ⟨(hn | hn) | hn, hroot, hpatches⟩
    · exact hn
    · obtain ⟨d, hd, rfl⟩ := List.mem_map.mp hn
      exact absurd (eq_of_mem_patchDocument hd).1 hpatches
    · exact absurd (List.mem_singleton.mp hn) hroot

/-- The root document lists the resource files whose suffix names a format, in ascending order. -/
theorem exists_listing (hnodup : ((documents g format).map (·.path)).Nodup) :
    ∃ listing : List String, (rootDocument g format).content.value.field "resources" =
        .ok (.ofList (listing.map .str)) ∧ listing.Pairwise (fun a b => Text.precedes a b) ∧
      ∀ n, n ∈ listing ↔ n ∈ (documents g format).map (·.path) ∧
        (Path.ofString n).suffix ∈ [".yaml", ".yml", ".json"] := by
  refine ⟨(listed ((documents g format).map (·.path))).mergeSort Text.inOrder, rfl, ?_,
    fun n => ?_⟩
  · have hlisted : ((listed ((documents g format).map (·.path))).map id).Nodup := by
      rw [List.map_id]
      exact hnodup.filter _
    have hsorted := pairwise_mergeSort_precedes id hlisted
    rw [List.map_id] at hsorted
    exact hsorted
  · rw [(List.mergeSort_perm _ _).mem_iff, listed, List.mem_filter, formatFor_mem_formats]

/-- There is a file of controller patches exactly if there are controller patches. -/
theorem paths_patchDocument (g : Generation) (format : String) :
    (patchDocument? g format).toList.map (·.path) =
      if (g.controllerPatches.getD []).isEmpty then [] else [patchesFile format] := by
  rw [patchDocument?]
  rcases g.controllerPatches with _ | ⟨_ | ⟨p, ps⟩⟩ <;> rfl

/-- The patches of the root document are those of the controller patches. -/
theorem field_patches (g : Generation) (format : String) :
    (rootDocument g format).content.value.field "patches" =
      .ok (((patchDocument? g format).map (·.content.value)).getD .null) := by
  rw [rootDocument, root, patchDocument?]
  rcases g.controllerPatches with _ | ⟨_ | ⟨p, ps⟩⟩ <;> rfl

theorem sortedFiles_eq_insertionSort (resources : OrderedMap String String) :
    sortedFiles resources =
      resources.entries.insertionSort fun a b => Text.inOrder a.1 b.1 = true :=
  mergeSort_eq_insertionSort Prod.fst _

/-- A plan of a result with files of its own: each document has a file, and the resource files come
in ascending order before the others. -/
theorem exists_planned (hform : form.sortKeys = false) (hformat : format ∈ formats)
    (hregular : g.Regular) (hseparate : g.Separate) (hfiles : files form g format = .ok resources) :
    ∃ planned row names, plan form g format = .ok planned ∧
      List.Forall₂ (IsFileOf form) resources.entries (documents g format) ∧
      planned.Perm row ∧ List.Forall₂ (IsFileOf form) row (allDocuments g format) ∧
      names.Perm resources.keys ∧ names.Pairwise (fun a b => Text.precedes a b) ∧
      planned.map (·.1) = names ++
        (if (g.controllerPatches.getD []).isEmpty then [] else [patchesFile format]) ++
          [rootFile] := by
  obtain ⟨planned, hplan⟩ := exists_plan_eq_ok hregular.textual hform hformat hfiles
  obtain ⟨-, resources', patchFiles, rootText, hfiles', hpatches, hroot, rfl⟩ := plan_eq_ok hplan
  obtain rfl : resources = resources' := Except.ok.inj (hfiles.symm.trans hfiles')
  have hnodup := nodup_documents hseparate hformat hfiles
  have hentries := entries_of_files hseparate hformat hfiles
  have hkeys : resources.keys = (documents g format).map (·.path) := paths_eq_of_files hentries
  have hdifferent : (resources.entries.map Prod.fst).Nodup := by
    rw [← hkeys] at hnodup
    exact hnodup
  rw [hkeys] at hroot
  refine ⟨_, resources.entries ++ patchFiles ++ [(rootFile, rootText)],
    (sortedFiles resources).map (·.1), hplan, hentries, ?_, ?_, ?_, ?_, ?_⟩
  · exact ((List.mergeSort_perm _ _).append_right _).append_right _
  · exact List.rel_append (List.rel_append hentries hpatches) (.cons ⟨rfl, hroot⟩ .nil)
  · exact (List.mergeSort_perm _ _).map _
  · exact pairwise_mergeSort_precedes Prod.fst hdifferent
  · rw [List.map_append, List.map_append, paths_eq_of_files hpatches, paths_patchDocument]
    rfl

end Output

namespace Publish

open Output
open Text (bytesOf)

variable {form : Yaml.Node.Form} {g : Generation} {format : String}
  {resources : OrderedMap String String} {fs fs' : FileSystem} {written : List String}

/-- No write of the files of a result fails. -/
def WritesSucceed (form : Yaml.Node.Form) (g : Generation) (format : String) (fs : FileSystem) :
    Prop :=
  ∀ planned, plan form g format = .ok planned →
    ∃ fs' paths, writeAll g.directory fs [] planned = (fs', .ok paths)

/-- What a result leaves whose files are all written. -/
structure Published (form : Yaml.Node.Form) (g : Generation) (format : String)
    (resources : OrderedMap String String) (fs fs' : FileSystem) (written : List String) :
    Prop where
  /-- the resource files are those of the documents -/
  serialized : List.Forall₂ (IsFileOf form) resources.entries (documents g format)
  /-- they come in ascending order, then the controller patches if there are any, then the root -/
  order : ∃ names, names.Perm resources.keys ∧ names.Pairwise (fun a b => Text.precedes a b) ∧
    written = names ++
      (if (g.controllerPatches.getD []).isEmpty then [] else [patchesFile format]) ++ [rootFile]
  /-- no path is returned twice -/
  once : (written.map g.directory.child).Nodup
  /-- each document is written in the format that the suffix of its path asks for -/
  suited : ∀ d ∈ allDocuments g format, d.format = formatFor (Path.ofString d.path) format
  /-- each path holds its document, as it is written -/
  holds : ∀ d ∈ allDocuments g format, ∃ text, serialize form d.content d.format = .ok text ∧
    fs'.readFile (g.directory.child d.path) = .ok (bytesOf text)
  /-- the root lists what is written, as far as its suffix names a format -/
  listed : ∃ listing : List String, (rootDocument g format).content.value.field "resources" =
      .ok (.ofList (listing.map .str)) ∧ listing.Pairwise (fun a b => Text.precedes a b) ∧
    ∀ n, n ∈ listing ↔ n ∈ written ∧ n ≠ rootFile ∧ n ≠ patchesFile format ∧
      (Path.ofString n).suffix ∈ [".yaml", ".yml", ".json"]
  /-- the root holds the controller patches, too -/
  inlined : (rootDocument g format).content.value.field "patches" =
    .ok (((patchDocument? g format).map (·.content.value)).getD .null)
  /-- files at other places are what they were -/
  other : ∀ q, (∀ n ∈ written, fs.place (g.directory.child n) ≠ q) →
    ∀ bytes, fs'.seen q = some (.file bytes) ↔ fs.seen q = some (.file bytes)

/-- A regular result with files of its own is published if no write fails. -/
theorem published_of_write (hform : form.sortKeys = false) (hformat : format ∈ formats)
    (hregular : g.Regular) (hseparate : g.Separate) (hfiles : files form g format = .ok resources)
    (hwrites : WritesSucceed form g format fs) :
    ∃ fs' written, write form g format fs = (fs', .ok (written.map g.directory.child)) ∧
      Published form g format resources fs fs' written := by
  obtain ⟨planned, row, names, hplan, hresources, hperm, hrow, hnames, hsorted, hwritten⟩ :=
    exists_planned hform hformat hregular hseparate hfiles
  obtain ⟨fs', paths, hrun⟩ := hwrites planned hplan
  obtain ⟨hstored, hpaths⟩ := stored_of_writeAll hrun
  have hfits : ∀ d ∈ allDocuments g format, Fits format d :=
    fun d hd => fits_of_mem hregular hseparate hformat hfiles hd
  -- what is written has the paths of the documents, each of them once
  have hmem : (planned.map (·.1)).Perm ((allDocuments g format).map (·.path)) := by
    rw [← paths_eq_of_files hrow]
    exact hperm.map _
  have hnodup : (planned.map (·.1)).Nodup :=
    hmem.nodup_iff.mpr (nodup_allDocuments hregular hseparate hformat hfiles)
  have hinner : ∀ n ∈ planned.map (·.1), Path.Inner n := by
    intro n hn
    obtain ⟨d, hd, rfl⟩ := List.mem_map.mp (hmem.mem_iff.mp hn)
    exact (hfits d hd).inner
  -- nor do two of them share a place
  have hplaces : ∀ f ∈ planned, ∀ f' ∈ planned,
      fs.place (g.directory.child f.1) = fs.place (g.directory.child f'.1) → f = f' := by
    intro f hf f' hf' hplace
    refine List.inj_on_of_nodup_map hnodup hf hf' ?_
    exact (fs.place_child_inj (hinner _ (List.mem_map_of_mem hf))
      (hinner _ (List.mem_map_of_mem hf'))).mp hplace
  have hwrite : write form g format fs =
      (fs', .ok ((planned.map (·.1)).map g.directory.child)) := by
    rw [write, hplan]
    dsimp only
    rw [hrun, hpaths, List.map_map]
    rfl
  refine ⟨fs', planned.map (·.1), hwrite, hresources, ⟨names, hnames, hsorted, hwritten⟩, ?_,
    fun d hd => (hfits d hd).suited, fun d hd => ?_, ?_, field_patches g format, fun q hq => ?_⟩
  · refine hnodup.map_on fun n hn n' hn' heq => ?_
    exact (fs.place_child_inj (hinner n hn) (hinner n' hn')).mp (congrArg fs.place heq)
  · obtain ⟨f, hf, hpath, htext⟩ := exists_file hrow hd
    refine ⟨f.2, htext, ?_⟩
    rw [← hpath]
    exact hstored.readFile_eq hplaces (hperm.mem_iff.mpr hf)
  · obtain ⟨listing, hfield, hascending, hlisting⟩ :=
      exists_listing (nodup_documents hseparate hformat hfiles)
    refine ⟨listing, hfield, hascending, fun n => ?_⟩
    rw [hlisting, hmem.mem_iff, mem_paths_documents hregular hseparate hformat hfiles, and_assoc,
      and_assoc]
  · exact hstored.seen_file_iff fun f hf => hq f.1 (List.mem_map_of_mem hf)

/-! ## The results of runs -/

variable {η π τ : Type} {plugins : Plugins η π τ} {registry : Registry η π} {d : GeneratorDefaults}
variable {cluster : Cluster} {templates : List Template} {options : Generator.Options}
variable {gen : Generation}

/-- **Publication.** A run whose templates have names, as all that are read have
(`Template.Read.name_ne_empty`), and whose hooks keep results regular, returns a regular result. A
regular result whose manifests have files of their own is published, whatever documents are attached
to it and in every format, if its resource files can be made and no write fails. -/
theorem generate_published (hform : form.sortKeys = false) (hformat : format ∈ formats)
    (hgen : (Generator.generate plugins registry d cluster templates options).2 = .ok gen) :
    ((∀ t ∈ templates, t.name ≠ "") → plugins.KeepRegular → gen.Regular) ∧
    (gen.Regular → gen.Separate → ∀ additional resources fs,
      files form { gen with additional } format = .ok resources →
      WritesSucceed form { gen with additional } format fs →
        ∃ fs' written, write form { gen with additional } format fs =
            (fs', .ok (written.map gen.directory.child)) ∧
          Published form { gen with additional } format resources fs fs' written) := by
  refine ⟨fun htemplates hplugins => Generator.regular_of_generate htemplates hplugins hgen,
    fun hregular hseparate additional resources fs hfiles hwrites => ?_⟩
  have hregular : Generation.Regular { gen with additional } :=
    ⟨hregular.named, hregular.unreserved, hregular.textual⟩
  exact published_of_write hform hformat hregular ⟨hseparate.whole, hseparate.pairs⟩ hfiles hwrites

/-! ## A cluster with tuned controllers -/

variable {α : Type}

/-- Hooks that change a context. -/
def changing (change : α → Context → Context) : Plugins α Empty Empty :=
  { answer := fun handler _ c d => { left := change handler c, dispatcher := d }
    provide := fun p _ => p.elim }

/-- Set a value of every kustomization. -/
def withValue (entry : Value × Value) (c : Context) : Context :=
  c.mapKustomizations fun r => { r with values := r.values.insert entry.1 entry.2 }

/-- Name every manifest like the file of the controller patches. -/
def withPatchesName (_ : Unit) (c : Context) : Context :=
  { c with result := c.result.map fun g =>
      { g with manifests := g.manifests.map fun m =>
          { m with template := "flux-system", name := "patches" } } }

theorem keepRegular_withValue : (changing withValue).KeepRegular := by
  intro entry event c d hc c' hc'
  cases hc'
  refine ⟨fun r' hr' => ?_, hc.result⟩
  obtain ⟨r, hr, rfl⟩ := List.mem_map.mp hr'
  exact hc.named r hr

/-- A template of one kustomization. -/
def stall (name : String) : Template :=
  { name, kustomizations := [.bare "web" []], versions := [] }

/-- A cluster that selects templates and tunes all controllers. -/
def tuned (names : List String) : Cluster :=
  { name := "site", selections := names.map fun name => { name := .str name }
    system := some { controllers := some { shared := { concurrent := some 4 } } } }

/-- What is generated for it in a directory, with a hook for an event. -/
def tunedRun (change : α → Context → Context) (event : Value) (handler : α) (names : List String)
    (directory : String) : Except Error Generation :=
  (Generator.generate (changing change)
    ((Registry.withProviders .empty).registerHook { event, handler }).1
    {} (tuned names) (names.map stall) { directory := Path.ofString directory }).2

/-- A note for the output. -/
def note (path : String) : OrderedMap Value Value :=
  ⟨[(.str path, .record [("text", "mind the step")])]⟩

/-- Whether a run has a result with files of its own, and the paths that are returned for it with
more documents have a property. -/
def returns (run : Except Error Generation) (additional : OrderedMap Value Value) (format : String)
    (property : List Path → Bool) : Bool :=
  run.toOption.any fun gen => decide gen.Separate &&
    ((Output.files {} { gen with additional } format).toOption.isSome &&
      (write {} { gen with additional } format {}).2.toOption.any property)

theorem exists_of_returns {run : Except Error Generation} {additional : OrderedMap Value Value}
    {property : List Path → Bool} (h : returns run additional format property = true) :
    ∃ gen resources fs' paths, run = .ok gen ∧ gen.Separate ∧
      Output.files {} { gen with additional } format = .ok resources ∧
      write {} { gen with additional } format {} = (fs', .ok paths) ∧ property paths = true := by
  rcases run with e | gen
  · cases h
  rw [returns, Except.toOption, Option.any_some, Bool.and_eq_true, Bool.and_eq_true] at h
  obtain ⟨hseparate, hfiles, hproperty⟩ := h
  rcases hresources : Output.files {} { gen with additional } format with e | resources
  · rw [hresources] at hfiles
    cases hfiles
  rcases hwrite : write {} { gen with additional } format {} with ⟨fs', e | paths⟩
  · rw [hwrite] at hproperty
    cases hproperty
  rw [hwrite] at hproperty
  exact ⟨gen, resources, fs', paths, rfl, of_decide_eq_true hseparate, hresources, hwrite,
    hproperty⟩

/-- No write fails if paths are returned. -/
theorem writesSucceed_of_write {paths : List Path} (h : write form g format fs = (fs', .ok paths)) :
    WritesSucceed form g format fs := by
  intro planned hplan
  rw [write, hplan] at h
  exact ⟨fs', paths, h⟩

/-- After a hook has set the zone, the manifest and the controller patches are published in JSON
with a note of a plugin, and the root. -/
theorem tuned_published :
    ∃ gen resources fs' written,
      tunedRun withValue afterResolve (.str "zone", .str "north") ["app"] "output" = .ok gen ∧
      gen.Regular ∧ gen.Separate ∧
      write {} { gen with additional := note "notes//web.yml" } "json" {} =
        (fs', .ok (written.map gen.directory.child)) ∧
      Published {} { gen with additional := note "notes//web.yml" } "json" resources {} fs'
        written ∧
      written.map gen.directory.child =
        ["app/app-web.json", "notes/web.yml", "flux-system/patches.json", "kustomization.yaml"].map
          (Path.ofString "output").child := by
  have hreturns : returns
      (tunedRun withValue afterResolve (.str "zone", .str "north") ["app"] "output")
      (note "notes//web.yml") "json"
      (fun paths => paths == ["app/app-web.json", "notes/web.yml", "flux-system/patches.json",
        "kustomization.yaml"].map (Path.ofString "output").child) = true := by
    simp only [returns, write, plan, sortedFiles_eq_insertionSort, root, mergeSort_inOrder]
    decide +kernel
  obtain ⟨gen, resources, fs', paths, hgen, hseparate, hfiles, hwrite, hpaths⟩ :=
    exists_of_returns hreturns
  have hnames : ∀ t ∈ ["app"].map stall, t.name ≠ "" := by decide
  have hform : ({} : Yaml.Node.Form).sortKeys = false := rfl
  have hformat : "json" ∈ formats := by decide
  obtain ⟨hruns, hpublishes⟩ := generate_published hform hformat hgen
  have hregular := hruns hnames keepRegular_withValue
  obtain ⟨fs₁, written, hwrite₁, hpublished⟩ := hpublishes hregular hseparate _ resources {} hfiles
    (writesSucceed_of_write hwrite)
  have hreturned : paths = written.map gen.directory.child := by
    rw [hwrite] at hwrite₁
    exact Except.ok.inj (Prod.mk.inj hwrite₁).2
  exact ⟨gen, resources, fs₁, written, hgen, hregular, hseparate, hwrite₁, hpublished,
    hreturned ▸ beq_iff_eq.mp hpaths⟩

/-- **Not every result is published.** A hook may name a manifest like the file of the controller
patches, and a template without a name has its files at the root of the file system: then a path is
returned twice. Nor are the paths of an ordinary result in order as paths, name by name. -/
theorem paths_repeated_or_disordered :
    (∃ gen fs' paths, tunedRun withPatchesName beforeWrite () ["app"] "output" = .ok gen ∧
      gen.Separate ∧ write {} { gen with additional := .empty } "yaml" {} = (fs', .ok paths) ∧
      ¬ paths.Nodup) ∧
    (∃ gen fs' paths,
      tunedRun withValue afterResolve (.str "zone", .str "north") [""] "/" = .ok gen ∧
      gen.Separate ∧ write {} { gen with additional := note "-web.yaml" } "yaml" {} =
        (fs', .ok paths) ∧
      ¬ paths.Nodup) ∧
    ∃ gen fs' paths, tunedRun withValue afterResolve (.str "zone", .str "north") ["a", "a-b"]
        "output" = .ok gen ∧
      gen.Separate ∧ write {} { gen with additional := .empty } "yaml" {} = (fs', .ok paths) ∧
      ¬ (paths.take 2).Pairwise fun p q => Path.inOrder p.parts q.parts := by
  have hrenamed : returns (tunedRun withPatchesName beforeWrite () ["app"] "output") .empty "yaml"
      (fun paths => decide ¬ paths.Nodup) = true := by
    simp only [returns, write, plan, sortedFiles_eq_insertionSort, root, mergeSort_inOrder]
    decide +kernel
  have hunnamed : returns
      (tunedRun withValue afterResolve (.str "zone", .str "north") [""] "/")
      (note "-web.yaml") "yaml"
      (fun paths => decide ¬ paths.Nodup) = true := by
    simp only [returns, write, plan, sortedFiles_eq_insertionSort, root, mergeSort_inOrder]
    decide +kernel
  have hordinary : returns
      (tunedRun withValue afterResolve (.str "zone", .str "north") ["a", "a-b"] "output")
      .empty "yaml"
      (fun paths => decide ¬ (paths.take 2).Pairwise fun p q => Path.inOrder p.parts q.parts) =
        true := by
    simp only [returns, write, plan, sortedFiles_eq_insertionSort, root, mergeSort_inOrder]
    decide +kernel
  refine ⟨?_, ?_, ?_⟩
  · obtain ⟨gen, -, fs', paths, hgen, hseparate, -, hwrite, hpaths⟩ := exists_of_returns hrenamed
    exact ⟨gen, fs', paths, hgen, hseparate, hwrite, of_decide_eq_true hpaths⟩
  · obtain ⟨gen, -, fs', paths, hgen, hseparate, -, hwrite, hpaths⟩ := exists_of_returns hunnamed
    exact ⟨gen, fs', paths, hgen, hseparate, hwrite, of_decide_eq_true hpaths⟩
  · obtain ⟨gen, -, fs', paths, hgen, hseparate, -, hwrite, hpaths⟩ := exists_of_returns hordinary
    exact ⟨gen, fs', paths, hgen, hseparate, hwrite, of_decide_eq_true hpaths⟩

end Publish

end FluxFleet
