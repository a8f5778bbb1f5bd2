import FluxFleet.Proofs.Plan
import FluxFleet.Proofs.Publish

/-!
# A run of writes that is interrupted

The root file is written last. Hence a run that ends before that leaves the root file that there
was, or none, and whatever that one lists still stands: nothing is taken away
(`root_lists_existing`). A result that cannot be planned is refused before anything is written.

How the root file is read is not the library's affair. A reader is a function from the bytes of a
file to the names that it lists, of which only the files of the result at hand are required to be
read as they are meant (`Reads`).
-/

namespace FluxFleet

namespace Publish

open Output
open Text (bytesOf)

variable {lists : List UInt8 → List String} {form : Yaml.Node.Form} {g : Generation}
  {format : String} {directory : Path} {fs fs' left : FileSystem}
  {files planned : List (String × String)}

/-- If a directory has a root file, all that it lists stands in the directory. -/
def RootSound (lists : List UInt8 → List String) (directory : Path) (fs : FileSystem) : Prop :=
  ∀ bytes, fs.seen (fs.place (directory.child rootFile)) = some (.file bytes) →
    ∀ n ∈ lists bytes, fs.seen (fs.place (directory.child n)) ≠ none

/-- A reader of root files finds no names in the root file of a result but its resources, and none
in a manifest that is put in the place of the root file, which takes a template or a kustomization
with a name like `..`. -/
structure Reads (lists : List UInt8 → List String) (form : Yaml.Node.Form) (g : Generation)
    (format : String) (fs : FileSystem) : Prop where
  root : ∀ resources text, Output.files form g format = .ok resources →
    serialize form (.single (Output.root (listed resources.keys) g)) "yaml" = .ok text →
    ∀ n ∈ lists (bytesOf text), n ∈ listed resources.keys
  manifest : ∀ m ∈ g.manifests, fs.place (g.directory.child (manifestFile m format)) =
      fs.place (g.directory.child rootFile) → ∀ text,
    serialize form (.single m.manifest.document) format = .ok text → lists (bytesOf text) = []

/-! ## Which files take the place of the root file -/

theorem place_root (fs : FileSystem) (directory : Path) :
    fs.place (directory.child rootFile) = fs.place directory ++ [rootFile] :=
  fs.place_child rfl (by decide)

/-- A relative path that does not climb has the place of the root file only if it has its name. -/
theorem place_ne_root {path : String} {row : List String}
    (hread : Path.ofString path = { parts := row }) (hback : ".." ∉ row) (hrow : row ≠ [rootFile]) :
    fs.place (directory.child path) ≠ fs.place (directory.child rootFile) := by
  intro h
  rw [place_root, fs.place_child (by rw [hread]) (by rwa [hread]), hread] at h
  exact hrow (List.append_cancel_left h)

/-- Of the documents of a result itself only manifests can take the place of the root file. -/
theorem manifest_of_place {d : Planned} (hformat : format ∈ formats)
    (hd : d ∈ ownDocuments g format)
    (h : fs.place (directory.child d.path) = fs.place (directory.child rootFile)) :
    ∃ m ∈ g.manifests, d = ⟨manifestFile m format, .single m.manifest.document, format⟩ := by
  have hformats : ∀ name : String, (∀ f ∈ formats, name ++ f ≠ ".." ∧ name ++ f ≠ rootFile) →
      ".." ∉ [name ++ format] ∧ [name ++ format] ≠ [rootFile] := by
    intro name hname
    obtain ⟨hback, hroot⟩ := hname format hformat
    exact ⟨fun hmem => hback (List.mem_singleton.mp hmem).symm,
      fun heq => hroot (List.cons.inj heq).1⟩
  rw [ownDocuments, List.mem_append, List.mem_append] at hd
  rcases hd with (hd | hd) | hd
  · obtain ⟨m, hm, rfl⟩ := List.mem_map.mp hd
    exact ⟨m, hm, rfl⟩
  · obtain ⟨r, -, rfl⟩ := List.mem_map.mp hd
    obtain ⟨hback, hroot⟩ := hformats "oci-repository." (by decide)
    exact absurd h (place_ne_root (ofString_repositoryFile hformat) hback hroot)
  · split at hd
    · cases hd
    · obtain rfl := List.mem_singleton.mp hd
      obtain ⟨hback, hroot⟩ := hformats "namespaces." (by decide)
      exact absurd h (place_ne_root (ofString_namespacesFile hformat) hback hroot)

/-- No document of a plugin takes the place of the root file. -/
theorem additional_place_ne {d : Planned} (hd : Additional format d) :
    fs.place (directory.child d.path) ≠ fs.place (directory.child rootFile) := by
  obtain ⟨⟨⟨root, row⟩, rfl, hback, hplain, hpath, -⟩, hroot, -⟩ := hd
  refine place_ne_root (hpath ▸ Path.ofString_text hplain) hback fun hrow => hroot ?_
  obtain rfl : row = [rootFile] := hrow
  exact hpath.trans rfl

/-- The controller patches do not either. -/
theorem patches_place_ne (hformat : format ∈ formats) :
    fs.place (directory.child (patchesFile format)) ≠ fs.place (directory.child rootFile) := by
  refine place_ne_root (ofString_patchesFile hformat) ?_ (by simp)
  rcases List.mem_pair.mp hformat with rfl | rfl <;> decide

/-- Of the resource files only a manifest takes the place of the root file. -/
theorem manifest_of_resource {resources : OrderedMap String String} {f : String × String}
    (hformat : format ∈ formats) (hresources : Output.files form g format = .ok resources)
    (hf : f ∈ sortedFiles resources)
    (h : fs.place (directory.child f.1) = fs.place (directory.child rootFile)) :
    ∃ m ∈ g.manifests, f.1 = manifestFile m format ∧
      serialize form (.single m.manifest.document) format = .ok f.2 := by
  obtain ⟨hfold, hadditional, -⟩ := files_eq_ok hresources
  have hf : f ∈ resources.entries := (List.mergeSort_perm _ _).mem_iff.mp hf
  rcases exists_document hfold hf with hf | ⟨d, hd, hpath, hserial⟩
  · cases hf
  rw [hpath] at h
  rcases List.mem_append.mp hd with hd | hd
  · obtain ⟨m, hm, rfl⟩ := manifest_of_place hformat hd h
    exact ⟨m, hm, hpath, hserial⟩
  · exact absurd h (additional_place_ne (hadditional d hd).1)

/-! ## What an interrupted run leaves -/

/-- A run in two parts is a run of the first and then of the second. -/
theorem of_writeAll_append {before after : List (String × String)} {written paths : List Path}
    (h : writeAll directory fs written (before ++ after) = (fs', .ok paths)) :
    ∃ mid paths', writeAll directory fs written before = (mid, .ok paths') ∧
      writeAll directory mid paths' after = (fs', .ok paths) := by
  induction before generalizing fs written with
  | nil => exact ⟨fs, written, rfl, h⟩
  | cons f before ih =>
    rw [List.cons_append, writeAll] at h
    rw [writeAll]
    split at h
    · exact ih h
    · cases h

/-- The beginning of a row that ends with one more member is the whole row or lies before it. -/
theorem eq_or_mem_of_append_eq {α : Type} {before after front : List α} {last : α}
    (h : before ++ after = front ++ [last]) :
    before = front ++ [last] ∨ ∀ x ∈ before, x ∈ front := by
  rcases List.prefix_concat_iff.mp (h ▸ List.prefix_append before after) with heq | hprefix
  · exact Or.inl heq
  · exact Or.inr fun x hx => hprefix.subset hx

/-- The files before the root file that take its place list nothing. -/
theorem lists_eq_nil_of_place (hreads : Reads lists form g format fs) (hformat : format ∈ formats)
    {resources : OrderedMap String String} {patchFiles : List (String × String)}
    (hresources : Output.files form g format = .ok resources)
    (hpatches : List.Forall₂ (IsFileOf form) patchFiles (patchDocument? g format).toList)
    {f : String × String} (hf : f ∈ sortedFiles resources ++ patchFiles)
    (h : fs.place (g.directory.child f.1) = fs.place (g.directory.child rootFile)) :
    lists (bytesOf f.2) = [] := by
  rcases List.mem_append.mp hf with hf | hf
  · obtain ⟨m, hm, hpath, hserial⟩ := manifest_of_resource hformat hresources hf h
    exact hreads.manifest m hm (hpath ▸ h) f.2 hserial
  · rw [path_of_mem_patchFiles hpatches hf] at h
    exact absurd h (patches_place_ne hformat)

/-- The text of the root file lists nothing that a run has not written, if the run has written
all. -/
theorem sound_of_complete (hreads : Reads lists form g format fs)
    {resources : OrderedMap String String} {patchFiles : List (String × String)} {rootText : String}
    (hresources : Output.files form g format = .ok resources)
    (hroot : serialize form (.single (Output.root (listed resources.keys) g)) "yaml" = .ok rootText)
    (hstored : Stored g.directory fs (sortedFiles resources ++ patchFiles ++ [(rootFile, rootText)])
      fs') {n : String} (hn : n ∈ lists (bytesOf rootText)) :
    ∃ bytes, fs'.readFile (g.directory.child n) = .ok bytes := by
  have hlisted := hreads.root resources rootText hresources hroot n hn
  obtain ⟨e, he, rfl⟩ := List.mem_map.mp (List.mem_of_mem_filter hlisted)
  refine hstored.read e (List.mem_append_left _ (List.mem_append_left _ ?_))
  exact (List.mergeSort_perm _ _).mem_iff.mpr he

/-- What is left of a run has a sound root file. -/
theorem rootSound_of_leftOff (hreads : Reads lists form g format fs)
    (hsound : RootSound lists g.directory fs) (hplan : plan form g format = .ok planned)
    (h : LeftOff g.directory fs planned left) : RootSound lists g.directory left := by
  obtain ⟨hformat, resources, patchFiles, rootText, hresources, hpatches, hroot, rfl⟩ :=
    plan_eq_ok hplan
  obtain ⟨done, rest, mid, paths, hsplit, hdone, hadds⟩ := h
  obtain ⟨hstored, -⟩ := stored_of_writeAll hdone
  have hgrows : fs.Extends left := hstored.grows.trans hadds.extends
  intro bytes hbytes n hn
  rw [hgrows.place_eq] at hbytes ⊢
  have hmid : mid.seen (fs.place (g.directory.child rootFile)) = some (.file bytes) := by
    rcases hadds.seen (fs.place (g.directory.child rootFile)) with heq | ⟨-, hempty⟩
    · rw [← heq, hbytes]
    · rw [hbytes] at hempty
      cases hempty
  -- the root file that is left is one of those written, or the old one
  by_cases htaken : ∃ f ∈ done, fs.place (g.directory.child f.1) =
      fs.place (g.directory.child rootFile)
  · obtain ⟨f, hf, hplace, hfile⟩ := hstored.stored _ htaken
    rw [hmid] at hfile
    obtain rfl : bytes = bytesOf f.2 := Tree.file.inj (Option.some.inj hfile)
    have hbefore : f ∉ sortedFiles resources ++ patchFiles := by
      intro hmem
      rw [lists_eq_nil_of_place hreads hformat hresources hpatches hmem hplace] at hn
      cases hn
    -- so it is the root file, which comes last
    rcases eq_or_mem_of_append_eq hsplit.symm with rfl | hfront
    · obtain rfl : f = (rootFile, rootText) :=
        List.mem_singleton.mp ((List.mem_append.mp hf).resolve_left hbefore)
      obtain ⟨bytes, hread⟩ := sound_of_complete hreads hresources hroot hstored hn
      obtain ⟨-, -, hseen⟩ := FileSystem.readFile_eq_ok.mp hread
      refine hadds.extends.seen_ne_none ?_
      rw [← hstored.grows.place_eq, hseen]
      exact Option.some_ne_none _
    · exact absurd (hfront f hf) hbefore
  · rcases hstored.other _ fun f hf hplace => htaken ⟨f, hf, hplace⟩ with hkept | ⟨-, hempty⟩
    · exact hgrows.seen_ne_none (hsound bytes (hkept.symm.trans hmid) n hn)
    · rw [hmid] at hempty
      cases hempty

/-- **An interrupted run.** If the root file of a directory, where there is one, lists only what
stands there, the same holds whenever a run of writes ends. A format that is not known and a path
that no plugin may take are refused before anything is written, as is all that cannot be planned. A
run that succeeds leaves the root file of its result, and all that it lists can be read. -/
theorem root_lists_existing (hreads : Reads lists form g format fs)
    (hsound : RootSound lists g.directory fs) :
    (format ∉ formats → write form g format fs = (fs, .error (.output (.format format)))) ∧
    (∀ written v, (.str written, v) ∈ g.additional.entries → Refused format written →
      ∃ e, write form g format fs = (fs, .error e)) ∧
    (∀ e, plan form g format = .error e → write form g format fs = (fs, .error e)) ∧
    (∀ planned, plan form g format = .ok planned →
      LeftOff g.directory fs planned (write form g format fs).1 ∧
        ∀ left, LeftOff g.directory fs planned left → RootSound lists g.directory left) ∧
    (∀ fs' paths, write form g format fs = (fs', .ok paths) →
      ∃ bytes, fs'.readFile (g.directory.child rootFile) = .ok bytes ∧
        ∀ n ∈ lists bytes, ∃ bytes', fs'.readFile (g.directory.child n) = .ok bytes') := by
  have hrefused : ∀ e, plan form g format = .error e → write form g format fs = (fs, .error e) := by
    intro e h
    rw [write, h]
  refine ⟨fun h => hrefused _ (plan_of_format h), fun written v hentry h => ?_, hrefused,
    fun planned hplan => ⟨?_, fun left => rootSound_of_leftOff hreads hsound hplan⟩,
    fun fs' paths h => ?_⟩
  · obtain ⟨e, he⟩ := exists_files_eq_error hentry h
    obtain ⟨e', he'⟩ := exists_plan_eq_error he
    exact ⟨e', hrefused e' he'⟩
  · rw [write, hplan]
    exact leftOff_writeAll []
  · rcases hplan : plan form g format with e | planned
    · rw [hrefused e hplan] at h
      cases h
    rw [write, hplan] at h
    obtain ⟨-, resources, patchFiles, rootText, hresources, -, hroot, rfl⟩ := plan_eq_ok hplan
    obtain ⟨hstored, -⟩ := stored_of_writeAll h
    obtain ⟨mid, _, -, hlast⟩ := of_writeAll_append h
    refine ⟨bytesOf rootText, ?_, fun n => sound_of_complete hreads hresources hroot hstored⟩
    rw [writeAll] at hlast
    split at hlast
    · next written hwrite =>
      obtain ⟨rfl, -⟩ := Prod.mk.inj hlast
      obtain ⟨_, -, hwritten⟩ := of_writeText hwrite
      exact hwritten.read
    · cases hlast

/-! ## A directory with a file in the way -/

/-- The names of the items below a line `resources:`, one on each line. -/
def bulletNames (bytes : List UInt8) : List String :=
  let items := ((bytes.splitOn 10).dropWhile (· != bytesOf "resources:")).tail
  (items.takeWhile (bytesOf "- ").isPrefixOf).map fun row =>
    String.ofList ((row.drop 2).map fun b => Char.ofNat b.toNat)

/-- A result with one manifest. -/
def posted : Generation :=
  { cluster := "site", directory := Path.ofString "output"
    manifests := [{ name := "app-web", template := "app", manifest :=
      { name := "app-web", systemNamespace := "flux", interval := "1h", targetNamespace := .null,
        path := "./web", prune := .null, wait := .null, sourceKind := .git, sourceName := "flux",
        timeout := .null, retryInterval := .null, dependsOn := [], values := .empty,
        healthChecks := [], healthExpressions := [], patches := [] } }] }

/-- A root file that was written before. -/
def oldRoot : List UInt8 := bytesOf "---\nresources:\n- old.yaml\n"

/-- A directory that has been written to before, with more entries. -/
def visited (entries : List (String × Tree)) : FileSystem :=
  { root := .directory [("output", .directory
      ([("kustomization.yaml", .file oldRoot), ("old.yaml", .file [])] ++ entries))] }

theorem reads_posted (fs : FileSystem) : Reads bulletNames {} posted "yaml" fs := by
  have hkeys : (Output.files {} posted "yaml").toOption.map (·.keys) =
      some ["app/app-web.yaml"] := by
    decide +kernel
  have hroot :
      (serialize {} (.single (Output.root ["app/app-web.yaml"] posted)) "yaml").toOption.map
        (fun text => bulletNames (bytesOf text)) = some ["app/app-web.yaml"] := by decide +kernel
  refine ⟨fun resources text hresources htext n hn => ?_, fun m hm h => ?_⟩
  · rw [hresources] at hkeys
    obtain hkeys : resources.keys = ["app/app-web.yaml"] := Option.some.inj hkeys
    have hlisted : listed resources.keys = ["app/app-web.yaml"] := by
      rw [hkeys]
      decide +kernel
    rw [hlisted] at htext ⊢
    rw [htext] at hroot
    obtain hnames : bulletNames (bytesOf text) = ["app/app-web.yaml"] := Option.some.inj hroot
    rwa [hnames] at hn
  · obtain rfl := List.mem_singleton.mp hm
    have hread : Path.ofString "app/app-web.yaml" = { parts := ["app", "app-web.yaml"] } := by
      decide +kernel
    exact absurd h (place_ne_root hread (by decide) (by decide))

theorem rootSound_visited (entries : List (String × Tree)) :
    RootSound bulletNames posted.directory (visited entries) := by
  intro bytes hbytes n hn
  cases hbytes
  have hnames : bulletNames oldRoot = ["old.yaml"] := by decide +kernel
  rw [hnames] at hn
  obtain rfl := List.mem_singleton.mp hn
  exact Option.some_ne_none _

/-- If there is a file where a directory is needed, the run fails at the manifest, and the old root
file still lists what exists. If there is none, the root file lists the manifest, which can be
read. -/
theorem root_of_occupied :
    Reads bulletNames {} posted "yaml" (visited [("app", .file [])]) ∧
    RootSound bulletNames posted.directory (visited [("app", .file [])]) ∧
    (write {} posted "yaml" (visited [("app", .file [])])).2.toOption = none ∧
    RootSound bulletNames posted.directory
      (write {} posted "yaml" (visited [("app", .file [])])).1 ∧
    ∃ fs' paths bytes, write {} posted "yaml" (visited []) = (fs', .ok paths) ∧
      fs'.readFile (posted.directory.child rootFile) = .ok bytes ∧
      bulletNames bytes = ["app/app-web.yaml"] ∧
      ∃ bytes', fs'.readFile (posted.directory.child "app/app-web.yaml") = .ok bytes' := by
  have hreads := reads_posted (visited [("app", .file [])])
  have hsound := rootSound_visited [("app", .file [])]
  obtain ⟨-, -, -, hruns, -⟩ := root_lists_existing hreads hsound
  have hplan : (plan {} posted "yaml").toOption.isSome = true := by decide +kernel
  rcases hplanned : plan {} posted "yaml" with e | planned
  · rw [hplanned] at hplan
    cases hplan
  obtain ⟨hleft, hkept⟩ := hruns planned hplanned
  refine ⟨hreads, hsound, by decide +kernel, hkept _ hleft, ?_⟩
  -- the same in a directory where nothing is in the way
  obtain ⟨-, -, -, -, hsucceeds⟩ := root_lists_existing (reads_posted (visited []))
    (rootSound_visited [])
  have hroot : ((write {} posted "yaml" (visited [])).2.toOption.bind fun _ =>
      ((write {} posted "yaml" (visited [])).1.readFile
        (posted.directory.child rootFile)).toOption.map bulletNames) =
      some ["app/app-web.yaml"] := by decide +kernel
  rcases hwrite : write {} posted "yaml" (visited []) with ⟨fs', e | paths⟩
  · rw [hwrite] at hroot
    cases hroot
  obtain ⟨bytes, hread, hlisted⟩ := hsucceeds fs' paths hwrite
  simp only [hwrite, hread, Except.toOption, Option.bind_some, Option.map_some,
    Option.some_inj] at hroot
  exact ⟨fs', paths, bytes, rfl, hread, hroot,
    hlisted _ (hroot ▸ List.mem_cons_self)⟩

end Publish

end FluxFleet
