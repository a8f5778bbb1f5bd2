import FluxFleet.Proofs.Plan
import FluxFleet.Proofs.Result

/-!
# Where the files of a result lie

Paths are built in several ways: from the names of a manifest, as fixed names, and from the texts
that plugins choose. All of them are in normal form and have a suffix that fits what they hold
(`fits_of_mem`), and no two of them are the same (`nodup_allDocuments`), as long as the manifests
have files of their own (`Generation.Separate`).
-/

namespace FluxFleet

open Output

/-- A result whose manifests have files of their own: their pairs of names are different, and no
name leads elsewhere. -/
structure Generation.Separate (g : Generation) : Prop where
  whole : ∀ m ∈ g.manifests, ∀ s ∈ [m.template, m.name], '/' ∉ s.toList ∧ s ≠ "." ∧ s ≠ ".."
  pairs : (g.manifests.map fun m => (m.template, m.name)).Nodup

instance (g : Generation) : Decidable g.Separate :=
  decidable_of_iff ((∀ m ∈ g.manifests, ∀ s ∈ [m.template, m.name],
    '/' ∉ s.toList ∧ s ≠ "." ∧ s ≠ "..") ∧ (g.manifests.map fun m => (m.template, m.name)).Nodup)
    ⟨fun h => ⟨h.1, h.2⟩, fun h => ⟨h.whole, h.pairs⟩⟩

namespace Output

variable {form : Yaml.Node.Form} {g : Generation} {format : String} {m m' : Generated}
  {resources : OrderedMap String String}

/-- The root document of a result. -/
def rootDocument (g : Generation) (format : String) : Planned :=
  ⟨rootFile, .single (root (listed ((documents g format).map (·.path))) g), "yaml"⟩

/-- The documents of all files of a result. -/
def allDocuments (g : Generation) (format : String) : List Planned :=
  documents g format ++ (patchDocument? g format).toList ++ [rootDocument g format]

/-- A document at a path in normal form, in the format that its suffix asks for. -/
structure Fits (format : String) (d : Planned) : Prop where
  inner : Path.Inner d.path
  suited : d.format = formatFor (Path.ofString d.path) format

/-! ## Paths in normal form -/

theorem toList_dotted (stem extension : String) :
    (stem ++ "." ++ extension).toList = stem.toList ++ '.' :: extension.toList := by
  rw [String.toList_append, String.toList_append, List.append_assoc]
  rfl

/-- The suffix of a name that ends with a format asks for that format. -/
theorem formatFor_of_name {p : Path} {stem : String} (hformat : format ∈ formats)
    (hstem : stem ≠ "") (hname : p.name = stem ++ "." ++ format) (other : String) :
    formatFor p other = format := by
  have hplain : format.toList ≠ [] ∧ '.' ∉ format.toList := by
    rcases List.mem_pair.mp hformat with rfl | rfl <;> decide
  have hempty : stem.toList ≠ [] := mt String.toList_eq_nil_iff.mp hstem
  have hsuffix : p.suffix = String.ofList ('.' :: format.toList) := by
    rw [Path.suffix, hname, toList_dotted, Path.suffixOf_append hempty hplain.1 hplain.2]
  rw [formatFor, hsuffix]
  rcases List.mem_pair.mp hformat with rfl | rfl <;> rfl

/-- So does the name that is an extension only, in a run of that format. -/
theorem formatFor_self {p : Path} {stem : String} (hformat : format ∈ formats)
    (hname : p.name = stem ++ "." ++ format) : formatFor p format = format := by
  by_cases hstem : stem = ""
  · rw [formatFor, Path.suffix, hname, hstem]
    rcases List.mem_pair.mp hformat with rfl | rfl <;> rfl
  · exact formatFor_of_name hformat hstem hname _

theorem formatFor_mem_formats {p : Path} :
    formats.contains (formatFor p "") = true ↔ p.suffix ∈ [".yaml", ".yml", ".json"] := by
  rw [formatFor]
  split <;> simp_all [formats]

theorem fits_of_name {d : Planned} {stem : String} (hformat : format ∈ formats)
    (hread : Path.ofString d.path = { parts := [d.path] }) (hback : d.path ≠ "..")
    (hname : d.path = stem ++ "." ++ format) (hsuited : d.format = format) :
    Fits format d := by
  refine ⟨⟨by rw [hread], ?_, ?_⟩, ?_⟩
  · rw [hread]
    exact fun hmem => hback (List.mem_singleton.mp hmem).symm
  · rw [hread]
    simp [Path.text]
  · rw [hread, hsuited, formatFor_self hformat]
    exact hname

/-- The path of a manifest has two names. -/
theorem manifestFile_eq (m : Generated) (format : String) :
    manifestFile m format = Path.text { parts := [m.template, m.name ++ "." ++ format] } := by
  simp [manifestFile, Path.text, String.append_assoc, toString]

/-- Neither of them holds a slash. -/
theorem not_mem_file (hseparate : g.Separate) (hformat : format ∈ formats) (hm : m ∈ g.manifests) :
    '/' ∉ (m.name ++ "." ++ format).toList := by
  obtain ⟨hname, -, -⟩ := hseparate.whole m hm m.name (List.mem_cons_of_mem _ List.mem_cons_self)
  have hextension : '/' ∉ format.toList := by
    rcases List.mem_pair.mp hformat with rfl | rfl <;> decide
  rw [toList_dotted, List.mem_append, List.mem_cons]
  rintro (hmem | hmem | hmem)
  · exact hname hmem
  · exact absurd hmem (by decide)
  · exact hextension hmem

/-- Both are plain, if the template has a name. -/
theorem plain_manifestFile (htemplate : m.template ≠ "") (hseparate : g.Separate)
    (hformat : format ∈ formats) (hm : m ∈ g.manifests) :
    (∀ name ∈ [m.template, m.name ++ "." ++ format], Path.Plain name) ∧
      ".." ∉ [m.template, m.name ++ "." ++ format] := by
  obtain ⟨hslash, hdot, hback⟩ := hseparate.whole m hm m.template List.mem_cons_self
  have hextension : 2 < format.toList.length := by
    rcases List.mem_pair.mp hformat with rfl | rfl <;> decide
  have hlong : 2 < (m.name ++ "." ++ format).toList.length := by
    rw [toList_dotted, List.length_append, List.length_cons]
    omega
  have hne : ∀ s : String, s.toList.length ≤ 2 → m.name ++ "." ++ format ≠ s := by
    rintro s hs rfl
    exact absurd hlong (Nat.not_lt.mpr hs)
  constructor
  · intro name hname
    rcases List.mem_pair.mp hname with rfl | rfl
    · exact ⟨hslash, htemplate, hdot⟩
    · exact ⟨not_mem_file hseparate hformat hm, hne "" (by decide), hne "." (by decide)⟩
  · intro hmem
    rcases List.mem_pair.mp hmem with heq | heq
    · exact hback heq.symm
    · exact hne ".." (by decide) heq.symm

theorem ofString_manifestFile (htemplate : m.template ≠ "") (hseparate : g.Separate)
    (hformat : format ∈ formats) (hm : m ∈ g.manifests) :
    Path.ofString (manifestFile m format) =
      { parts := [m.template, m.name ++ "." ++ format] } := by
  rw [manifestFile_eq]
  exact Path.ofString_text (plain_manifestFile htemplate hseparate hformat hm).1

/-- The fixed names, which differ from those of manifests in that no directory comes first. -/
theorem fixed_names (hformat : format ∈ formats) : ∀ stem ∈ ["oci-repository", "namespaces"],
    s!"{stem}.{format}" ≠ ".." ∧ s!"{stem}.{format}" = stem ++ "." ++ format := by
  rcases List.mem_pair.mp hformat with rfl | rfl <;> decide

/-- The documents of a result itself are those of manifests, and others that fit their fixed
names. -/
theorem of_mem_ownDocuments (hformat : format ∈ formats) {d : Planned}
    (hd : d ∈ ownDocuments g format) :
    (∃ m ∈ g.manifests, d = ⟨manifestFile m format, .single m.manifest.document, format⟩) ∨
      Fits format d := by
  have hfixed := fixed_names hformat
  rw [ownDocuments, List.mem_append, List.mem_append] at hd
  rcases hd with (hd | hd) | hd
  · obtain ⟨m, hm, rfl⟩ := List.mem_map.mp hd
    exact Or.inl ⟨m, hm, rfl⟩
  · obtain ⟨r, -, rfl⟩ := List.mem_map.mp hd
    obtain ⟨hback, hname⟩ := hfixed "oci-repository" List.mem_cons_self
    exact Or.inr (fits_of_name hformat (ofString_repositoryFile hformat) hback hname rfl)
  · split at hd
    · cases hd
    · obtain rfl := List.mem_singleton.mp hd
      obtain ⟨hback, hname⟩ := hfixed "namespaces" (List.mem_cons_of_mem _ List.mem_cons_self)
      exact Or.inr (fits_of_name hformat (ofString_namespacesFile hformat) hback hname rfl)

/-- The documents of a result itself have paths in normal form, if all templates have names. -/
theorem inner_of_own (htemplates : ∀ m ∈ g.manifests, m.template ≠ "") (hseparate : g.Separate)
    (hformat : format ∈ formats) {d : Planned} (hd : d ∈ ownDocuments g format) :
    Path.Inner d.path := by
  rcases of_mem_ownDocuments hformat hd with ⟨m, hm, rfl⟩ | hfits
  · obtain ⟨hplain, hback⟩ := plain_manifestFile (htemplates m hm) hseparate hformat hm
    dsimp only
    rw [manifestFile_eq]
    exact Path.inner_text hplain hback
  · exact hfits.inner

/-- Their formats are those that their suffixes ask for. -/
theorem fits_of_own (hregular : g.Regular) (hseparate : g.Separate) (hformat : format ∈ formats)
    {d : Planned} (hd : d ∈ ownDocuments g format) : Fits format d := by
  have hinner := inner_of_own hregular.named hseparate hformat hd
  rcases of_mem_ownDocuments hformat hd with ⟨m, hm, rfl⟩ | hfits
  · refine ⟨hinner, ?_⟩
    dsimp only
    rw [ofString_manifestFile (hregular.named m hm) hseparate hformat hm]
    exact (formatFor_self hformat rfl).symm
  · exact hfits

/-- So have those of plugins. -/
theorem fits_of_additional {d : Planned} (hd : Additional format d) : Fits format d := by
  obtain ⟨⟨⟨root, row⟩, rfl, hback, hplain, hpath, hsuited⟩, -, -⟩ := hd
  refine ⟨?_, ?_⟩
  · rw [hpath]
    exact Path.inner_text hplain hback
  · rw [hpath, Path.ofString_text hplain]
    exact hsuited

/-- The controller patches have a path and a format of their own. -/
theorem eq_of_mem_patchDocument {d : Planned} (hd : d ∈ (patchDocument? g format).toList) :
    d.path = patchesFile format ∧ d.format = format := by
  rw [patchDocument?] at hd
  split at hd
  · obtain rfl := List.mem_singleton.mp hd
    exact ⟨rfl, rfl⟩
  · cases hd

theorem fits_of_patches {d : Planned} (hformat : format ∈ formats)
    (hd : d ∈ (patchDocument? g format).toList) : Fits format d := by
  obtain ⟨hpath, hd⟩ := eq_of_mem_patchDocument hd
  have hinner : Path.Inner (patchesFile format) ∧
      format = formatFor (Path.ofString (patchesFile format)) format := by
    rcases List.mem_pair.mp hformat with rfl | rfl <;>
      exact ⟨⟨by decide, by decide, by decide⟩, by decide⟩
  exact ⟨hpath ▸ hinner.1, by rw [hpath, hd]; exact hinner.2⟩

theorem fits_rootDocument : Fits format (rootDocument g format) := by
  have hinner : Path.Inner rootFile := by
    exact ⟨by decide, by decide, by decide⟩
  have hsuited : formatFor (Path.ofString rootFile) format = "yaml" :=
    formatFor_of_name List.mem_cons_self (by decide : "kustomization" ≠ "") (by decide) _
  exact ⟨hinner, hsuited.symm⟩

/-- All paths of a result are in normal form, and all formats are those that suffixes ask for. -/
theorem fits_of_mem (hregular : g.Regular) (hseparate : g.Separate) (hformat : format ∈ formats)
    (hfiles : files form g format = .ok resources) {d : Planned} (hd : d ∈ allDocuments g format) :
    Fits format d := by
  obtain ⟨-, hadditional, -⟩ := files_eq_ok hfiles
  rw [allDocuments, documents, List.mem_append, List.mem_append, List.mem_append] at hd
  rcases hd with ((hd | hd) | hd) | hd
  · exact fits_of_own hregular hseparate hformat hd
  · exact fits_of_additional (hadditional d hd).1
  · exact fits_of_patches hformat hd
  · obtain rfl := List.mem_singleton.mp hd
    exact fits_rootDocument

/-! ## Different paths -/

/-- The file of a manifest is in the directory of its template. -/
theorem toList_manifestFile (m : Generated) (format : String) : (manifestFile m format).toList =
    m.template.toList ++ '/' :: (m.name ++ "." ++ format).toList := by
  have hfile : manifestFile m format = m.template ++ "/" ++ (m.name ++ "." ++ format) := by
    simp [manifestFile, String.append_assoc, toString]
  rw [hfile, String.toList_append, String.toList_append, List.append_assoc]
  rfl

/-- The path of a manifest is cut at its slash only. -/
theorem pieces_manifestFile (hseparate : g.Separate) (hformat : format ∈ formats)
    (hm : m ∈ g.manifests) : Path.pieces (manifestFile m format).toList =
      [m.template.toList, (m.name ++ "." ++ format).toList] := by
  obtain ⟨htemplate, -, -⟩ := hseparate.whole m hm m.template List.mem_cons_self
  rw [toList_manifestFile, Path.pieces_append htemplate,
    Path.pieces_of_not_mem (not_mem_file hseparate hformat hm)]

/-- Two manifests have one file only if they have the same names. -/
theorem manifestFile_inj (hseparate : g.Separate) (hformat : format ∈ formats)
    (hm : m ∈ g.manifests) (hm' : m' ∈ g.manifests)
    (h : manifestFile m format = manifestFile m' format) :
    m.template = m'.template ∧ m.name = m'.name := by
  have hpieces := congrArg (fun path : String => Path.pieces path.toList) h
  rw [pieces_manifestFile hseparate hformat hm,
    pieces_manifestFile hseparate hformat hm'] at hpieces
  obtain ⟨htemplate, hfile⟩ := List.cons.inj hpieces
  have hlists := (List.cons.inj hfile).1
  rw [toList_dotted, toList_dotted, List.append_left_inj, String.toList_inj] at hlists
  exact ⟨String.toList_inj.mp htemplate, hlists⟩

/-- The file of a manifest is not in the directory itself. -/
theorem manifestFile_ne_name {name : String} (hname : '/' ∉ name.toList) :
    manifestFile m format ≠ name := by
  rintro rfl
  rw [toList_manifestFile] at hname
  exact hname (List.mem_append_right _ List.mem_cons_self)

/-- Nor is it that of the controller patches. -/
theorem manifestFile_ne_patches (hregular : g.Regular) (hseparate : g.Separate)
    (hformat : format ∈ formats) (hm : m ∈ g.manifests) :
    manifestFile m format ≠ patchesFile format := by
  intro heq
  have hread := ofString_manifestFile (hregular.named m hm) hseparate hformat hm
  rw [heq, ofString_patchesFile hformat] at hread
  obtain ⟨htemplate, hfile⟩ := List.cons.inj (congrArg Path.parts hread)
  have hlists := congrArg String.toList (List.cons.inj hfile).1
  have hpatches : s!"patches.{format}" = "patches" ++ "." ++ format := by
    rcases List.mem_pair.mp hformat with rfl | rfl <;> decide
  rw [hpatches, toList_dotted, toList_dotted, List.append_left_inj, String.toList_inj] at hlists
  exact hregular.unreserved m hm ⟨htemplate.symm, hlists.symm⟩

/-- Besides manifests a result has at most two files of its own. -/
theorem exists_paths_own (g : Generation) (format : String) : ∃ fixed : List String,
    fixed.Sublist [s!"oci-repository.{format}", s!"namespaces.{format}"] ∧
      (ownDocuments g format).map (·.path) =
        g.manifests.map (manifestFile · format) ++ fixed := by
  refine ⟨(g.repository.toList.map fun _ => s!"oci-repository.{format}") ++
    (if g.namespaces.isEmpty then [] else [s!"namespaces.{format}"]), ?_, ?_⟩
  · cases g.repository <;> split <;> simp
  · rw [ownDocuments, List.map_append, List.map_append, List.map_map, List.map_map,
      List.append_assoc]
    split <;> rfl

/-- The paths that a result has besides those of manifests are names. -/
theorem not_mem_fixed (hformat : format ∈ formats) {fixed : List String}
    (hfixed : fixed.Sublist [s!"oci-repository.{format}", s!"namespaces.{format}"]) {name : String}
    (hname : name ∈ fixed) : '/' ∉ name.toList ∧ name ≠ rootFile ∧ name ≠ patchesFile format := by
  have hnames : ∀ name ∈ [s!"oci-repository.{format}", s!"namespaces.{format}"],
      '/' ∉ name.toList ∧ name ≠ rootFile ∧ name ≠ patchesFile format := by
    rcases List.mem_pair.mp hformat with rfl | rfl <;> decide
  exact hnames name (hfixed.subset hname)

/-- The documents of a result itself have different paths. -/
theorem nodup_ownDocuments (hseparate : g.Separate) (hformat : format ∈ formats) :
    ((ownDocuments g format).map (·.path)).Nodup := by
  have hmanifests : (g.manifests.map (manifestFile · format)).Nodup := by
    have hpairs := hseparate.pairs
    rw [List.Nodup, List.pairwise_map] at hpairs ⊢
    refine hpairs.imp_of_mem fun hm hm' hne heq => hne ?_
    obtain ⟨htemplate, hname⟩ := manifestFile_inj hseparate hformat hm hm' heq
    rw [htemplate, hname]
  have hapart : [s!"oci-repository.{format}", s!"namespaces.{format}"].Nodup := by
    rcases List.mem_pair.mp hformat with rfl | rfl <;> decide
  obtain ⟨fixed, hfixed, hpaths⟩ := exists_paths_own g format
  rw [hpaths]
  refine List.nodup_append.mpr ⟨hmanifests, hfixed.nodup hapart, fun path hpath name hname => ?_⟩
  obtain ⟨m, hm, rfl⟩ := List.mem_map.mp hpath
  exact manifestFile_ne_name (not_mem_fixed hformat hfixed hname).1

/-- All documents that resource files are written for have different paths. -/
theorem nodup_documents (hseparate : g.Separate) (hformat : format ∈ formats)
    (hfiles : files form g format = .ok resources) :
    ((documents g format).map (·.path)).Nodup := by
  obtain ⟨-, hadditional, hnodup⟩ := files_eq_ok hfiles
  rw [documents, List.map_append]
  refine List.nodup_append.mpr ⟨nodup_ownDocuments hseparate hformat, hnodup, ?_⟩
  rintro path hown _ hpath rfl
  obtain ⟨d, hd, rfl⟩ := List.mem_map.mp hpath
  exact (hadditional d hd).2 hown

/-- Each of these documents has a resource file, in their order. -/
theorem entries_of_files (hseparate : g.Separate) (hformat : format ∈ formats)
    (hfiles : files form g format = .ok resources) :
    List.Forall₂ (IsFileOf form) resources.entries (documents g format) := by
  obtain ⟨hfold, -⟩ := files_eq_ok hfiles
  obtain ⟨row, hrow, hentries⟩ := entries_of_store hfold (fun _ _ => List.not_mem_nil)
    (nodup_documents hseparate hformat hfiles)
  obtain rfl : resources.entries = row := hrow
  exact hentries

/-- A document of a result itself belongs to a manifest, or its path is a name. -/
theorem path_cases_of_own (hformat : format ∈ formats) {d : Planned}
    (hd : d ∈ ownDocuments g format) : (∃ m ∈ g.manifests, d.path = manifestFile m format) ∨
      d.path ≠ rootFile ∧ d.path ≠ patchesFile format := by
  obtain ⟨fixed, hfixed, hpaths⟩ := exists_paths_own g format
  have hpath : d.path ∈ (ownDocuments g format).map (·.path) := List.mem_map_of_mem hd
  rw [hpaths] at hpath
  rcases List.mem_append.mp hpath with hpath | hpath
  · obtain ⟨m, hm, hpath⟩ := List.mem_map.mp hpath
    exact Or.inl ⟨m, hm, hpath.symm⟩
  · exact Or.inr (not_mem_fixed hformat hfixed hpath).2

/-- No resource file takes the path of the root file. -/
theorem path_ne_root (hformat : format ∈ formats) (hfiles : files form g format = .ok resources)
    {d : Planned} (hd : d ∈ documents g format) : d.path ≠ rootFile := by
  obtain ⟨-, hadditional, -⟩ := files_eq_ok hfiles
  rcases List.mem_append.mp hd with hd | hd
  · rcases path_cases_of_own hformat hd with ⟨m, -, hpath⟩ | ⟨hroot, -⟩
    · rw [hpath]
      exact manifestFile_ne_name (by decide)
    · exact hroot
  · exact (hadditional d hd).1.notRoot

/-- Nor does one take that of the controller patches. -/
theorem path_ne_patches (hregular : g.Regular) (hseparate : g.Separate) (hformat : format ∈ formats)
    (hfiles : files form g format = .ok resources) {d : Planned} (hd : d ∈ documents g format) :
    d.path ≠ patchesFile format := by
  obtain ⟨-, hadditional, -⟩ := files_eq_ok hfiles
  rcases List.mem_append.mp hd with hd | hd
  · rcases path_cases_of_own hformat hd with ⟨m, hm, hpath⟩ | ⟨-, hpatches⟩
    · rw [hpath]
      exact manifestFile_ne_patches hregular hseparate hformat hm
    · exact hpatches
  · exact (hadditional d hd).1.notPatches

/-- All documents of a result have different paths. -/
theorem nodup_allDocuments (hregular : g.Regular) (hseparate : g.Separate)
    (hformat : format ∈ formats) (hfiles : files form g format = .ok resources) :
    ((allDocuments g format).map (·.path)).Nodup := by
  have hne : ∀ d ∈ documents g format, d.path ≠ rootFile ∧ d.path ≠ patchesFile format :=
    fun d hd =>
      ⟨path_ne_root hformat hfiles hd, path_ne_patches hregular hseparate hformat hfiles hd⟩
  have hroot : patchesFile format ≠ rootFile := by
    rcases List.mem_pair.mp hformat with rfl | rfl <;> decide
  have hpatches : ((patchDocument? g format).toList.map (·.path)).Nodup := by
    cases patchDocument? g format with
    | none => exact List.nodup_nil
    | some d => exact List.nodup_singleton _
  rw [allDocuments, List.map_append, List.map_append]
  refine List.nodup_append.mpr ⟨List.nodup_append.mpr
    ⟨nodup_documents hseparate hformat hfiles, hpatches, ?_⟩, List.nodup_singleton _, ?_⟩
  · intro path hpath path' hpath'
    obtain ⟨d, hd, rfl⟩ := List.mem_map.mp hpath
    obtain ⟨d', hd', rfl⟩ := List.mem_map.mp hpath'
    rw [(eq_of_mem_patchDocument hd').1]
    exact (hne d hd).2
  · intro path hpath path' hpath'
    obtain rfl : path' = rootFile := List.mem_singleton.mp hpath'
    rcases List.mem_append.mp hpath with hpath | hpath
    · obtain ⟨d, hd, rfl⟩ := List.mem_map.mp hpath
      exact (hne d hd).1
    · obtain ⟨d, hd, rfl⟩ := List.mem_map.mp hpath
      rw [(eq_of_mem_patchDocument hd).1]
      exact hroot

end Output

end FluxFleet
