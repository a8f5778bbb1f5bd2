import FluxFleet.Proofs.Deployment
import FluxFleet.Proofs.Layout

/-!
# Where the documents of plugins go

A plugin puts documents at paths that it writes in any way. The resource files can be made only if
no such path leads out of the directory (`Escapes`), and none is taken by the root file, the
controller patches, a document of the result itself or an earlier document of a plugin
(`Misplaced`). Then each document has a file of its own (`documents_placed`).

The documents of the result itself come first, and may be such that they cannot be written in the
format: nothing is known of the fields that a manifest takes over as they are.
-/

namespace FluxFleet

/-- What a plugin attaches: a path, as it is written, and a document. -/
def Output.attached (row : String × Value) : Value × Value := (.str row.1, row.2)

/-- A result with such documents, and no others of plugins. -/
def Generation.attach (g : Generation) (rows : List (String × Value)) : Generation :=
  { g with additional := ⟨rows.map Output.attached⟩ }

namespace Output

variable {form : Yaml.Node.Form} {g : Generation} {format : String} {content : Content}
variable {ds : List Planned} {start mid : OrderedMap String String} {e : Error}

/-! ## Texts -/

/-- A document whose text can be made. -/
def Writable (form : Yaml.Node.Form) (d : Planned) : Prop :=
  ∃ text, serialize form d.content d.format = .ok text

theorem stream_ne_output {limit : Nat} {docs : List Yaml.Document} {fault : OutputFault} :
    Yaml.stream limit docs ≠ .error (.output fault) := by
  intro h
  rw [Yaml.stream] at h
  split at h
  · next e he =>
    cases h
    obtain ⟨d, -, hd⟩ := List.exists_of_findSome?_eq_some he
    rw [Yaml.Document.fault?] at hd
    split at hd
    · cases hd
    · split at hd <;> cases hd
  · cases h

/-- In a known format no fault of the output keeps a content from being written. -/
theorem serialize_ne_output (hformat : format ∈ formats) {fault : OutputFault} :
    serialize form content format ≠ .error (.output fault) := by
  intro h
  rcases List.mem_pair.mp hformat with rfl | rfl
  · simp only [serialize] at h
    split at h
    · cases h
    · exact stream_ne_output h
  · simp only [serialize] at h
    split at h
    · cases h
    · split at h <;> cases h

theorem exists_foldlM_store_iff :
    (∃ r, ds.foldlM (store form) start = .ok r) ↔ ∀ d ∈ ds, Writable form d := by
  induction ds generalizing start with
  | nil => exact ⟨fun _ => List.forall_mem_nil _, fun _ => ⟨start, rfl⟩⟩
  | cons d ds ih =>
    rw [List.forall_mem_cons]
    constructor
    · rintro ⟨r, h⟩
      rw [List.foldlM_cons] at h
      obtain ⟨next, hnext, h⟩ := bind_eq_ok.mp h
      obtain ⟨text, htext, -⟩ := store_eq_ok.mp hnext
      exact ⟨⟨text, htext⟩, ih.mp ⟨r, h⟩⟩
    · rintro ⟨⟨text, htext⟩, hrest⟩
      obtain ⟨r, h⟩ := ih.mpr hrest
      refine ⟨r, ?_⟩
      rw [List.foldlM_cons]
      exact bind_eq_ok.mpr ⟨_, store_eq_ok.mpr ⟨text, htext, rfl⟩, h⟩

theorem store_eq_error {d : Planned} :
    store form mid d = .error e ↔ serialize form d.content d.format = .error e := by
  rw [store, bind_eq_error]
  refine or_iff_left ?_
  rintro ⟨text, -, h⟩
  cases h

/-- The files of a result itself cannot be made if one of its documents cannot be written, and the
first of these decides the error. -/
theorem generatedFiles_eq_error_iff : generatedFiles form g format = .error e ↔
    ∃ before d after, ownDocuments g format = before ++ d :: after ∧
      (∀ d' ∈ before, Writable form d') ∧ serialize form d.content d.format = .error e := by
  rw [generatedFiles_eq, foldlM_eq_error_iff]
  constructor
  · rintro ⟨before, d, after, b', hown, hbefore, hd⟩
    exact ⟨before, d, after, hown, exists_foldlM_store_iff.mp ⟨b', hbefore⟩, store_eq_error.mp hd⟩
  · rintro ⟨before, d, after, hown, hbefore, hd⟩
    obtain ⟨b', hbefore⟩ := exists_foldlM_store_iff.mpr hbefore
    exact ⟨before, d, after, b', hown, hbefore, store_eq_error.mpr hd⟩

theorem format_of_mem_own {d : Planned} (hd : d ∈ ownDocuments g format) : d.format = format := by
  rw [ownDocuments, List.mem_append, List.mem_append] at hd
  rcases hd with (hd | hd) | hd
  · obtain ⟨m, -, rfl⟩ := List.mem_map.mp hd
    rfl
  · obtain ⟨r, -, rfl⟩ := List.mem_map.mp hd
    rfl
  · split at hd
    · cases hd
    · obtain rfl := List.mem_singleton.mp hd
      rfl

/-! ## Paths -/

/-- A path that leads out of the directory: it starts with a slash, or two points stand between its
slashes. -/
def Escapes (written : String) : Prop :=
  written.toList.head? = some '/' ∨ ['.', '.'] ∈ Path.pieces written.toList

theorem isAbsolute_iff {written : String} :
    (Path.ofString written).isAbsolute = true ↔ written.toList.head? = some '/' := by
  rw [← Bool.not_eq_false, Path.isAbsolute_eq_false_iff]
  have hroot : (Path.ofString written).root = Path.rootOf written.toList := rfl
  rw [hroot, Path.rootOf]
  rcases written.toList with _ | ⟨c, cs⟩
  · simp
  · by_cases hc : c = '/'
    · subst hc
      rw [List.takeWhile_cons_of_pos (by decide), List.length_cons]
      split <;> simp_all
    · rw [List.takeWhile_cons_of_neg (by simpa using hc)]
      simpa using hc

theorem climbs_iff {written : String} :
    (Path.ofString written).climbs = true ↔ ['.', '.'] ∈ Path.pieces written.toList := by
  have hparts : (Path.ofString written).parts =
      ((Path.pieces written.toList).filter Path.isName).map String.ofList := rfl
  rw [Path.climbs, List.contains_iff_mem, hparts, List.mem_map]
  constructor
  · rintro ⟨piece, hpiece, htext⟩
    have hback : piece = ['.', '.'] := String.ofList_injective htext
    rw [← hback]
    exact (List.mem_filter.mp hpiece).1
  · intro h
    exact ⟨['.', '.'], List.mem_filter.mpr ⟨h, by decide⟩, rfl⟩

theorem escapes_iff {written : String} : Escapes written ↔
    ((Path.ofString written).isAbsolute || (Path.ofString written).climbs) = true := by
  rw [Escapes, Bool.or_eq_true, isAbsolute_iff, climbs_iff]

/-! ## Documents of plugins -/

/-- The document with the path in its normal form. -/
def placed (format : String) (row : String × Value) : Planned :=
  ⟨(Path.ofString row.1).text, Content.ofValue row.2, formatFor (Path.ofString row.1) format⟩

/-- The paths that are taken when a document is to be placed behind others. -/
def taken (g : Generation) (format : String) (before : List (String × Value)) : List String :=
  [rootFile, patchesFile format] ++ (ownDocuments g format).map (·.path) ++
    before.map fun row => (placed format row).path

/-- Why a document cannot be placed behind others. -/
inductive Misplaced (g : Generation) (format : String) (before : List (String × Value))
    (row : String × Value) : OutputFault → Prop
  | outside (escapes : Escapes row.1) : Misplaced g format before row (.notRelative row.1)
  | conflict (stays : ¬ Escapes row.1) (mem : (placed format row).path ∈ taken g format before) :
      Misplaced g format before row (.conflict row.1)

variable {row : String × Value} {rows : List (String × Value)}

theorem filterMap_attached : (rows.map attached).filterMap (addition? format) =
    rows.map (placed format) := by
  have hplaced : addition? format ∘ attached = some ∘ placed format := rfl
  rw [List.filterMap_map, hplaced, List.filterMap_eq_map]

/-- A document is refused for its path, or its text is taken in. -/
theorem addFile_attached (form : Yaml.Node.Form) (format : String)
    (files : OrderedMap String String) (row : String × Value) :
    addFile form format files (attached row) =
      if (Path.ofString row.1).isAbsolute || (Path.ofString row.1).climbs then
        .error (.output (.notRelative row.1))
      else if [rootFile, patchesFile format].contains (placed format row).path ||
          files.contains (placed format row).path then
        .error (.output (.conflict row.1))
      else store form files (placed format row) := by
  rw [addFile, attached, pathText, placed, store]
  simp only [pure_bind]
  split
  · rfl
  · split
    · rfl
    · rfl

theorem addFile_cases (form : Yaml.Node.Form) (format : String) (files : OrderedMap String String)
    (row : String × Value) :
    (Escapes row.1 ∧
      addFile form format files (attached row) = .error (.output (.notRelative row.1))) ∨
    (¬ Escapes row.1 ∧ (placed format row).path ∈ [rootFile, patchesFile format] ++ files.keys ∧
      addFile form format files (attached row) = .error (.output (.conflict row.1))) ∨
    (¬ Escapes row.1 ∧ (placed format row).path ∉ [rootFile, patchesFile format] ++ files.keys ∧
      addFile form format files (attached row) = store form files (placed format row)) := by
  rw [addFile_attached, escapes_iff, List.mem_append, ← List.contains_iff_mem,
    ← OrderedMap.contains_iff_mem_keys, ← Bool.or_eq_true]
  split
  · next hescapes => exact Or.inl ⟨hescapes, rfl⟩
  · next hstays =>
    split
    · next hmem => exact Or.inr (Or.inl ⟨hstays, hmem, rfl⟩)
    · next hfree => exact Or.inr (Or.inr ⟨hstays, hfree, rfl⟩)

/-- The paths that are taken behind documents that have been taken in. -/
theorem mem_taken {before : List (String × Value)} {path : String}
    (hown : generatedFiles form g format = .ok start)
    (hbefore : (before.map attached).foldlM (addFile form format) start = .ok mid) :
    path ∈ taken g format before ↔ path ∈ [rootFile, patchesFile format] ++ mid.keys := by
  obtain ⟨hstored, -, -⟩ := of_foldlM_addFile hbefore
  rw [generatedFiles_eq] at hown
  rw [filterMap_attached] at hstored
  have hkeys : path ∈ mid.keys ↔ path ∈ (ownDocuments g format).map (·.path) ∨
      path ∈ before.map fun row => (placed format row).path := by
    rw [mem_keys_of_store hstored, mem_keys_of_store hown, List.map_map]
    exact or_congr_left (or_iff_right List.not_mem_nil)
  rw [taken, List.append_assoc, List.mem_append, List.mem_append, List.mem_append, hkeys]

/-- Documents that can be written are refused for the path of one of them, which decides the
fault. -/
theorem exists_misplaced (hrows : ∀ row ∈ rows, Writable form (placed format row))
    (hown : generatedFiles form g format = .ok start)
    (h : (rows.map attached).foldlM (addFile form format) start = .error e) :
    ∃ before row after fault, rows = before ++ row :: after ∧
      Misplaced g format before row fault ∧ e = .output fault := by
  obtain ⟨first, entry, rest, files, hsplit, hfirst, hentry⟩ := foldlM_eq_error_iff.mp h
  obtain ⟨before, tail, rfl, rfl, htail⟩ := List.map_eq_append_iff.mp hsplit
  obtain ⟨row, after, rfl, rfl, rfl⟩ := List.map_eq_cons_iff.mp htail
  obtain ⟨text, htext⟩ := hrows row (List.mem_append_right _ List.mem_cons_self)
  rcases addFile_cases form format files row with
    ⟨hescapes, heq⟩ | ⟨hstays, hmem, heq⟩ | ⟨-, -, heq⟩
  · cases heq.symm.trans hentry
    exact ⟨before, row, after, _, rfl, .outside hescapes, rfl⟩
  · cases heq.symm.trans hentry
    exact ⟨before, row, after, _, rfl, .conflict hstays ((mem_taken hown hfirst).mpr hmem), rfl⟩
  · rw [heq, store_eq_error, htext] at hentry
    cases hentry

/-- A document that is misplaced is not taken in. -/
theorem exists_error_of_misplaced {before after : List (String × Value)} {fault : OutputFault}
    (hown : generatedFiles form g format = .ok start) (hrows : rows = before ++ row :: after)
    (h : Misplaced g format before row fault) :
    ∃ e, (rows.map attached).foldlM (addFile form format) start = .error e := by
  rcases hfold : (rows.map attached).foldlM (addFile form format) start with e | resources
  · exact ⟨e, rfl⟩
  exfalso
  rw [hrows, List.map_append, List.map_cons, List.foldlM_append] at hfold
  obtain ⟨files, hbefore, hfold⟩ := bind_eq_ok.mp hfold
  rw [List.foldlM_cons] at hfold
  obtain ⟨next, hnext, -⟩ := bind_eq_ok.mp hfold
  have hfree : ¬ Escapes row.1 ∧ (placed format row).path ∉ taken g format before := by
    rcases addFile_cases form format files row with ⟨-, heq⟩ | ⟨-, -, heq⟩ | ⟨hstays, hmem, -⟩
    · cases heq.symm.trans hnext
    · cases heq.symm.trans hnext
    · exact ⟨hstays, mt (mem_taken hown hbefore).mp hmem⟩
  cases h with
  | outside hescapes => exact hfree.1 hescapes
  | conflict _ hmem => exact hfree.2 hmem

/-! ## The files of a result -/

theorem files_attach (form : Yaml.Node.Form) (g : Generation) (format : String)
    (rows : List (String × Value)) : files form (g.attach rows) format =
      (generatedFiles form g format >>= (rows.map attached).foldlM (addFile form format)) := rfl

theorem generatedFiles_isOk_iff :
    (∃ start, generatedFiles form g format = .ok start) ↔
      ∀ d ∈ ownDocuments g format, Writable form d := by
  rw [generatedFiles_eq]
  exact exists_foldlM_store_iff

/-- A fault of the output is one of a path, behind documents of the result that can be written. -/
theorem exists_misplaced_of_files (hformat : format ∈ formats)
    (hrows : ∀ row ∈ rows, Writable form (placed format row)) {fault : OutputFault}
    (h : files form (g.attach rows) format = .error (.output fault)) :
    (∀ d ∈ ownDocuments g format, Writable form d) ∧
      ∃ before row after, rows = before ++ row :: after ∧ Misplaced g format before row fault := by
  rw [files_attach] at h
  rcases bind_eq_error.mp h with hown | ⟨start, hown, hfold⟩
  · obtain ⟨before, d, after, hsplit, -, hd⟩ := generatedFiles_eq_error_iff.mp hown
    have hmem : d ∈ ownDocuments g format := by
      rw [hsplit]
      exact List.mem_append_right _ List.mem_cons_self
    exact absurd hd (serialize_ne_output ((format_of_mem_own hmem).symm ▸ hformat))
  · obtain ⟨before, row, after, fault', hsplit, hmisplaced, hfault⟩ :=
      exists_misplaced hrows hown hfold
    cases hfault
    exact ⟨generatedFiles_isOk_iff.mp ⟨start, hown⟩, before, row, after, hsplit, hmisplaced⟩

/-- If all documents can be written, the files can be made unless a document is misplaced. -/
theorem exists_files_of_placed (hown : ∀ d ∈ ownDocuments g format, Writable form d)
    (hrows : ∀ row ∈ rows, Writable form (placed format row))
    (hplaced : ∀ before row after fault, rows = before ++ row :: after →
      ¬ Misplaced g format before row fault) :
    ∃ resources, files form (g.attach rows) format = .ok resources := by
  obtain ⟨start, hstart⟩ := generatedFiles_isOk_iff.mpr hown
  rcases hfiles : files form (g.attach rows) format with e | resources
  · exfalso
    rw [files_attach] at hfiles
    rcases bind_eq_error.mp hfiles with herror | ⟨start', hstart', hfold⟩
    · cases hstart.symm.trans herror
    · obtain ⟨before, row, after, fault, hsplit, hmisplaced, -⟩ :=
        exists_misplaced hrows hstart' hfold
      exact hplaced before row after fault hsplit hmisplaced
  · exact ⟨resources, rfl⟩

/-- **Placement.** Attach documents that can be written to a result whose manifests have files of
their own. A fault of the output is reported exactly if the documents of the result itself can be
written and some path leads out of the directory or is taken, and the fault names that path. A
document of the result itself that cannot be written comes first. Otherwise each document has a file
of its own, those of plugins at their paths in normal form below the directory, as are the others
whose templates have names. -/
theorem documents_placed (form : Yaml.Node.Form) (g : Generation) (format : String)
    (rows : List (String × Value)) (hformat : format ∈ formats) (hseparate : g.Separate)
    (hrows : ∀ row ∈ rows, Writable form (placed format row)) :
    ((∃ fault, files form (g.attach rows) format = .error (.output fault)) ↔
      (∀ d ∈ ownDocuments g format, Writable form d) ∧ ∃ before row after fault,
        rows = before ++ row :: after ∧ Misplaced g format before row fault) ∧
    (∀ fault, files form (g.attach rows) format = .error (.output fault) → ∃ before row after,
      rows = before ++ row :: after ∧ Misplaced g format before row fault) ∧
    (∀ before d after e, ownDocuments g format = before ++ d :: after →
      (∀ d' ∈ before, Writable form d') → serialize form d.content d.format = .error e →
        files form (g.attach rows) format = .error e) ∧
    ((∀ d ∈ ownDocuments g format, Writable form d) →
      (∀ before row after fault, rows = before ++ row :: after →
        ¬ Misplaced g format before row fault) →
      ∃ resources, files form (g.attach rows) format = .ok resources ∧
        List.Forall₂ (IsFileOf form) resources.entries
          (ownDocuments g format ++ rows.map (placed format)) ∧
        resources.keys.Nodup ∧ (∀ row ∈ rows, Path.Inner (placed format row).path) ∧
        ((∀ m ∈ g.manifests, m.template ≠ "") →
          ∀ d ∈ ownDocuments g format, Path.Inner d.path)) := by
  refine ⟨⟨?_, ?_⟩, ?_, ?_, ?_⟩
  · rintro ⟨fault, h⟩
    obtain ⟨hown, before, row, after, hsplit, hmisplaced⟩ :=
      exists_misplaced_of_files hformat hrows h
    exact ⟨hown, before, row, after, fault, hsplit, hmisplaced⟩
  · rintro ⟨hown, before, row, after, fault, hsplit, hmisplaced⟩
    obtain ⟨start, hstart⟩ := generatedFiles_isOk_iff.mpr hown
    obtain ⟨e, he⟩ := exists_error_of_misplaced hstart hsplit hmisplaced
    obtain ⟨-, -, -, fault', -, -, rfl⟩ := exists_misplaced hrows hstart he
    refine ⟨fault', ?_⟩
    rw [files_attach]
    exact bind_eq_error.mpr (Or.inr ⟨start, hstart, he⟩)
  · exact fun fault h => (exists_misplaced_of_files hformat hrows h).2
  · intro before d after e hsplit hbefore hd
    rw [files_attach]
    exact bind_eq_error.mpr
      (Or.inl (generatedFiles_eq_error_iff.mpr ⟨before, d, after, hsplit, hbefore, hd⟩))
  · intro hown hplaced
    obtain ⟨resources, hfiles⟩ := exists_files_of_placed hown hrows hplaced
    have hseparate' : (g.attach rows).Separate := ⟨hseparate.whole, hseparate.pairs⟩
    have hdocuments : documents (g.attach rows) format =
        ownDocuments g format ++ rows.map (placed format) := by
      rw [← filterMap_attached]
      rfl
    have hentries := entries_of_files hseparate' hformat hfiles
    have hkeys : resources.keys = (documents (g.attach rows) format).map (·.path) :=
      paths_eq_of_files hentries
    refine ⟨resources, hfiles, hdocuments ▸ hentries, ?_, fun row hrow => ?_,
      fun htemplates d hd => inner_of_own htemplates hseparate hformat hd⟩
    · rw [hkeys]
      exact nodup_documents hseparate' hformat hfiles
    · obtain ⟨-, hadditional, -⟩ := files_eq_ok hfiles
      have hmem : placed format row ∈ (g.attach rows).additional.entries.filterMap
          (addition? format) := by
        have hall : (g.attach rows).additional.entries.filterMap (addition? format) =
            rows.map (placed format) := filterMap_attached
        rw [hall]
        exact List.mem_map_of_mem hrow
      exact (fits_of_additional (hadditional _ hmem).1).inner

/-! ## A template whose kustomization has a timeout -/

open Generator in
/-- What is generated for a cluster that selects a template of this name, whose kustomization has
this timeout. -/
def timedRun (template : String) (timeout : Value) : Except Error Generation :=
  (generate noPlugins .new {} { name := "site", selections := [{ name := template }] }
    [{ name := template, kustomizations := [{ Kustomization.bare "web" [] with timeout }],
       versions := [] }] {}).2

theorem separate_of_single {template name : String}
    (h : g.manifests.map (fun m => (m.template, m.name)) = [(template, name)])
    (hwhole : ∀ s ∈ [template, name], '/' ∉ s.toList ∧ s ≠ "." ∧ s ≠ "..") : g.Separate := by
  refine ⟨fun m hm => ?_, h ▸ List.nodup_singleton _⟩
  have hmem : (m.template, m.name) ∈ g.manifests.map fun m => (m.template, m.name) :=
    List.mem_map_of_mem hm
  rw [h] at hmem
  obtain ⟨rfl, rfl⟩ := Prod.mk.inj (List.mem_singleton.mp hmem)
  exact hwhole

/-- A note at a path that is written in two ways. -/
def notes : List (String × Value) :=
  [("./notes//web.json", .record [("text", "mind the step")]), ("notes/web.json", .record [])]

/-- The first note is placed behind the manifest. The other one is refused, as its path is then
taken. -/
theorem notes_misplaced : ∃ g, timedRun "app" "5m" = .ok g ∧ g.Separate ∧
    (files {} (g.attach (notes.take 1)) "json").toOption.map (·.keys) =
      some ["app/app-web.json", "notes/web.json"] ∧
    files {} (g.attach notes) "json" = .error (.output (.conflict "notes/web.json")) ∧
    ∃ before row after, notes = before ++ row :: after ∧
      Misplaced g "json" before row (.conflict "notes/web.json") := by
  have hrows : ∀ row ∈ notes, Writable {} (placed "json" row) := by
    intro row hrow
    rcases List.mem_pair.mp hrow with rfl | rfl <;> exact ⟨_, rfl⟩
  have hmade : ((timedRun "app" "5m").toOption.bind fun g =>
      (files {} (g.attach (notes.take 1)) "json").toOption.map (·.keys)) =
      some ["app/app-web.json", "notes/web.json"] := by
    decide +kernel
  have hrefused : ((timedRun "app" "5m").toOption.bind fun g =>
      match files {} (g.attach notes) "json" with
      | .error (.output fault) => some fault
      | _ => none) = some (.conflict "notes/web.json") := by
    decide +kernel
  obtain ⟨g, hrun, hnames⟩ : ∃ g, timedRun "app" "5m" = .ok g ∧
      g.manifests.map (fun m => (m.template, m.name)) = [("app", "app-web")] := ⟨_, rfl, rfl⟩
  rw [hrun] at hmade hrefused
  have hseparate : g.Separate := separate_of_single hnames (by decide)
  have herror : files {} (g.attach notes) "json" =
      .error (.output (.conflict "notes/web.json")) := by
    simp only [Except.toOption, Option.bind_some] at hrefused
    split at hrefused
    · next fault heq => rw [heq, Option.some.inj hrefused]
    · cases hrefused
  exact ⟨g, hrun, hseparate, hmade, herror,
    (documents_placed {} g "json" notes (by decide) hseparate hrows).2.1 _ herror⟩

/-- Documents of a result itself need not be such that they can be written: a date is taken over
into a manifest, but not into JSON. And a template may have no name, which leaves a path with a
root. -/
theorem date_not_written :
    (∃ g e, timedRun "app" (.date .none ⟨2024, 1, 1⟩) = .ok g ∧ g.Separate ∧
      g.additional.entries = [] ∧ files {} g "json" = .error (.json e)) ∧
    ∃ g, timedRun "" "5m" = .ok g ∧ g.Separate ∧ g.additional.entries = [] ∧
      (files {} g "json").toOption.map (·.keys) = some ["/-web.json"] := by
  constructor
  · obtain ⟨g, e, hrun, hnames, hnone, hfiles⟩ : ∃ g e,
        timedRun "app" (.date .none ⟨2024, 1, 1⟩) = .ok g ∧
        g.manifests.map (fun m => (m.template, m.name)) = [("app", "app-web")] ∧
        g.additional.entries = [] ∧ files {} g "json" = .error (.json e) :=
      ⟨_, _, rfl, rfl, rfl, rfl⟩
    exact ⟨g, e, hrun, separate_of_single hnames (by decide), hnone, hfiles⟩
  · have hmade : ((timedRun "" "5m").toOption.bind fun g =>
        (files {} g "json").toOption.map (·.keys)) = some ["/-web.json"] := by
      decide +kernel
    obtain ⟨g, hrun, hnames, hnone⟩ : ∃ g, timedRun "" "5m" = .ok g ∧
        g.manifests.map (fun m => (m.template, m.name)) = [("", "-web")] ∧
        g.additional.entries = [] := ⟨_, rfl, rfl, rfl⟩
    rw [hrun] at hmade
    exact ⟨g, hrun, separate_of_single hnames (by decide), hnone, hmade⟩

end Output

end FluxFleet
