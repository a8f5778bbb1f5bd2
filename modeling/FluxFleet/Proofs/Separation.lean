import FluxFleet.CommandLine.Generate
import FluxFleet.Proofs.Deployment
import FluxFleet.Proofs.Plan
import FluxFleet.Proofs.Project
import FluxFleet.Proofs.Publish
import FluxFleet.Proofs.Session

/-!
# Clusters with directories of their own

The command `generate` writes the clusters of a project one after another, each below a directory
that is named after it. What it writes for one cluster changes no file elsewhere
(`Generate.confined_of_cluster`). So clusters whose directories do not lie in each other keep their
files, whatever is written for the others (`Generate.clusters_keep_files`).

Nothing makes sure that two clusters of a project have different names. Those of one name share a
directory, and only the first of them can be selected.
-/

namespace FluxFleet

/-! ## Files below a place -/

/-- The text is a relative path that does not climb. -/
structure Path.Below (s : String) : Prop where
  relative : (ofString s).root = ""
  inside : ".." ∉ (ofString s).parts

/-- Files are changed and added only where `inside` allows it, and nothing is taken away. -/
structure FileSystem.Confined (inside : List String → Prop) (fs fs' : FileSystem) : Prop where
  grows : fs.Extends fs'
  outside : ∀ q, ¬ inside q → ∀ bytes,
    fs'.seen q = some (.file bytes) ↔ fs.seen q = some (.file bytes)

namespace FileSystem

variable {fs fs' fs'' : FileSystem} {inside inside' : List String → Prop}

theorem Confined.refl (inside : List String → Prop) (fs : FileSystem) : Confined inside fs fs :=
  ⟨.refl fs, fun _ _ _ => Iff.rfl⟩

theorem Confined.trans (h : Confined inside fs fs') (h' : Confined inside fs' fs'') :
    Confined inside fs fs'' :=
  ⟨h.grows.trans h'.grows, fun q hq bytes => (h'.outside q hq bytes).trans (h.outside q hq bytes)⟩

theorem Confined.mono (h : Confined inside fs fs') (hinside : ∀ q, inside q → inside' q) :
    Confined inside' fs fs' :=
  ⟨h.grows, fun q hq => h.outside q (mt (hinside q) hq)⟩

/-- Directories that are made change no file. -/
theorem AddsDirectories.confined (h : fs.AddsDirectories fs') : Confined inside fs fs' := by
  refine ⟨h.extends, fun q _ bytes => ?_⟩
  rcases h.seen q with heq | ⟨hnone, hempty⟩
  · rw [heq]
  · rw [hnone, hempty]
    exact ⟨nofun, nofun⟩

/-- What lies below a directory of names is below the place of the directory. -/
theorem place_prefix (fs : FileSystem) {directory : Path} {s : String} (h : Path.Below s) :
    fs.place directory <+: fs.place (directory.child s) := by
  rw [fs.place_child h.relative h.inside]
  exact List.prefix_append _ _

end FileSystem

/-! ## Writing -/

namespace Publish

variable {directory : Path} {fs fs' : FileSystem} {files : List (String × String)}

/-- Files are written below the directory only. -/
theorem Stored.confined (h : Stored directory fs files fs') (hbelow : ∀ f ∈ files, Path.Below f.1) :
    FileSystem.Confined (fs.place directory <+: ·) fs fs' := by
  refine ⟨h.grows, fun q hq => h.seen_file_iff fun f hf hplace => hq ?_⟩
  rw [← hplace]
  exact fs.place_prefix (hbelow f hf)

/-- So they are by a run that ends early. -/
theorem LeftOff.confined (h : LeftOff directory fs files fs')
    (hbelow : ∀ f ∈ files, Path.Below f.1) :
    FileSystem.Confined (fs.place directory <+: ·) fs fs' := by
  obtain ⟨done, rest, mid, paths, rfl, hdone, hadds⟩ := h
  obtain ⟨hstored, -⟩ := stored_of_writeAll hdone
  exact (hstored.confined fun f hf => hbelow f (List.mem_append_left _ hf)).trans hadds.confined

end Publish

namespace Output

variable {form : Yaml.Node.Form} {g : Generation} {format : String}

/-- A text that is read to plain names, none of which leads back, is below. -/
theorem below_of_read {s : String} {row : List String}
    (h : Path.ofString s = { parts := row }) (hback : ".." ∉ row) : Path.Below s :=
  ⟨by rw [h], by rwa [h]⟩

/-- The documents of a result lie below its directory if its manifests do. -/
theorem below_of_own (hformat : format ∈ formats)
    (hmanifests : ∀ m ∈ g.manifests, Path.Below (manifestFile m format)) {d : Planned}
    (hd : d ∈ ownDocuments g format) : Path.Below d.path := by
  rw [ownDocuments, List.mem_append, List.mem_append] at hd
  rcases hd with (hd | hd) | hd
  · obtain ⟨m, hm, rfl⟩ := List.mem_map.mp hd
    exact hmanifests m hm
  · obtain ⟨r, -, rfl⟩ := List.mem_map.mp hd
    refine below_of_read (ofString_repositoryFile hformat) ?_
    rcases List.mem_pair.mp hformat with rfl | rfl <;> decide
  · split at hd
    · cases hd
    · obtain rfl := List.mem_singleton.mp hd
      refine below_of_read (ofString_namespacesFile hformat) ?_
      rcases List.mem_pair.mp hformat with rfl | rfl <;> decide

/-- So do those of plugins, wherever they are put. -/
theorem below_of_additional {d : Planned} (h : Additional format d) : Path.Below d.path := by
  obtain ⟨⟨⟨root, row⟩, rfl, hback, hplain, hpath, -⟩, -, -⟩ := h
  exact below_of_read (hpath ▸ Path.ofString_text hplain) hback

/-- The files of a result lie below its directory if its manifests do. -/
theorem below_of_plan {planned : List (String × String)} (h : plan form g format = .ok planned)
    (hmanifests : ∀ m ∈ g.manifests, Path.Below (manifestFile m format)) {f : String × String}
    (hf : f ∈ planned) : Path.Below f.1 := by
  obtain ⟨hformat, resources, patchFiles, rootText, hresources, hpatches, -, rfl⟩ := plan_eq_ok h
  obtain ⟨hfold, hadditional, -⟩ := files_eq_ok hresources
  rcases List.mem_append.mp hf with hf | hf
  · rcases List.mem_append.mp hf with hf | hf
    · have hf : f ∈ resources.entries := (List.mergeSort_perm _ _).mem_iff.mp hf
      rcases exists_document hfold hf with hf | ⟨d, hd, hpath, -⟩
      · cases hf
      · rw [hpath]
        rcases List.mem_append.mp hd with hd | hd
        · exact below_of_own hformat hmanifests hd
        · exact below_of_additional (hadditional d hd).1
    · rw [path_of_mem_patchFiles hpatches hf]
      refine below_of_read (ofString_patchesFile hformat) ?_
      rcases List.mem_pair.mp hformat with rfl | rfl <;> decide
  · obtain rfl := List.mem_singleton.mp hf
    exact below_of_read ofString_rootFile (by decide)

end Output

namespace Publish

variable {form : Yaml.Node.Form} {g : Generation} {format : String} {fs fs' : FileSystem}

/-- Writing a result, whether it succeeds or fails, changes files below its directory only. -/
theorem confined_of_write
    (hmanifests : ∀ m ∈ g.manifests, Path.Below (Output.manifestFile m format)) :
    FileSystem.Confined (fs.place g.directory <+: ·) fs (write form g format fs).1 := by
  rw [write]
  rcases hplan : Output.plan form g format with e | planned
  · exact .refl _ fs
  · exact (leftOff_writeAll []).confined fun f hf => Output.below_of_plan hplan hmanifests hf

/-- A result that is written stands where its files have their places. -/
theorem stored_of_write {paths : List Path} (h : write form g format fs = (fs', .ok paths)) :
    ∃ planned, Output.plan form g format = .ok planned ∧ Stored g.directory fs planned fs' := by
  rw [write] at h
  rcases hplan : Output.plan form g format with e | planned
  · rw [hplan] at h
    cases h
  · rw [hplan] at h
    exact ⟨planned, rfl, (stored_of_writeAll h).1⟩

end Publish

/-! ## Directories of clusters -/

/-- The clusters have directories that do not lie in each other, below the common one. -/
structure Cluster.Apart (clusters : List Cluster) : Prop where
  below : ∀ c ∈ clusters, Path.Below c.name
  apart : clusters.Pairwise fun c c' =>
    ¬ (Path.ofString c.name).parts <+: (Path.ofString c'.name).parts ∧
      ¬ (Path.ofString c'.name).parts <+: (Path.ofString c.name).parts

/-- Then the clusters have different names. -/
theorem Cluster.Apart.nodup {clusters : List Cluster} (h : Cluster.Apart clusters) :
    (clusters.map (·.name)).Nodup := by
  rw [List.Nodup, List.pairwise_map]
  refine h.apart.imp fun hapart hname => hapart.1 ?_
  rw [hname]

/-- For names without slashes this is enough. -/
theorem Cluster.apart_of_plain {clusters : List Cluster}
    (hplain : ∀ c ∈ clusters, Path.Plain c.name ∧ c.name ≠ "..")
    (hnodup : (clusters.map (·.name)).Nodup) : Cluster.Apart clusters := by
  have hread : ∀ c ∈ clusters, Path.ofString c.name = { parts := [c.name] } := by
    intro c hc
    have htext : Path.text { parts := [c.name] } = c.name := by
      simp [Path.text]
    have hnames : ∀ n ∈ [c.name], Path.Plain n := by
      intro n hn
      rw [List.mem_singleton.mp hn]
      exact (hplain c hc).1
    rw [← Path.ofString_text hnames, htext]
  refine ⟨fun c hc => ⟨by rw [hread c hc], ?_⟩, ?_⟩
  · rw [hread c hc, List.mem_singleton]
    exact (hplain c hc).2.symm
  · refine (List.pairwise_map.mp hnodup).imp_of_mem fun {c c'} hc hc' hne => ?_
    rw [hread c hc, hread c' hc']
    simp [hne, Ne.symm hne]

/-- The files of all manifests lie below the directory that they are written to. -/
def Template.ManifestsBelow (templates : List Template) (format : String) : Prop :=
  ∀ t ∈ templates, ∀ ks ∈ t.kustomizations,
    Path.Below s!"{t.name}/{ks.identity t.name}.{format}"

namespace CommandLine.Generate

variable {stack : Stack} {a : GenerateArguments} {p : Project} {directory : Path} {c : Cluster}
  {g : Generation} {console console' : Console} {out : Except Error Unit}

/-- A result belongs to the directory of its cluster, and its manifests are those of
kustomizations. -/
theorem of_result (h : result p a directory c = .ok g) :
    g.directory = directory.child c.name ∧ ∀ m ∈ g.manifests, ∃ t ∈ p.templates,
      ∃ ks ∈ t.kustomizations, m.template = t.name ∧ m.name = ks.identity t.name := by
  obtain ⟨-, resolved, hresolved, hbuild⟩ := Generator.generate_new_eq_ok h
  obtain ⟨_, _, _, _, -, -, -, -, hg⟩ := Generator.build_eq_ok hbuild
  refine ⟨by rw [hg], fun m hm => ?_⟩
  obtain ⟨r, hr, hrender⟩ := (Generator.mem_manifests hbuild).mp hm
  obtain ⟨hname, htemplate, -⟩ := Generator.render_eq_some hrender
  obtain ⟨ht, hks⟩ := Graph.mem_declared.mp (Resolution.enabled_of_mem hresolved hr).1
  exact ⟨r.template, ht, r.kustomization, hks, htemplate, hname⟩

/-- So its manifests lie below that directory if all manifests of the templates would. -/
theorem below_of_result (h : result p a directory c = .ok g)
    (hbelow : Template.ManifestsBelow p.templates a.format) :
    ∀ m ∈ g.manifests, Path.Below (Output.manifestFile m a.format) := by
  intro m hm
  obtain ⟨t, ht, ks, hks, htemplate, hname⟩ := (of_result h).2 m hm
  rw [Output.manifestFile, htemplate, hname]
  exact hbelow t ht ks hks

/-- Writing a result changes the files only. -/
theorem run_write (g : Generation) (format : String) (c : Console) :
    (write stack g format).run c = ((Publish.write (form stack) g format c.files).2,
      { c with files := (Publish.write (form stack) g format c.files).1 }) := rfl

/-- What is written for a cluster is its result; the rest of the step is about the output. -/
theorem run_cluster (hdirectory : a.directory = some directory) (hdry : a.dryRun = false)
    (hresult : result p a directory c = .ok g) (console : Console) :
    ((cluster stack p a c).run console).2.files =
      (Publish.write (form stack) g a.format console.files).1 ∧
      ((cluster stack p a c).run console).1 =
        (Publish.write (form stack) g a.format console.files).2.map fun _ => () := by
  rw [cluster, hdirectory, hdry]
  simp only [Session.run_bind, Session.run_path, Session.run_lift, Session.run_log, hresult,
    Bool.false_eq_true, if_false, run_write, Session.run_print]
  rcases Publish.write (form stack) g a.format console.files with ⟨files, e | paths⟩
  · exact ⟨rfl, rfl⟩
  · exact ⟨rfl, rfl⟩

/-- Without a result nothing is written. -/
theorem run_cluster_of_error {e : Error} (hdirectory : a.directory = some directory)
    (hresult : result p a directory c = .error e) (console : Console) :
    (cluster stack p a c).run console = (.error e, console) := by
  rw [cluster, hdirectory]
  simp only [Session.run_bind, Session.run_path, Session.run_lift, hresult]

/-- The step of a cluster, whether it succeeds or fails, changes files below its directory only. -/
theorem confined_of_cluster (hdirectory : a.directory = some directory) (hdry : a.dryRun = false)
    (hbelow : Template.ManifestsBelow p.templates a.format) (console : Console) :
    FileSystem.Confined (console.files.place (directory.child c.name) <+: ·) console.files
      ((cluster stack p a c).run console).2.files := by
  rcases hresult : result p a directory c with e | g
  · rw [run_cluster_of_error hdirectory hresult]
    exact .refl _ _
  · rw [(run_cluster hdirectory hdry hresult console).1, ← (of_result hresult).1]
    exact Publish.confined_of_write (below_of_result hresult hbelow)

/-- At each place where a file of the cluster was to be written stands one of its files. -/
def KeepsFiles (stack : Stack) (p : Project) (a : GenerateArguments) (directory : Path)
    (start files : FileSystem) (c : Cluster) : Prop :=
  ∃ g planned, result p a directory c = .ok g ∧ Output.plan (form stack) g a.format = .ok planned ∧
    ∀ f ∈ planned, ∃ f' ∈ planned,
      start.place (g.directory.child f'.1) = start.place (g.directory.child f.1) ∧
        files.seen (start.place (g.directory.child f.1)) = some (.file (Text.bytesOf f'.2))

/-- A step that succeeds leaves the files of its cluster. -/
theorem keepsFiles_of_cluster (hdirectory : a.directory = some directory) (hdry : a.dryRun = false)
    (h : (cluster stack p a c).run console = (.ok (), console')) :
    KeepsFiles stack p a directory console.files console'.files c := by
  rcases hresult : result p a directory c with e | g
  · rw [run_cluster_of_error hdirectory hresult] at h
    cases h
  · obtain ⟨hfiles, hout⟩ := run_cluster hdirectory hdry hresult console
    rw [h] at hfiles hout
    rcases hwrite : Publish.write (form stack) g a.format console.files with ⟨files, e | paths⟩
    · rw [hwrite] at hout
      cases hout
    · obtain ⟨planned, hplan, hstored⟩ := Publish.stored_of_write hwrite
      rw [hwrite] at hfiles
      refine ⟨g, planned, hresult, hplan, fun f hf => ?_⟩
      rw [show console'.files = files from hfiles]
      exact hstored.stored _ ⟨f, hf, rfl⟩

/-- Files of a cluster stay as long as nothing is changed below its directory. -/
theorem KeepsFiles.confined {start files files' : FileSystem} {inside : List String → Prop}
    (h : KeepsFiles stack p a directory start files c)
    (hbelow : Template.ManifestsBelow p.templates a.format)
    (hconfined : FileSystem.Confined inside files files')
    (hinside : ∀ q, start.place (directory.child c.name) <+: q → ¬ inside q) :
    KeepsFiles stack p a directory start files' c := by
  obtain ⟨g, planned, hresult, hplan, hkept⟩ := h
  refine ⟨g, planned, hresult, hplan, fun f hf => ?_⟩
  obtain ⟨f', hf', hplace, hseen⟩ := hkept f hf
  refine ⟨f', hf', hplace, (hconfined.outside _ (hinside _ ?_) _).mpr hseen⟩
  rw [← (of_result hresult).1]
  exact start.place_prefix (Output.below_of_plan hplan (below_of_result hresult hbelow) hf)

/-- Which file system the run starts from matters to places by the working directory only. -/
theorem KeepsFiles.of_extends {start start' files : FileSystem} (hextends : start.Extends start')
    (h : KeepsFiles stack p a directory start' files c) :
    KeepsFiles stack p a directory start files c := by
  have hplace : ∀ path, start'.place path = start.place path := hextends.place_eq
  simp only [KeepsFiles, hplace] at h
  exact h

/-- A run through clusters changes files below their directories only. -/
theorem confined_of_clusters (hdirectory : a.directory = some directory) (hdry : a.dryRun = false)
    (hbelow : Template.ManifestsBelow p.templates a.format) (cs : List Cluster)
    (console : Console) :
    FileSystem.Confined (fun q => ∃ c ∈ cs, console.files.place (directory.child c.name) <+: q)
      console.files ((cs.forM (cluster stack p a)).run console).2.files := by
  induction cs generalizing console with
  | nil => exact .refl _ _
  | cons c cs ih =>
    have hstep := @confined_of_cluster stack a p directory c hdirectory hdry hbelow console
    have hfirst := hstep.mono fun q hq => (⟨c, List.mem_cons_self, hq⟩ :
      ∃ c' ∈ c :: cs, console.files.place (directory.child c'.name) <+: q)
    rw [Session.run_forM_cons]
    rcases hrun : (cluster stack p a c).run console with ⟨e | ⟨⟩, left⟩
    · rw [hrun] at hfirst
      exact hfirst
    · rw [hrun] at hfirst hstep
      refine hfirst.trans ((ih left).mono ?_)
      rintro q ⟨c', hc', hq⟩
      rw [hstep.grows.place_eq] at hq
      exact ⟨c', List.mem_cons_of_mem _ hc', hq⟩

/-- A run through clusters with directories of their own leaves the files of each cluster that it
has come through, whether it succeeds or fails at a later one. -/
theorem clusters_keep_files (hdirectory : a.directory = some directory) (hdry : a.dryRun = false)
    (hbelow : Template.ManifestsBelow p.templates a.format) {cs : List Cluster}
    (hapart : Cluster.Apart cs) (h : (cs.forM (cluster stack p a)).run console = (out, console')) :
    ∃ done rest, cs = done ++ rest ∧ (out = .ok () → rest = []) ∧
      ∀ c ∈ done, KeepsFiles stack p a directory console.files console'.files c := by
  induction cs generalizing console with
  | nil => exact ⟨[], [], rfl, fun _ => rfl, fun c hc => absurd hc List.not_mem_nil⟩
  | cons c cs ih =>
    obtain ⟨hpaths, hpairs⟩ := hapart
    obtain ⟨hothers, hpairs⟩ := List.pairwise_cons.mp hpairs
    rw [Session.run_forM_cons] at h
    rcases hrun : (cluster stack p a c).run console with ⟨e | ⟨⟩, left⟩
    · rw [hrun] at h
      cases h
      exact ⟨[], c :: cs, rfl, nofun, fun c hc => absurd hc List.not_mem_nil⟩
    · rw [hrun] at h
      have hstep := @confined_of_cluster stack a p directory c hdirectory hdry hbelow console
      rw [hrun] at hstep
      obtain ⟨done, rest, rfl, hall, hdone⟩ :=
        ih ⟨fun c' hc' => hpaths c' (List.mem_cons_of_mem _ hc'), hpairs⟩ h
      refine ⟨c :: done, rest, rfl, hall, fun c' hc' => ?_⟩
      rcases List.mem_cons.mp hc' with rfl | hc'
      · -- the clusters behind this one write below other directories
        have hrest :=
          @confined_of_clusters stack a p directory hdirectory hdry hbelow (done ++ rest) left
        rw [show ((done ++ rest).forM (cluster stack p a)).run left = (out, console')
          from h] at hrest
        refine (keepsFiles_of_cluster hdirectory hdry hrun).confined hbelow hrest ?_
        rintro q hq ⟨other, hother, hq'⟩
        have hbelow := hpaths c' List.mem_cons_self
        have hbelow' := hpaths other (List.mem_cons_of_mem _ hother)
        rw [FileSystem.place_child _ hbelow.relative hbelow.inside] at hq
        rw [hstep.grows.place_eq, FileSystem.place_child _ hbelow'.relative hbelow'.inside] at hq'
        rcases List.prefix_or_prefix_of_prefix hq hq' with hle | hle
        · exact (hothers other hother).1 ((List.prefix_append_right_inj _).mp hle)
        · exact (hothers other hother).2 ((List.prefix_append_right_inj _).mp hle)
      · exact (hdone c' hc').of_extends hstep.grows

/-- **Clusters with directories of their own keep their files.** The templates of a loaded project
have different names, and nothing is known of the names of its clusters. If these lead to
directories that do not lie in each other, each cluster can be selected by its name, and a run for
all clusters leaves the files of each one that it has come through, whatever it writes for the
others. -/
theorem generate_all_keeps_files {path : Path} (hpath : a.path = some path)
    (hall : a.cluster = none) (hdirectory : a.directory = some directory) (hdry : a.dryRun = false)
    (hload : Project.load stack console.files path = .ok p)
    (hbelow : Template.ManifestsBelow p.templates a.format) (hapart : Cluster.Apart p.clusters)
    (h : (run stack a).run console = (out, console')) :
    (p.templates.map (·.name)).Nodup ∧ (∀ c ∈ p.clusters, p.clusterNamed c.name = .ok c) ∧
      ∃ done rest, p.clusters = done ++ rest ∧ (out = .ok () → rest = []) ∧
        ∀ c ∈ done, KeepsFiles stack p a directory console.files console'.files c := by
  rw [run, hpath] at h
  simp only [Session.run_bind, Session.run_get, Session.run_path, Session.run_lift, hload, clusters,
    hall] at h
  exact ⟨Project.names_nodup_of_load hload,
    fun c hc => Project.clusterNamed_of_nodup hapart.nodup hc,
    clusters_keep_files hdirectory hdry hbelow hapart h⟩

/-! ## Two clusters -/

/-- The file of a cluster with a name and an owner of its repository. -/
def clusterText (name owner : String) : String :=
  "\x7bapiVersion: kustodian.io/v1, kind: Cluster, metadata: \x7bname: " ++ name ++
    "\x7d, spec: \x7bgit: \x7bowner: " ++ owner ++ ", repository: fleet\x7d\x7d\x7d"

/-- A project of two clusters without templates. -/
def pair (first second : String) : FileSystem :=
  { root := .directory [("clusters", .directory
      [("a", .directory [("cluster.yaml", .file (Text.bytesOf (clusterText first "ann")))]),
       ("b", .directory [("cluster.yaml", .file (Text.bytesOf (clusterText second "bob")))])])] }

/-- The files of the two clusters. -/
def pairFiles : List Path :=
  [Path.ofString "/clusters/a/cluster.yaml", Path.ofString "/clusters/b/cluster.yaml"]

/-- The name of a cluster and the owner of its repository. -/
def label (c : Cluster) : String × Option String := (c.name, c.git.map (·.owner))

/-- What is read from the two files is the project. -/
theorem exists_pair {first second : String}
    (h : ((pairFiles.mapM (Project.cluster {} (pair first second))).run 0).toOption.any
      (fun r => r.1.map label == [(first, some "ann"), (second, some "bob")]) = true) :
    ∃ p c c', Project.load {} (pair first second) (Path.ofString ".") = .ok p ∧ p.templates = [] ∧
      p.clusters = [c, c'] ∧ label c = (first, some "ann") ∧ label c' = (second, some "bob") := by
  rcases hread : (pairFiles.mapM (Project.cluster {} (pair first second))).run 0 with e | ⟨cs, next⟩
  · rw [hread] at h
    cases h
  rw [hread] at h
  have hlabels : cs.map label = [(first, some "ann"), (second, some "bob")] := beq_iff_eq.mp h
  obtain ⟨c, cs', rfl, hc, hcs⟩ := List.map_eq_cons_iff.mp hlabels
  obtain ⟨c', cs'', rfl, hc', hcs'⟩ := List.map_eq_cons_iff.mp hcs
  obtain rfl := List.map_eq_nil_iff.mp hcs'
  have hfiles : Project.clusterFiles (pair first second)
      (((pair first second).absolute (Path.ofString ".")).child "clusters") = pairFiles := by
    have hnames : (pair first second).names
      (((pair first second).absolute (Path.ofString ".")).child "clusters") = ["a", "b"] := rfl
    rw [Project.clusterFiles, hnames, List.mergeSort_of_pairwise (by decide)]
    rfl
  refine ⟨{ path := (pair first second).absolute (Path.ofString "."), templates := [],
            clusters := [c, c'] }, c, c', ?_, rfl, rfl, hc, hc'⟩
  refine Project.load_eq_ok.mpr ⟨rfl, rfl, rfl, rfl, Project.repeated_eq_nil_iff.mpr List.nodup_nil,
    0, next, rfl, ?_⟩
  rw [hfiles]
  exact hread

/-- Two clusters with different names are both selected, and both keep what is written for them. -/
theorem pair_keeps_files :
    ∃ p c c', Project.load {} (pair "east" "west") (Path.ofString ".") = .ok p ∧
      p.clusterNamed "east" = .ok c ∧ p.clusterNamed "west" = .ok c' ∧
      ∃ done rest, [c, c'] = done ++ rest ∧ ∀ c ∈ done,
        KeepsFiles {} p {} (Path.ofString "output") (pair "east" "west")
          ((run {} {}).run { files := pair "east" "west" }).2.files c := by
  obtain ⟨p, c, c', hload, htemplates, hclusters, hc, hc'⟩ :=
    @exists_pair "east" "west" (by decide +kernel)
  obtain ⟨hname, -⟩ := Prod.mk.inj hc
  obtain ⟨hname', -⟩ := Prod.mk.inj hc'
  have hplain : ∀ name ∈ ["east", "west"], Path.Plain name ∧ name ≠ ".." := by
    intro name hname
    rcases List.mem_pair.mp hname with rfl | rfl
    · exact ⟨⟨by decide, by decide, by decide⟩, by decide⟩
    · exact ⟨⟨by decide, by decide, by decide⟩, by decide⟩
  have hnames : p.clusters.map (·.name) = ["east", "west"] := by
    rw [hclusters, List.map_cons, List.map_singleton, hname, hname']
  have hapart : Cluster.Apart p.clusters :=
    Cluster.apart_of_plain (fun c hc => hplain _ (hnames ▸ List.mem_map_of_mem hc))
      (hnames ▸ by decide)
  have hbelow : Template.ManifestsBelow p.templates "yaml" := by
    rw [htemplates]
    exact fun t ht => absurd ht List.not_mem_nil
  obtain ⟨-, hselected, done, rest, hsplit, -, hkept⟩ :=
    @generate_all_keeps_files {} {} p _ { files := pair "east" "west" } _ _ _ rfl rfl rfl rfl hload
      hbelow hapart rfl
  rw [hclusters] at hselected hsplit
  exact ⟨p, c, c', hload, hname ▸ hselected c List.mem_cons_self,
    hname' ▸ hselected c' (List.mem_cons_of_mem _ List.mem_cons_self), done, rest, hsplit, hkept⟩

/-- **Two clusters of one name share a directory.** They are loaded without complaint, the second
one cannot be selected by any name, and their results go to the same place. -/
theorem same_name_shares_directory :
    ∃ p c c', Project.load {} (pair "prod" "prod") (Path.ofString ".") = .ok p ∧
      p.clusters = [c, c'] ∧ label c ≠ label c' ∧ ¬ (p.clusters.map (·.name)).Nodup ∧
      (∀ name, p.clusterNamed name ≠ .ok c') ∧
      ∀ a directory g g', result p a directory c = .ok g → result p a directory c' = .ok g' →
        g.directory = g'.directory := by
  obtain ⟨p, c, c', hload, -, hclusters, hc, hc'⟩ := @exists_pair "prod" "prod" (by decide +kernel)
  obtain ⟨hname, -⟩ := Prod.mk.inj hc
  obtain ⟨hname', -⟩ := Prod.mk.inj hc'
  have hlabels : label c ≠ label c' := by
    rw [hc, hc']
    decide
  refine ⟨p, c, c', hload, hclusters, hlabels, ?_, fun name hselected => ?_, ?_⟩
  · rw [hclusters, List.map_cons, List.map_singleton, hname, hname']
    decide
  · rw [Project.clusterNamed_eq_ok, hclusters] at hselected
    have hfound := List.find?_some hselected
    obtain rfl : c'.name = name := beq_iff_eq.mp hfound
    -- the first cluster has the name as well
    rw [List.find?_cons_of_pos (by rw [hname, hname']; rfl)] at hselected
    cases hselected
    exact hlabels rfl
  · intro a directory g g' hg hg'
    rw [(of_result hg).1, (of_result hg').1, hname, hname']

end CommandLine.Generate

end FluxFleet
