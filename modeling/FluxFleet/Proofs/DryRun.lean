import FluxFleet.Proofs.Publication
import FluxFleet.Proofs.Separation

/-!
# Dry runs

A dry run of the command `generate` is to print the files instead of writing them. What it prints
for a cluster are the resource files, in the order in which they would be written. The controller
patches and the root file, which come behind them, are not printed (`Account`), so that at least one
file is missing for each cluster (`Account.Of.root_not_shown`). Apart from that the two runs agree:
they have the same accounts, a dry run prints all that is shown in them and leaves the files alone,
and the other one writes all files, as far as no write fails (`Generate.dry_run_accounts`).
-/

namespace FluxFleet

namespace Publish

variable {directory : Path}

/-- Write a file at its path. -/
def store (fs : FileSystem) (f : Path × String) : Except Error FileSystem :=
  match writeText fs f.1 f.2 with
  | (fs, .ok ()) => .ok fs
  | (_, .error e) => .error e

/-- Write files at their paths one after another. -/
def storeAll (fs : FileSystem) (files : List (Path × String)) : Except Error FileSystem :=
  files.foldlM store fs

/-- Files below a directory with their paths. -/
def located (directory : Path) (files : List (String × String)) : List (Path × String) :=
  files.map fun f => (directory.child f.1, f.2)

theorem storeAll_append {fs fs' : FileSystem} {files files' : List (Path × String)}
    (h : storeAll fs files = .ok fs') : storeAll fs (files ++ files') = storeAll fs' files' := by
  rw [storeAll, List.foldlM_append]
  rw [storeAll] at h
  rw [h]
  rfl

/-- Files that are written one after another, up to the first that cannot be written. When all are,
what comes out is given. Directories may be left of a write that fails. -/
inductive Stores (files : List (Path × String)) (given : Except Error Unit) (fs : FileSystem) :
    Except Error Unit → FileSystem → Prop
  | all {fs' : FileSystem} (stored : storeAll fs files = .ok fs') : Stores files given fs given fs'
  | upTo {done rest : List (Path × String)} {f : Path × String} {mid fs' : FileSystem} {e : Error}
      (split : files = done ++ f :: rest) (stored : storeAll fs done = .ok mid)
      (fails : writeText mid f.1 f.2 = (fs', .error e)) (left : mid.AddsDirectories fs') :
      Stores files given fs (.error e) fs'

variable {fs mid fs' : FileSystem} {files files' : List (Path × String)}
  {given out : Except Error Unit} {e : Error}

/-- Files that have been written stand before those that are written next. -/
theorem Stores.after (hfirst : storeAll fs files = .ok mid) (h : Stores files' given mid out fs') :
    Stores (files ++ files') given fs out fs' := by
  cases h with
  | all stored => exact .all ((storeAll_append hfirst).trans stored)
  | @upTo done rest f _ _ _ split stored fails left =>
    have hsplit : files ++ files' = (files ++ done) ++ f :: rest := by
      rw [split, List.append_assoc]
    exact .upTo hsplit ((storeAll_append hfirst).trans stored) fails left

/-- Behind files that are written others can be. -/
theorem Stores.trans (hfirst : Stores files (.ok ()) fs (.ok ()) mid)
    (h : Stores files' given mid out fs') : Stores (files ++ files') given fs out fs' := by
  cases hfirst with
  | all stored => exact h.after stored

/-- A write that fails is the end of it. -/
theorem Stores.stop (h : Stores files (.ok ()) fs (.error e) fs') :
    Stores (files ++ files') given fs (.error e) fs' := by
  cases h with
  | @upTo done rest f _ _ _ split stored fails left =>
    have hsplit : files ++ files' = done ++ f :: (rest ++ files') := by
      rw [split, List.append_assoc, List.cons_append]
    exact .upTo hsplit stored fails left

/-- Nothing turns a failure that is given into a success. -/
theorem Stores.fails (h : Stores files (.error e) fs out fs') : ∃ e', out = .error e' := by
  cases h with
  | all => exact ⟨e, rfl⟩
  | upTo => exact ⟨_, rfl⟩

/-- A run of writes stores its files. -/
theorem stores_writeAll (files : List (String × String)) (fs : FileSystem) (written : List Path) :
    Stores (located directory files) (.ok ()) fs
      ((writeAll directory fs written files).2.map fun _ => ())
      (writeAll directory fs written files).1 := by
  induction files generalizing fs written with
  | nil => exact .all rfl
  | cons f files ih =>
    rw [writeAll]
    rcases hwrite : writeText fs (directory.child f.1) f.2 with ⟨next, e | ⟨⟩⟩
    · exact .upTo (List.nil_append _).symm rfl hwrite (addsDirectories_of_writeText hwrite)
    · have hfirst : storeAll fs [(directory.child f.1, f.2)] = .ok next := by
        rw [storeAll, List.foldlM_cons, store, hwrite]
        rfl
      exact (ih next (written ++ [directory.child f.1])).after hfirst

end Publish

namespace CommandLine

/-- The same arguments for a dry run, -/
def GenerateArguments.dry (a : GenerateArguments) : GenerateArguments := { a with dryRun := true }

/-- and for a run that writes. -/
def GenerateArguments.real (a : GenerateArguments) : GenerateArguments := { a with dryRun := false }

namespace Generate

open Output Publish

variable {stack : Stack} {a : GenerateArguments} {p : Project} {directory : Path} {c : Cluster}
  {cs : List Cluster} {g : Generation} {e : Error} {given : Except Error Unit} {console : Console}

/-! ## Accounts -/

/-- The files of a cluster. -/
structure Account where
  directory : Path
  /-- those that a dry run prints -/
  shown : List (String × String)
  /-- those that are written behind them -/
  hidden : List (String × String)

variable {s : Account} {accounts accounts' : List Account}

/-- The account of a result: its resource files are shown, in ascending order. The controller
patches and the root file are not. -/
structure Account.Of (stack : Stack) (g : Generation) (format : String) (s : Account) : Prop where
  directory : s.directory = g.directory
  files : ∃ resources, Output.files (form stack) g format = .ok resources ∧
    s.shown = sortedFiles resources ∧ List.Forall₂ (IsFileOf (form stack)) s.hidden
      ((patchDocument? g format).toList ++
        [⟨rootFile, .single (root (listed resources.keys) g), "yaml"⟩])

/-- The account of a cluster is that of its result. -/
def Account.For (stack : Stack) (p : Project) (a : GenerateArguments) (c : Cluster)
    (s : Account) : Prop :=
  ∃ directory g, a.directory = some directory ∧ result p a directory c = .ok g ∧
    s.Of stack g a.format

/-- The files of an account as they are printed: each below a line with its path. -/
def Account.printed (s : Account) : String :=
  String.join (s.shown.map fun (name, text) => s!"# {(s.directory.child name).text}\n{text}")

/-- All files of an account in the order of writing. -/
def Account.written (s : Account) : List (Path × String) :=
  located s.directory (s.shown ++ s.hidden)

/-- The accounts of clusters: one for each in order, up to the first cluster that has none. -/
inductive Accounted (stack : Stack) (p : Project) (a : GenerateArguments) :
    List Cluster → List Account → Except Error Unit → Prop
  | done : Accounted stack p a [] [] (.ok ())
  | next {c : Cluster} {cs : List Cluster} {s : Account} {accounts : List Account}
      {given : Except Error Unit} (account : s.For stack p a c)
      (rest : Accounted stack p a cs accounts given) :
      Accounted stack p a (c :: cs) (s :: accounts) given
  | failed {c : Cluster} {cs : List Cluster} {e : Error}
      (none : ∀ s : Account, ¬ s.For stack p a c) :
      Accounted stack p a (c :: cs) [] (.error e)

/-- A result has an account if its resource files can be made, since nothing else can fail. -/
theorem exists_account {resources : OrderedMap String String} (hformat : a.format ∈ formats)
    (hresult : result p a directory c = .ok g)
    (hfiles : files (form stack) g a.format = .ok resources) :
    ∃ s : Account, s.Of stack g a.format ∧ listing stack g a.format = .ok s.printed ∧
      plan (form stack) g a.format = .ok (s.shown ++ s.hidden) := by
  obtain ⟨-, resolved, -, hbuild⟩ := Generator.generate_new_eq_ok hresult
  obtain ⟨planned, hplan⟩ :=
    exists_plan_eq_ok (Generator.textual_of_build hbuild) rfl hformat hfiles
  obtain ⟨-, resources', patchFiles, rootText, hfiles', hpatches, hroot, rfl⟩ := plan_eq_ok hplan
  obtain rfl : resources = resources' := Except.ok.inj (hfiles.symm.trans hfiles')
  refine ⟨⟨g.directory, sortedFiles resources, patchFiles ++ [(rootFile, rootText)]⟩,
    ⟨rfl, resources, hfiles, rfl, List.rel_append hpatches (.cons ⟨rfl, hroot⟩ .nil)⟩, ?_, ?_⟩
  · rw [listing, hfiles]
    rfl
  · rw [hplan, List.append_assoc]

/-- The root file is never among the files that are shown. -/
theorem Account.Of.root_not_shown {format : String} (hformat : format ∈ formats)
    (h : s.Of stack g format) : rootFile ∉ s.shown.map (·.1) ∧ rootFile ∈ s.hidden.map (·.1) := by
  obtain ⟨-, resources, hfiles, hshown, hhidden⟩ := h
  obtain ⟨hfold, -⟩ := files_eq_ok hfiles
  constructor
  · rw [hshown]
    intro hmem
    obtain ⟨f, hf, hroot⟩ := List.mem_map.mp hmem
    have hf : f ∈ resources.entries := (List.mergeSort_perm _ _).mem_iff.mp hf
    rcases exists_document hfold hf with hf | ⟨d, hd, hpath, -⟩
    · cases hf
    · exact path_ne_root hformat hfiles hd (hpath.symm.trans hroot)
  · rw [paths_eq_of_files hhidden, List.map_append]
    exact List.mem_append_right _ List.mem_cons_self

/-- Without resource files it has none, nor a plan. -/
theorem plan_eq_error (hformat : a.format ∈ formats)
    (hfiles : files (form stack) g a.format = .error e) :
    plan (form stack) g a.format = .error e := by
  rw [plan_of_mem_formats hformat, hfiles]
  rfl

/-! ## Both runs -/

/-- One command is a dry run of another: they have the same accounts, of which the first prints what
is shown and leaves the files, while the second writes them. -/
structure DryRunOf (dry real : Session Unit) (accounts : List Account) (given : Except Error Unit)
    (console : Console) : Prop where
  outcome : (dry.run console).1 = given
  files : (dry.run console).2.files = console.files
  output : (dry.run console).2.output =
    console.output ++ String.join (accounts.map Account.printed)
  stores : Stores (accounts.flatMap Account.written) given console.files (real.run console).1
    (real.run console).2.files

/-- For the clusters behind one that has an account the runs go on, unless the writing has
failed. -/
theorem DryRunOf.cons {f f' : Cluster → Session Unit}
    (hfirst : DryRunOf (f c) (f' c) accounts (.ok ()) console)
    (h : ∀ console, DryRunOf (cs.forM f) (cs.forM f') accounts' given console) :
    DryRunOf ((c :: cs).forM f) ((c :: cs).forM f') (accounts ++ accounts') given console := by
  obtain ⟨houtcome, hfiles, houtput, hstores⟩ := hfirst
  have hdry := Session.run_forM_of_ok houtcome cs
  refine ⟨?_, ?_, ?_, ?_⟩
  · rw [hdry, (h _).outcome]
  · rw [hdry, (h _).files, hfiles]
  · rw [hdry, (h _).output, houtput, List.map_append, String.join_append, String.append_assoc]
  · rw [Session.run_forM_cons, List.flatMap_append]
    rcases hrun : (f' c).run console with ⟨e | u, left⟩
    · rw [hrun] at hstores
      exact hstores.stop
    · rw [hrun] at hstores
      exact hstores.trans (h left).stores

/-- Both end at a cluster without an account. -/
theorem DryRunOf.stop {f f' : Cluster → Session Unit}
    (h : DryRunOf (f c) (f' c) [] (.error e) console) :
    DryRunOf ((c :: cs).forM f) ((c :: cs).forM f') [] (.error e) console := by
  obtain ⟨houtcome, hfiles, houtput, hstores⟩ := h
  obtain ⟨e', hreal⟩ := hstores.fails
  have hdry := Session.run_forM_of_error houtcome cs
  have hreal := Session.run_forM_of_error hreal cs
  exact ⟨hdry ▸ houtcome, hdry ▸ hfiles, hdry ▸ houtput, hreal ▸ hstores⟩

/-- Commands that fail alike, without an effect on the files or the output, have no accounts. -/
theorem dryRunOf_nil {dry real : Session Unit}
    (hdry : ∃ errors, dry.run console = (.error e, { console with errors }))
    (hreal : (real.run console).1 = .error e ∧ (real.run console).2.files = console.files) :
    DryRunOf dry real [] (.error e) console := by
  obtain ⟨errors, hdry⟩ := hdry
  refine ⟨by rw [hdry], by rw [hdry], ?_, ?_⟩
  · rw [hdry]
    exact String.append_empty.symm
  · rw [hreal.1, hreal.2]
    exact .all rfl

/-- A dry step prints the listing of its result. -/
theorem run_cluster_dry (hdirectory : a.directory = some directory) (hdry : a.dryRun = true)
    (hresult : result p a directory c = .ok g) (console : Console) :
    ∃ errors, (cluster stack p a c).run console = match listing stack g a.format with
      | .ok text => (.ok (), { console with errors, output := console.output ++ text })
      | .error e => (.error e, { console with errors }) := by
  rw [cluster, hdirectory, hdry]
  simp only [Session.run_bind, Session.run_path, Session.run_lift, Session.run_log, hresult,
    if_true]
  cases listing stack g a.format with
  | ok text => exact ⟨_, rfl⟩
  | error e => exact ⟨_, rfl⟩

/-- A cluster with an account: its resource files are printed, and all its files are written. -/
theorem dryRunOf_cluster (hdirectory : a.directory = some directory)
    (hresult : result p a directory c = .ok g) (haccount : s.Of stack g a.format)
    (hlisting : listing stack g a.format = .ok s.printed)
    (hplan : plan (form stack) g a.format = .ok (s.shown ++ s.hidden)) (console : Console) :
    DryRunOf (cluster stack p a.dry c) (cluster stack p a.real c) [s] (.ok ()) console := by
  obtain ⟨errors, hdry⟩ := run_cluster_dry (a := a.dry) hdirectory rfl hresult console
  obtain ⟨hfiles, hout⟩ := run_cluster (a := a.real) hdirectory rfl hresult console
  have hwrite : Publish.write (form stack) g a.real.format console.files =
      writeAll s.directory console.files [] (s.shown ++ s.hidden) := by
    rw [Publish.write, haccount.directory, show a.real.format = a.format from rfl, hplan]
  rw [show a.dry.format = a.format from rfl, hlisting] at hdry
  refine ⟨by rw [hdry], by rw [hdry], ?_, ?_⟩
  · rw [hdry]
    simp
  · rw [hfiles, hout, hwrite, List.flatMap_singleton]
    exact stores_writeAll _ _ _

/-- Without a directory for the clusters no step begins, and all fail alike. -/
theorem run_cluster_of_none : ∃ e, ∀ a : GenerateArguments, a.directory = none →
    ∀ p c console, (cluster stack p a c).run console = (.error e, console) := by
  refine ⟨.wrongArgument "expected str, bytes or os.PathLike object, not list", ?_⟩
  intro a hdirectory p c console
  rw [cluster, hdirectory]
  rfl

/-- The step of a cluster without an account fails in both runs. -/
theorem dryRunOf_cluster_nil (hformat : a.format ∈ formats)
    (h : ∀ directory g, a.directory = some directory → result p a directory c = .ok g →
      ∃ e, files (form stack) g a.format = .error e) :
    ∃ e, ∀ console,
      DryRunOf (cluster stack p a.dry c) (cluster stack p a.real c) [] (.error e) console := by
  cases hdirectory : a.directory with
  | none =>
    obtain ⟨e, hrun⟩ := run_cluster_of_none
    refine ⟨e, fun console => dryRunOf_nil ⟨console.errors, ?_⟩ ?_⟩
    · exact hrun a.dry hdirectory p c console
    · rw [hrun a.real hdirectory p c console]
      exact ⟨rfl, rfl⟩
  | some directory =>
    rcases hresult : result p a directory c with e | g
    · refine ⟨e, fun console => dryRunOf_nil ⟨console.errors, ?_⟩ ?_⟩
      · exact run_cluster_of_error (a := a.dry) hdirectory hresult console
      · rw [run_cluster_of_error (a := a.real) hdirectory hresult console]
        exact ⟨rfl, rfl⟩
    · obtain ⟨e, hfiles⟩ := h directory g hdirectory hresult
      have hlisting : listing stack g a.format = .error e := by
        rw [listing, hfiles]
        rfl
      refine ⟨e, fun console => dryRunOf_nil ?_ ?_⟩
      · obtain ⟨errors, hdry⟩ := run_cluster_dry (a := a.dry) hdirectory rfl hresult console
        rw [show a.dry.format = a.format from rfl, hlisting] at hdry
        exact ⟨errors, hdry⟩
      · obtain ⟨hleft, hout⟩ := run_cluster (a := a.real) hdirectory rfl hresult console
        have hwrite : Publish.write (form stack) g a.real.format console.files =
            (console.files, .error e) := by
          rw [Publish.write, show a.real.format = a.format from rfl, plan_eq_error hformat hfiles]
        rw [hleft, hout, hwrite]
        exact ⟨rfl, rfl⟩

/-- A cluster has an account or not, and both steps are about it. -/
theorem cluster_cases (hformat : a.format ∈ formats) (p : Project) (c : Cluster) :
    (∃ s : Account, s.For stack p a c ∧
      ∀ console,
        DryRunOf (cluster stack p a.dry c) (cluster stack p a.real c) [s] (.ok ()) console) ∨
    (∀ s : Account, ¬ s.For stack p a c) ∧
      ∃ e, ∀ console,
        DryRunOf (cluster stack p a.dry c) (cluster stack p a.real c) [] (.error e) console := by
  by_cases h : ∃ directory g resources, a.directory = some directory ∧
      result p a directory c = .ok g ∧ files (form stack) g a.format = .ok resources
  · obtain ⟨directory, g, resources, hdirectory, hresult, hfiles⟩ := h
    obtain ⟨s, haccount, hlisting, hplan⟩ := exists_account hformat hresult hfiles
    exact Or.inl ⟨s, ⟨directory, g, hdirectory, hresult, haccount⟩,
      dryRunOf_cluster hdirectory hresult haccount hlisting hplan⟩
  · refine Or.inr ⟨?_, dryRunOf_cluster_nil hformat fun directory g hdirectory hresult => ?_⟩
    · rintro s ⟨directory, g, hdirectory, hresult, -, resources, hfiles, -⟩
      exact h ⟨directory, g, resources, hdirectory, hresult, hfiles⟩
    · rcases hfiles : files (form stack) g a.format with e | resources
      · exact ⟨e, rfl⟩
      · exact absurd ⟨directory, g, resources, hdirectory, hresult, hfiles⟩ h

/-- Runs through clusters have their accounts. -/
theorem dryRunOf_clusters (hformat : a.format ∈ formats) (p : Project) (cs : List Cluster) :
    ∃ accounts given, Accounted stack p a cs accounts given ∧ ∀ console,
      DryRunOf (cs.forM (cluster stack p a.dry)) (cs.forM (cluster stack p a.real)) accounts given
        console := by
  induction cs with
  | nil =>
    exact ⟨[], .ok (), .done, fun console => ⟨rfl, rfl, String.append_empty.symm, .all rfl⟩⟩
  | cons c cs ih =>
    rcases cluster_cases hformat p c with ⟨s, haccount, hfirst⟩ | ⟨hnone, e, hfirst⟩
    · obtain ⟨accounts, given, haccounted, h⟩ := ih
      exact ⟨s :: accounts, given, .next haccount haccounted,
        fun console => (hfirst console).cons h⟩
    · exact ⟨[], .error e, .failed hnone, fun console => (hfirst console).stop⟩

/-- What a run selects: a project that can be loaded, and clusters of it. -/
structure Selects (stack : Stack) (a : GenerateArguments) (fs : FileSystem) (p : Project)
    (cs : List Cluster) : Prop where
  load : ∃ path, a.path = some path ∧ Project.load stack fs path = .ok p
  clusters : clusters p a = .ok cs

/-- A run goes through the clusters that it selects. -/
theorem run_of_selects (h : Selects stack a console.files p cs) :
    (run stack a).run console = (cs.forM (cluster stack p a)).run console := by
  obtain ⟨⟨path, hpath, hload⟩, hclusters⟩ := h
  rw [run, hpath]
  simp only [Session.run_bind, Session.run_get, Session.run_path, Session.run_lift, hload,
    hclusters]

/-- A run that selects none fails before its first step, whether it is dry or not. -/
theorem run_of_not_selects (h : ∀ p cs, ¬ Selects stack a console.files p cs) :
    ∃ e, (run stack a.dry).run console = (.error e, console) ∧
      (run stack a.real).run console = (.error e, console) := by
  rw [run, run, show a.dry.path = a.path from rfl, show a.real.path = a.path from rfl]
  rcases hpath : a.path with _ | path
  · exact ⟨_, rfl, rfl⟩
  simp only [Session.run_bind, Session.run_get, Session.run_path, Session.run_lift]
  rcases hload : Project.load stack console.files path with e | p
  · exact ⟨e, rfl, rfl⟩
  rcases hclusters : clusters p a with e | cs
  · have hdry : clusters p a.dry = .error e := hclusters
    have hreal : clusters p a.real = .error e := hclusters
    simp only [hdry, hreal]
    exact ⟨e, rfl, rfl⟩
  · exact absurd ⟨⟨path, hpath, hload⟩, hclusters⟩ (h p cs)

/-- **A dry run prints the resource files that the other run writes.** If a run selects clusters,
they have accounts up to the first one that fails, and both runs come to the same accounts. The dry
run leaves the files as they are and prints those that are shown, with the paths and the texts that
the other run writes. The other run writes these and the hidden ones, each cluster after the one
before it, until a write fails. Without clusters both runs fail alike and do nothing. -/
theorem dry_run_accounts (hformat : a.format ∈ formats) (console : Console) :
    (∃ p cs accounts given, Selects stack a console.files p cs ∧
      Accounted stack p a cs accounts given ∧
      DryRunOf (run stack a.dry) (run stack a.real) accounts given console) ∨
    (∀ p cs, ¬ Selects stack a console.files p cs) ∧
      ∃ e, (run stack a.dry).run console = (.error e, console) ∧
        (run stack a.real).run console = (.error e, console) := by
  by_cases h : ∃ p cs, Selects stack a console.files p cs
  · obtain ⟨p, cs, hselects⟩ := h
    obtain ⟨accounts, given, haccounted, hruns⟩ := dryRunOf_clusters hformat p cs
    have hdry := run_of_selects (a := a.dry) ⟨hselects.load, hselects.clusters⟩
    have hreal := run_of_selects (a := a.real) ⟨hselects.load, hselects.clusters⟩
    obtain ⟨houtcome, hfiles, houtput, hstores⟩ := hruns console
    refine Or.inl ⟨p, cs, accounts, given, hselects, haccounted, ?_⟩
    exact ⟨by rw [hdry, houtcome], by rw [hdry, hfiles], by rw [hdry, houtput], by rwa [hreal]⟩
  · have hnone : ∀ p cs, ¬ Selects stack a console.files p cs :=
      fun p cs hselects => h ⟨p, cs, hselects⟩
    exact Or.inr ⟨hnone, run_of_not_selects hnone⟩

/-- A project of a cluster without templates, whose controllers are given a setting. -/
def tuned : FileSystem :=
  { root := .directory [("clusters", .directory [("prod", .directory [("cluster.yaml",
      .file (Text.bytesOf ("\x7bapiVersion: kustodian.io/v1, kind: Cluster, " ++
        "metadata: \x7bname: prod\x7d, spec: \x7bgit: \x7bowner: ann, repository: fleet\x7d, " ++
        "flux: \x7bcontrollers: \x7bconcurrent: 4\x7d\x7d\x7d\x7d")))])])] }

/-- A dry run for it prints nothing, and another one writes two files that were not there before. -/
theorem run_tuned :
    ((run {} (GenerateArguments.dry {})).run { files := tuned }).2.output = "" ∧
      let left := ((run {} (GenerateArguments.real {})).run { files := tuned }).2
      left.output = "Wrote 2 files for cluster prod to output/prod\n" ∧
        ∀ name ∈ ["flux-system/patches.yaml", "kustomization.yaml"],
          let path := (Path.ofString "output/prod").child name
          (tuned.readFile path).toOption = none ∧ (left.files.readFile path).toOption.isSome := by
  decide +kernel

/-- The project has accounts. -/
theorem tuned_accounts : "yaml" ∈ formats ∧
    ∃ p cs accounts given, Selects {} {} tuned p cs ∧ Accounted {} p {} cs accounts given ∧
      DryRunOf (run {} (GenerateArguments.dry {})) (run {} (GenerateArguments.real {})) accounts
        given { files := tuned } := by
  have hformat : "yaml" ∈ formats := List.mem_cons_self
  refine ⟨hformat, ?_⟩
  rcases @dry_run_accounts {} {} hformat { files := tuned } with haccounts | ⟨-, e, -, hreal⟩
  · exact haccounts
  · -- a run that fails to select clusters would have printed nothing
    have houtput := run_tuned.2.1
    rw [hreal] at houtput
    change "" = _ at houtput
    exact absurd houtput (by decide)

/-- **A dry run does not print the controller patches or the root file.** It prints nothing for this
project, for which the other run writes both of them. -/
theorem tuned_not_printed :
    ((run {} (GenerateArguments.dry {})).run { files := tuned }).2.output = "" ∧
      ∀ name ∈ ["flux-system/patches.yaml", "kustomization.yaml"],
        let path := (Path.ofString "output/prod").child name
        (tuned.readFile path).toOption = none ∧
          (((run {} (GenerateArguments.real {})).run { files := tuned }).2.files.readFile
            path).toOption.isSome :=
  ⟨run_tuned.1, run_tuned.2.2⟩

end Generate

end CommandLine

end FluxFleet
