import FluxFleet.Proofs.FileSystem.Write
import FluxFleet.Publish

/-!
# What a run of writes leaves

The files of a result are written one after another. A run that succeeds leaves each of its files,
as far as no later one takes its place, and changes nothing at the places of no file but for the
directories that were missing (`stored_of_writeAll`). A run that ends early has written some of its
files, the first ones, and may have made directories for the next (`LeftOff`).
-/

namespace FluxFleet

namespace Publish

open Text (bytesOf)

variable {directory p : Path} {fs fs' : FileSystem} {files : List (String × String)}
  {text : String}

/-- To write a file is to make its directories and then to put it in place. -/
theorem of_writeText (h : writeText fs p text = (fs', .ok ())) :
    ∃ mid, fs.AddsDirectories mid ∧ mid.Written p (bytesOf text) fs' := by
  have hmade := fs.addsDirectories_ensureDirectories p.parent
  rw [writeText] at h
  split at h
  · cases h
  split at h
  · cases h
  next mid hensured =>
  rw [hensured] at hmade
  split at h
  · cases h
  split at h
  · cases h
  next hwrite =>
  cases h
  exact ⟨mid, hmade, FileSystem.written_of_writeFile hwrite⟩

/-- A write that fails leaves at most directories. -/
theorem addsDirectories_of_writeText {e : Error} (h : writeText fs p text = (fs', .error e)) :
    fs.AddsDirectories fs' := by
  have hmade := fs.addsDirectories_ensureDirectories p.parent
  rw [writeText] at h
  split at h
  · cases h
    exact .refl fs
  split at h
  · next hensured =>
    cases h
    rw [hensured] at hmade
    exact hmade
  next mid hensured =>
  rw [hensured] at hmade
  split at h
  · cases h
    exact hmade
  split at h
  · cases h
    exact hmade
  · cases h

/-- What files leave that have been written below a directory. -/
structure Stored (directory : Path) (fs : FileSystem) (files : List (String × String))
    (fs' : FileSystem) : Prop where
  grows : fs.Extends fs'
  /-- no other place is different, but that a directory may stand where nothing did -/
  other : ∀ q, (∀ f ∈ files, fs.place (directory.child f.1) ≠ q) →
    fs'.seen q = fs.seen q ∨ fs.seen q = none ∧ fs'.seen q = some .empty
  /-- the place of a file holds a file of this place -/
  stored : ∀ q, (∃ f ∈ files, fs.place (directory.child f.1) = q) →
    ∃ f ∈ files, fs.place (directory.child f.1) = q ∧ fs'.seen q = some (.file (bytesOf f.2))
  read : ∀ f ∈ files, ∃ bytes, fs'.readFile (directory.child f.1) = .ok bytes

theorem stored_nil (directory : Path) (fs : FileSystem) : Stored directory fs [] fs := by
  refine ⟨.refl fs, fun _ _ => Or.inl rfl, ?_, ?_⟩
  · rintro q ⟨f, hf, -⟩
    cases hf
  · intro f hf
    cases hf

/-- One more file before the others: it stays as far as none of them takes its place. -/
theorem Stored.cons {f : String × String} {fs₁ : FileSystem}
    (hwrite : writeText fs (directory.child f.1) f.2 = (fs₁, .ok ()))
    (h : Stored directory fs₁ files fs') : Stored directory fs (f :: files) fs' := by
  obtain ⟨mid, hmade, hwritten⟩ := of_writeText hwrite
  have hgrows : fs.Extends fs₁ := hmade.extends.trans hwritten.extends
  have hplace : ∀ p, fs₁.place p = fs.place p := hgrows.place_eq
  have hplace' : ∀ p, mid.place p = fs.place p := hmade.extends.place_eq
  refine ⟨hgrows.trans h.grows, fun q hq => ?_, fun q hq => ?_, fun f' hf' => ?_⟩
  -- a directory that is new here can have been made for this file or for one of the others
  · have hfirst : fs₁.seen q = mid.seen q := by
      rw [hwritten.seen, hplace', if_neg (hq f List.mem_cons_self).symm]
    have hothers : ∀ f' ∈ files, fs₁.place (directory.child f'.1) ≠ q := by
      intro f' hf'
      rw [hplace]
      exact hq f' (List.mem_cons_of_mem _ hf')
    have hrest := h.other q hothers
    rw [hfirst] at hrest
    rcases hrest with hrest | ⟨hnone, hempty⟩
    · rw [hrest]
      exact hmade.seen q
    · rcases hmade.seen q with hq | ⟨-, hq⟩
      · exact Or.inr ⟨hq.symm.trans hnone, hempty⟩
      · rw [hnone] at hq
        cases hq
  -- the last file of a place is the one that is seen there
  · by_cases hlater : ∃ f' ∈ files, fs₁.place (directory.child f'.1) = q
    · obtain ⟨f', hf', hq', hseen⟩ := h.stored q hlater
      exact ⟨f', List.mem_cons_of_mem _ hf', (hplace _).symm.trans hq', hseen⟩
    · have hone : fs.place (directory.child f.1) = q := by
        obtain ⟨f', hf', hq'⟩ := hq
        rcases List.mem_cons.mp hf' with rfl | hf'
        · exact hq'
        · exact absurd ⟨f', hf', (hplace _).trans hq'⟩ hlater
      have hfirst : fs₁.seen q = some (.file (bytesOf f.2)) := by
        rw [hwritten.seen, hplace', if_pos hone.symm]
      rcases h.other q fun f' hf' hq' => hlater ⟨f', hf', hq'⟩ with hkept | ⟨hnone, -⟩
      · exact ⟨f, List.mem_cons_self, hone, hkept.trans hfirst⟩
      · rw [hfirst] at hnone
        cases hnone
  · rcases List.mem_cons.mp hf' with rfl | hf'
    · exact h.grows.readFile hwritten.read
    · exact h.read f' hf'

/-- A run that succeeds stores its files and returns their paths. -/
theorem stored_of_writeAll {written paths : List Path}
    (h : writeAll directory fs written files = (fs', .ok paths)) :
    Stored directory fs files fs' ∧ paths = written ++ files.map fun f => directory.child f.1 := by
  induction files generalizing fs written with
  | nil =>
    obtain ⟨rfl, hpaths⟩ := Prod.mk.inj h
    cases hpaths
    exact ⟨stored_nil directory fs, (List.append_nil _).symm⟩
  | cons f files ih =>
    rw [writeAll] at h
    split at h
    · next fs₁ hwrite =>
      obtain ⟨hstored, hpaths⟩ := ih h
      refine ⟨hstored.cons hwrite, ?_⟩
      rw [hpaths, List.append_assoc]
      rfl
    · cases h

/-- A file whose place no other one takes is read back. -/
theorem Stored.readFile_eq (h : Stored directory fs files fs')
    (hplaces : ∀ f ∈ files, ∀ f' ∈ files,
      fs.place (directory.child f.1) = fs.place (directory.child f'.1) → f = f')
    {f : String × String} (hf : f ∈ files) :
    fs'.readFile (directory.child f.1) = .ok (bytesOf f.2) := by
  obtain ⟨bytes, hread⟩ := h.read f hf
  obtain ⟨f', hf', hplace, hseen⟩ := h.stored _ ⟨f, hf, rfl⟩
  obtain rfl := hplaces f' hf' f hf hplace
  obtain ⟨-, -, hbytes⟩ := FileSystem.readFile_eq_ok.mp hread
  rw [h.grows.place_eq, hseen] at hbytes
  cases hbytes
  exact hread

/-- A file at the place of no file that is written stays as it is, and none is added there. -/
theorem Stored.seen_file_iff (h : Stored directory fs files fs') {q : List String}
    (hq : ∀ f ∈ files, fs.place (directory.child f.1) ≠ q) (bytes : List UInt8) :
    fs'.seen q = some (.file bytes) ↔ fs.seen q = some (.file bytes) := by
  rcases h.other q hq with heq | ⟨hnone, hempty⟩
  · rw [heq]
  · rw [hnone, hempty]
    exact ⟨nofun, nofun⟩

/-! ## Runs that end early -/

/-- What may be left of a run that ends before its files are all written: the first of them, and
directories for the next one. -/
def LeftOff (directory : Path) (fs : FileSystem) (files : List (String × String))
    (left : FileSystem) : Prop :=
  ∃ done rest mid paths, files = done ++ rest ∧
    writeAll directory fs [] done = (mid, .ok paths) ∧ mid.AddsDirectories left

/-- What has been written before does not matter to a run, but for the paths that it returns. -/
theorem exists_writeAll_of_eq {written paths : List Path} (written' : List Path)
    (h : writeAll directory fs written files = (fs', .ok paths)) :
    ∃ paths', writeAll directory fs written' files = (fs', .ok paths') := by
  induction files generalizing fs written written' with
  | nil =>
    obtain ⟨rfl, -⟩ := Prod.mk.inj h
    exact ⟨written', rfl⟩
  | cons f files ih =>
    rw [writeAll] at h ⊢
    split at h
    · exact ih _ h
    · cases h

/-- A first file that is written comes before all that a run may leave. -/
theorem LeftOff.cons {f : String × String} {fs₁ left : FileSystem}
    (hwrite : writeText fs (directory.child f.1) f.2 = (fs₁, .ok ()))
    (h : LeftOff directory fs₁ files left) : LeftOff directory fs (f :: files) left := by
  obtain ⟨done, rest, mid, paths, rfl, hdone, hadds⟩ := h
  obtain ⟨paths', hpaths'⟩ :
      ∃ paths', writeAll directory fs [] (f :: done) = (mid, .ok paths') := by
    obtain ⟨paths', hpaths'⟩ := exists_writeAll_of_eq [directory.child f.1] hdone
    exact ⟨paths', by rw [writeAll, hwrite]; exact hpaths'⟩
  exact ⟨f :: done, rest, mid, paths', rfl, hpaths', hadds⟩

/-- Every run, whether it succeeds or fails, leaves what a run that ends early may leave. -/
theorem leftOff_writeAll (written : List Path) :
    LeftOff directory fs files (writeAll directory fs written files).1 := by
  induction files generalizing fs written with
  | nil => exact ⟨[], [], fs, [], rfl, rfl, .refl fs⟩
  | cons f files ih =>
    rw [writeAll]
    split
    · next fs₁ hwrite => exact (ih _).cons hwrite
    · next hwrite =>
      exact ⟨[], f :: files, fs, [], rfl, rfl, addsDirectories_of_writeText hwrite⟩

end Publish

end FluxFleet
