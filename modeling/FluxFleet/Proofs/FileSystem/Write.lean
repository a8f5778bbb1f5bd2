import FluxFleet.Proofs.FileSystem.Tree
import FluxFleet.Proofs.Success

/-!
# What operations on paths change

Every path has a place, whether or not something stands there (`place`), and a path that can be
followed leads to it (`follow_eq_place`). Making directories only adds directories
(`addsDirectories_ensureDirectories`). Writing a file changes what is seen at its own place and
nowhere else, and the file can be read back (`written_of_writeFile`). Neither takes anything away,
so that a path which can be followed can be followed ever after (`Extends.follow`).
-/

namespace FluxFleet

namespace FileSystem

/-! ## Places -/

/-- What is seen at a place. -/
def seen (fs : FileSystem) (place : List String) : Option Tree := fs.root.seen place

/-- The place that a name leads to. -/
def step (place : List String) (name : String) : List String :=
  if name = ".." then place.dropLast else place ++ [name]

/-- The place of a path. -/
def place (fs : FileSystem) (p : Path) : List String := p.parts.foldl step (fs.origin p)

variable {fs fs' fs'' : FileSystem} {p : Path} {q names : List String} {name : String}

theorem place_eq_of_working (h : fs'.working = fs.working) (p : Path) :
    fs'.place p = fs.place p := by
  rw [place, place, origin, origin, h]

/-- What stands somewhere is a file or a directory. -/
theorem seen_cases (fs : FileSystem) (q : List String) :
    fs.seen q = none ∨ fs.seen q = some .empty ∨ ∃ bytes, fs.seen q = some (.file bytes) := by
  rw [seen, Tree.seen]
  rcases fs.root.get? q with _ | ⟨bytes | entries⟩
  · exact Or.inl rfl
  · exact Or.inr (Or.inr ⟨bytes, rfl⟩)
  · exact Or.inr (Or.inl rfl)

/-- A name is followed where a directory stands, and something must stand where it leads. -/
theorem follow_cons_eq_ok {result : List String} :
    fs.follow q (name :: names) = .ok result ↔ fs.seen q = some .empty ∧
      (name ≠ ".." → name.utf8ByteSize ≤ longestName ∧ fs.seen (q ++ [name]) ≠ none) ∧
      fs.follow (step q name) names = .ok result := by
  rw [follow, seen, Tree.seen_eq_empty_iff]
  rcases hplace : fs.root.get? q with _ | ⟨bytes | entries⟩
  · constructor
    · intro h
      cases h
    · rintro ⟨⟨entries, h⟩, -⟩
      cases h
  · constructor
    · intro h
      cases h
    · rintro ⟨⟨entries, h⟩, -⟩
      cases h
  · have hentry : fs.seen (q ++ [name]) ≠ none ↔ (Tree.find? name entries).isSome = true := by
      rw [seen, Tree.seen_entry hplace, Option.isSome_iff_ne_none, Ne, Option.map_eq_none_iff]
    rw [hentry, step]
    by_cases hback : name = ".."
    · simp [hback]
    · by_cases hlong : longestName < name.utf8ByteSize
      · simp [hback, hlong, Nat.not_le.mpr hlong]
      · by_cases hsome : (Tree.find? name entries).isSome = true
        · simp [hback, hlong, hsome, Nat.not_lt.mp hlong]
        · simp [hback, hlong, hsome]

/-- A path that can be followed leads to its place. -/
theorem follow_eq_place {result : List String} (h : fs.follow q names = .ok result) :
    result = names.foldl step q := by
  induction names generalizing q with
  | nil => exact (Except.ok.inj h).symm
  | cons name names ih => exact ih (follow_cons_eq_ok.mp h).2.2

/-- A path is followed name by name. -/
theorem follow_append_singleton {result : List String} (h : fs.follow q names = .ok result)
    (hdirectory : fs.seen result = some .empty) (hshort : name.utf8ByteSize ≤ longestName)
    (hseen : fs.seen (result ++ [name]) ≠ none) (hback : name ≠ "..") :
    fs.follow q (names ++ [name]) = .ok (result ++ [name]) := by
  induction names generalizing q with
  | nil =>
    cases h
    refine follow_cons_eq_ok.mpr ⟨hdirectory, fun _ => ⟨hshort, hseen⟩, ?_⟩
    rw [step, if_neg hback]
    rfl
  | cons n names ih =>
    obtain ⟨hq, hname, hrest⟩ := follow_cons_eq_ok.mp h
    exact follow_cons_eq_ok.mpr ⟨hq, hname, ih hrest⟩

/-! ## Nothing is taken away -/

/-- What stood before stands afterwards: directories as directories and files as files, though
perhaps with other bytes. -/
structure Extends (fs fs' : FileSystem) : Prop where
  working : fs'.working = fs.working
  directory : ∀ q, fs.seen q = some .empty → fs'.seen q = some .empty
  file : ∀ q bytes, fs.seen q = some (.file bytes) → ∃ bytes', fs'.seen q = some (.file bytes')

/-- Directories have been added, and nothing else is different. -/
structure AddsDirectories (fs fs' : FileSystem) : Prop where
  working : fs'.working = fs.working
  seen : ∀ q, fs'.seen q = fs.seen q ∨ fs.seen q = none ∧ fs'.seen q = some .empty

/-- A file has been written, and it can be read. -/
structure Written (fs : FileSystem) (p : Path) (bytes : List UInt8) (fs' : FileSystem) : Prop where
  working : fs'.working = fs.working
  free : fs.seen (fs.place p) ≠ some .empty
  seen : ∀ q, fs'.seen q = if q = fs.place p then some (.file bytes) else fs.seen q
  read : fs'.readFile p = .ok bytes

theorem Extends.refl (fs : FileSystem) : fs.Extends fs :=
  ⟨rfl, fun _ h => h, fun _ bytes h => ⟨bytes, h⟩⟩

theorem Extends.trans (h : fs.Extends fs') (h' : fs'.Extends fs'') : fs.Extends fs'' := by
  refine ⟨h'.working.trans h.working, fun q hq => h'.directory q (h.directory q hq), ?_⟩
  intro q bytes hq
  obtain ⟨bytes', hq'⟩ := h.file q bytes hq
  exact h'.file q bytes' hq'

theorem AddsDirectories.refl (fs : FileSystem) : fs.AddsDirectories fs :=
  ⟨rfl, fun _ => Or.inl rfl⟩

theorem AddsDirectories.trans (h : fs.AddsDirectories fs') (h' : fs'.AddsDirectories fs'') :
    fs.AddsDirectories fs'' := by
  refine ⟨h'.working.trans h.working, fun q => ?_⟩
  rcases h.seen q with hq | ⟨hq, hempty⟩
  · rcases h'.seen q with hq' | ⟨hq', hempty⟩
    · exact Or.inl (hq'.trans hq)
    · exact Or.inr ⟨hq.symm.trans hq', hempty⟩
  · rcases h'.seen q with hq' | ⟨hq', -⟩
    · exact Or.inr ⟨hq, hq'.trans hempty⟩
    · rw [hempty] at hq'
      cases hq'

theorem AddsDirectories.extends (h : fs.AddsDirectories fs') : fs.Extends fs' := by
  have hkept : ∀ q t, fs.seen q = some t → fs'.seen q = some t := by
    intro q t hq
    rcases h.seen q with hq' | ⟨hnone, -⟩
    · exact hq'.trans hq
    · rw [hq] at hnone
      cases hnone
  exact ⟨h.working, fun q => hkept q _, fun q bytes hq => ⟨bytes, hkept q _ hq⟩⟩

/-- Where no directory stood, a file can take the place. -/
theorem extends_of_seen {bytes : List UInt8} (hworking : fs'.working = fs.working)
    (hfree : fs.seen (fs.place p) ≠ some .empty)
    (hseen : ∀ q, fs'.seen q = if q = fs.place p then some (.file bytes) else fs.seen q) :
    fs.Extends fs' := by
  refine ⟨hworking, fun q hq => ?_, fun q bytes' hq => ?_⟩
  · have hne : q ≠ fs.place p := fun heq => hfree (heq ▸ hq)
    rw [hseen, if_neg hne, hq]
  · rw [hseen]
    split
    · exact ⟨bytes, rfl⟩
    · exact ⟨bytes', hq⟩

theorem Written.extends {bytes : List UInt8} (h : fs.Written p bytes fs') : fs.Extends fs' :=
  extends_of_seen h.working h.free h.seen

theorem Extends.seen_ne_none (h : fs.Extends fs') (hq : fs.seen q ≠ none) : fs'.seen q ≠ none := by
  rcases fs.seen_cases q with hnone | hempty | ⟨bytes, hfile⟩
  · exact absurd hnone hq
  · rw [h.directory q hempty]
    exact Option.some_ne_none _
  · obtain ⟨bytes', hfile'⟩ := h.file q bytes hfile
    rw [hfile']
    exact Option.some_ne_none _

theorem Extends.place_eq (h : fs.Extends fs') (p : Path) : fs'.place p = fs.place p :=
  place_eq_of_working h.working p

/-- A path that can be followed leads to the same place ever after. -/
theorem Extends.follow (h : fs.Extends fs') {result : List String}
    (hfollow : fs.follow q names = .ok result) : fs'.follow q names = .ok result := by
  induction names generalizing q with
  | nil => exact hfollow
  | cons name names ih =>
    obtain ⟨hq, hname, hrest⟩ := follow_cons_eq_ok.mp hfollow
    refine follow_cons_eq_ok.mpr ⟨h.directory q hq, fun hback => ?_, ih hrest⟩
    obtain ⟨hshort, hseen⟩ := hname hback
    exact ⟨hshort, h.seen_ne_none hseen⟩

/-! ## Reading -/

theorem locate_eq_ok {result : List String} :
    fs.locate p = .ok result ↔
      measured p = .ok () ∧ fs.follow (fs.origin p) p.parts = .ok result := by
  rw [locate, bind_eq_ok]
  constructor
  · rintro ⟨⟨⟩, hmeasured, hfollow⟩
    exact ⟨hmeasured, hfollow⟩
  · rintro ⟨hmeasured, hfollow⟩
    exact ⟨⟨⟩, hmeasured, hfollow⟩

/-- A file that can be read is seen at its place. -/
theorem readFile_eq_ok {bytes : List UInt8} :
    fs.readFile p = .ok bytes ↔ measured p = .ok () ∧
      fs.follow (fs.origin p) p.parts = .ok (fs.place p) ∧
      fs.seen (fs.place p) = some (.file bytes) := by
  constructor
  · intro h
    obtain ⟨t, hlookup, hbytes⟩ := bind_eq_ok.mp h
    obtain ⟨result, hlocate, hget⟩ := bind_eq_ok.mp hlookup
    obtain ⟨hmeasured, hfollow⟩ := locate_eq_ok.mp hlocate
    obtain rfl : result = fs.place p := follow_eq_place hfollow
    refine ⟨hmeasured, hfollow, Tree.seen_eq_file_iff.mpr ?_⟩
    rcases hfound : fs.root.get? (fs.place p) with _ | ⟨bytes' | entries⟩
    · rw [hfound] at hget
      cases hget
    · rw [hfound] at hget
      cases hget
      cases hbytes
      rfl
    · rw [hfound] at hget
      cases hget
      cases hbytes
  · rintro ⟨hmeasured, hfollow, hseen⟩
    have hlocate := locate_eq_ok.mpr ⟨hmeasured, hfollow⟩
    have hget : fs.root.get? (fs.place p) = some (.file bytes) := Tree.seen_eq_file_iff.mp hseen
    rw [readFile, lookup, hlocate]
    simp only [bind, Except.bind, hget]
    rfl

/-- What can be read can be read ever after. -/
theorem Extends.readFile (h : fs.Extends fs') {bytes : List UInt8}
    (hread : fs.readFile p = .ok bytes) :
    ∃ bytes', fs'.readFile p = .ok bytes' := by
  obtain ⟨hmeasured, hfollow, hseen⟩ := readFile_eq_ok.mp hread
  obtain ⟨bytes', hseen'⟩ := h.file _ bytes hseen
  refine ⟨bytes', readFile_eq_ok.mpr ⟨hmeasured, ?_, ?_⟩⟩
  · rw [h.place_eq, origin, h.working]
    exact h.follow hfollow
  · rw [h.place_eq, hseen']

/-! ## Writing -/

/-- The slot of a path is where its directories lead. -/
theorem slot_eq_ok {above : List String} (h : fs.slot p = .ok (above, name)) :
    measured p = .ok () ∧ fs.follow (fs.origin p) p.parts.dropLast = .ok above ∧
      fs.seen above = some .empty ∧ name.utf8ByteSize ≤ longestName ∧ name = p.name := by
  obtain ⟨⟨⟩, hmeasured, h⟩ := bind_eq_ok.mp h
  obtain ⟨result, hfollow, h⟩ := bind_eq_ok.mp h
  rcases hget : fs.root.get? result with _ | ⟨bytes | entries⟩
  · rw [hget] at h
    cases h
  · rw [hget] at h
    cases h
  · rw [hget] at h
    by_cases hlong : longestName < p.name.utf8ByteSize
    · simp only [if_pos hlong] at h
      cases h
    · simp only [if_neg hlong] at h
      cases h
      exact ⟨hmeasured, hfollow, Tree.seen_eq_empty_iff.mpr ⟨entries, hget⟩, Nat.not_lt.mp hlong,
        rfl⟩

/-- The slot of a path that does not lead back is its place. -/
theorem place_eq_of_slot {above : List String} (h : fs.slot p = .ok (above, name))
    (hparts : p.parts ≠ []) (hback : name ≠ "..") :
    fs.place p = above ++ [name] ∧ p.parts = p.parts.dropLast ++ [name] := by
  obtain ⟨-, hfollow, -, -, rfl⟩ := slot_eq_ok h
  have hlast : p.parts = p.parts.dropLast ++ [p.name] := by
    rw [Path.name, List.getLastD_eq_getLast?, List.getLast?_eq_some_getLast hparts,
      Option.getD_some, List.dropLast_append_getLast]
  refine ⟨?_, hlast⟩
  rw [place, hlast, List.foldl_append, ← follow_eq_place hfollow, List.foldl_cons, List.foldl_nil,
    step, if_neg hback]

/-- What is put in the slot of a path, where no directory stands, is seen at the place of the path,
and elsewhere nothing is different. -/
theorem seen_put {above : List String} {new : Tree} (h : fs.slot p = .ok (above, name))
    (hparts : p.parts ≠ []) (hback : name ≠ "..") (hfree : fs.seen (fs.place p) ≠ some .empty)
    (hnew : new.Childless) (q : List String) :
    ({ fs with root := fs.root.set (above ++ [name]) new } : FileSystem).seen q =
      if q = fs.place p then some new.shape else fs.seen q := by
  obtain ⟨hplace, -⟩ := place_eq_of_slot h hparts hback
  obtain ⟨-, -, habove, -, -⟩ := slot_eq_ok h
  rw [hplace] at hfree ⊢
  exact Tree.seen_set habove hfree hnew q

/-- A file that has been put in the slot of a path can be read. -/
theorem written_of_seen {above : List String} {bytes : List UInt8}
    (h : fs.slot p = .ok (above, name)) (hparts : p.parts ≠ []) (hback : name ≠ "..")
    (hfree : fs.seen (fs.place p) ≠ some .empty) (hworking : fs'.working = fs.working)
    (hseen : ∀ q, fs'.seen q = if q = fs.place p then some (.file bytes) else fs.seen q) :
    fs.Written p bytes fs' := by
  obtain ⟨hplace, hlast⟩ := place_eq_of_slot h hparts hback
  obtain ⟨hmeasured, hfollow, habove, hshort, -⟩ := slot_eq_ok h
  have hextends := extends_of_seen hworking hfree hseen
  have hfile : fs'.seen (above ++ [name]) = some (.file bytes) := by
    rw [hseen, if_pos hplace.symm]
  refine ⟨hworking, hfree, hseen, readFile_eq_ok.mpr ⟨hmeasured, ?_, ?_⟩⟩
  · rw [hextends.place_eq, hplace, hlast, origin, hworking]
    refine follow_append_singleton (hextends.follow hfollow) (hextends.directory _ habove) hshort ?_
      hback
    rw [hfile]
    exact Option.some_ne_none _
  · rw [hextends.place_eq, hplace, hfile]

/-- A file that is written changes what is seen at its place only, and it can be read. -/
theorem written_of_writeFile {bytes : List UInt8} (h : fs.writeFile p bytes = .ok fs') :
    fs.Written p bytes fs' := by
  rw [writeFile] at h
  split at h
  · cases h
  next hparts =>
  obtain ⟨⟨above, name⟩, hslot, h⟩ := bind_eq_ok.mp h
  simp only at h
  split at h
  · cases h
  next hback =>
  have hparts : p.parts ≠ [] := by simpa using hparts
  have hback : name ≠ ".." := by simpa using hback
  obtain ⟨hplace, -⟩ := place_eq_of_slot hslot hparts hback
  split at h
  · cases h
  next hget =>
  cases h
  have hfree : fs.seen (fs.place p) ≠ some .empty := by
    rw [hplace, Ne, seen, Tree.seen_eq_empty_iff]
    rintro ⟨entries, hentries⟩
    exact hget entries hentries
  exact written_of_seen hslot hparts hback hfree rfl
    (seen_put hslot hparts hback hfree (Tree.childless_file bytes))

/-- A directory that is made is added. -/
theorem addsDirectories_of_makeDirectory (h : fs.makeDirectory p = .ok fs') :
    fs.AddsDirectories fs' := by
  rw [makeDirectory] at h
  split at h
  · cases h
  next hparts =>
  obtain ⟨⟨above, name⟩, hslot, h⟩ := bind_eq_ok.mp h
  simp only at h
  split at h
  · cases h
  next hback =>
  have hparts : p.parts ≠ [] := by simpa using hparts
  have hback : name ≠ ".." := by simpa using hback
  obtain ⟨hplace, -⟩ := place_eq_of_slot hslot hparts hback
  split at h
  · cases h
  next hget =>
  cases h
  have hnone : fs.seen (fs.place p) = none := by
    rw [hplace]
    exact Tree.seen_eq_none_iff.mpr hget
  have hfree : fs.seen (fs.place p) ≠ some .empty := by
    rw [hnone]
    exact (Option.some_ne_none _).symm
  refine ⟨rfl, fun q => ?_⟩
  rw [seen_put hslot hparts hback hfree Tree.childless_empty]
  by_cases hq : q = fs.place p
  · subst hq
    rw [if_pos rfl]
    exact Or.inr ⟨hnone, rfl⟩
  · rw [if_neg hq]
    exact Or.inl rfl

theorem addsDirectories_ensureDirectory (fs : FileSystem) (p : Path) :
    fs.AddsDirectories (fs.ensureDirectory p).1 := by
  rw [ensureDirectory]
  split
  · next made hmade => exact addsDirectories_of_makeDirectory hmade
  · exact .refl fs

theorem addsDirectories_ensureNames (root : String) (fs : FileSystem) (names : List String) :
    fs.AddsDirectories (ensureNames root fs names).1 := by
  induction names with
  | nil => exact addsDirectories_ensureDirectory fs _
  | cons name above ih =>
    rw [ensureNames]
    split
    -- what lies above is missing, so that it is made first
    · split
      · next mid habove =>
        rw [habove] at ih
        exact ih.trans (addsDirectories_ensureDirectory mid _)
      · exact ih
    · next made hmade => exact addsDirectories_of_makeDirectory hmade
    · exact .refl fs

/-- Making the directories of a path adds directories, also if not all of them can be made. -/
theorem addsDirectories_ensureDirectories (fs : FileSystem) (p : Path) :
    fs.AddsDirectories (fs.ensureDirectories p).1 := addsDirectories_ensureNames _ fs _

end FileSystem

end FluxFleet
