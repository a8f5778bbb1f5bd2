import FluxFleet.Proofs.FileSystem.Write

/-!
# Paths and their texts

A path that is read from a text has names without slashes (`plain_of_mem_parts`). A relative path of
such names is read back from its text (`ofString_text`). Below a directory it leads to a place of
its own, unless it climbs (`place_child`), and two texts in normal form lead to one place only if
they are the same (`place_child_inj`).
-/

namespace FluxFleet

namespace Path

variable {cs ds : List Char} {s name : String}

/-- A text that is one name of a path. -/
structure Plain (name : String) : Prop where
  whole : '/' ∉ name.toList
  nonempty : name ≠ ""
  notDot : name ≠ "."

theorem pieces_of_not_mem (h : '/' ∉ cs) : pieces cs = [cs] := by
  induction cs with
  | nil => rfl
  | cons c cs ih =>
    obtain ⟨hc, hcs⟩ := not_or.mp (mt List.mem_cons.mpr h)
    rw [pieces, if_neg (by simpa using Ne.symm hc), ih hcs]

/-- The piece before the first slash comes first. -/
theorem pieces_append (h : '/' ∉ cs) (ds : List Char) :
    pieces (cs ++ '/' :: ds) = cs :: pieces ds := by
  induction cs with
  | nil => rfl
  | cons c cs ih =>
    obtain ⟨hc, hcs⟩ := not_or.mp (mt List.mem_cons.mpr h)
    rw [List.cons_append, pieces, if_neg (by simpa using Ne.symm hc), ih hcs]

/-- No piece holds a slash. -/
theorem not_mem_of_mem_pieces {piece : List Char} (h : piece ∈ pieces cs) : '/' ∉ piece := by
  induction cs generalizing piece with
  | nil =>
    obtain rfl := List.mem_singleton.mp h
    exact List.not_mem_nil
  | cons c cs ih =>
    rw [pieces] at h
    split at h
    · rcases List.mem_cons.mp h with rfl | h
      · exact List.not_mem_nil
      · exact ih h
    · next hc =>
      have hc : '/' ≠ c := fun heq => hc (by simp [← heq])
      split at h
      · next first rest hrest =>
        rcases List.mem_cons.mp h with rfl | h
        · intro hmem
          rcases List.mem_cons.mp hmem with heq | hmem
          · exact hc heq
          · exact ih (hrest ▸ List.mem_cons_self) hmem
        · exact ih (hrest ▸ List.mem_cons_of_mem _ h)
      · obtain rfl := List.mem_singleton.mp h
        exact fun hmem => hc (List.mem_singleton.mp hmem)

/-- Pieces that are joined by slashes are cut apart again. -/
theorem pieces_intercalate {row : List (List Char)} (hrow : row ≠ [])
    (h : ∀ piece ∈ row, '/' ∉ piece) : pieces (['/'].intercalate row) = row := by
  induction row with
  | nil => exact absurd rfl hrow
  | cons piece row ih =>
    have hpiece := h piece List.mem_cons_self
    cases row with
    | nil => rw [List.intercalate_singleton, pieces_of_not_mem hpiece]
    | cons next row =>
      rw [List.intercalate_cons_cons, List.append_assoc, List.singleton_append,
        pieces_append hpiece, ih (List.cons_ne_nil _ _) fun p hp => h p (List.mem_cons_of_mem _ hp)]

/-- A plain name is a piece that says something. -/
theorem plain_iff : Plain name ↔ '/' ∉ name.toList ∧ isName name.toList = true := by
  have hempty : name = "" ↔ name.toList = [] := String.toList_eq_nil_iff.symm
  have hdot : name = "." ↔ name.toList = ['.'] := String.toList_inj.symm
  rw [isName, Bool.and_eq_true, Bool.not_eq_true', Bool.eq_false_iff, Ne, List.isEmpty_iff,
    bne_iff_ne, ← hempty, Ne, ← hdot]
  exact ⟨fun h => ⟨h.whole, h.nonempty, h.notDot⟩, fun h => ⟨h.1, h.2.1, h.2.2⟩⟩

/-- The names of a path that is read are plain. -/
theorem plain_of_mem_parts (h : name ∈ (ofString s).parts) : Plain name := by
  obtain ⟨piece, hpiece, rfl⟩ := List.mem_map.mp h
  obtain ⟨hpiece, hname⟩ := List.mem_filter.mp hpiece
  rw [plain_iff, String.toList_ofList]
  exact ⟨not_mem_of_mem_pieces hpiece, hname⟩

/-- A text that starts with a plain name has no root. -/
theorem rootOf_intercalate (h : Plain name) (rest : List (List Char)) :
    rootOf (['/'].intercalate (name.toList :: rest)) = "" := by
  obtain ⟨hslash, hname⟩ := plain_iff.mp h
  rcases hlist : name.toList with _ | ⟨c, cs⟩
  · rw [hlist] at hname
    cases hname
  · rw [hlist] at hslash
    have hc : (c == '/') = false := by
      rw [beq_eq_false_iff_ne]
      exact fun heq => hslash (heq ▸ List.mem_cons_self)
    obtain ⟨ds, hds⟩ : ∃ ds, ['/'].intercalate ((c :: cs) :: rest) = c :: ds := by
      cases rest with
      | nil => exact ⟨cs, List.intercalate_singleton⟩
      | cons next rest => exact ⟨_, List.intercalate_cons_cons⟩
    rw [hds, rootOf, List.takeWhile_cons_of_neg (by simp [hc])]
    rfl

/-- A relative path of plain names is read back from its text. -/
theorem ofString_text {row : List String} (h : ∀ name ∈ row, Plain name) :
    ofString (text { parts := row }) = { parts := row } := by
  cases row with
  | nil => rfl
  | cons first rest =>
    have htext : text { parts := first :: rest } = "/".intercalate (first :: rest) := by
      simp [text]
    have hlist : ("/".intercalate (first :: rest)).toList =
        ['/'].intercalate ((first :: rest).map String.toList) := String.toList_intercalate
    have hroot : rootOf (['/'].intercalate ((first :: rest).map String.toList)) = "" :=
      rootOf_intercalate (h first List.mem_cons_self) _
    have hpieces : pieces (['/'].intercalate ((first :: rest).map String.toList)) =
        (first :: rest).map String.toList := by
      refine pieces_intercalate (by simp) fun piece hpiece => ?_
      obtain ⟨name, hname, rfl⟩ := List.mem_map.mp hpiece
      exact (h name hname).whole
    have hnames : ((first :: rest).map String.toList).filter isName =
        (first :: rest).map String.toList := by
      refine List.filter_eq_self.mpr fun piece hpiece => ?_
      obtain ⟨name, hname, rfl⟩ := List.mem_map.mp hpiece
      exact (plain_iff.mp (h name hname)).2
    rw [htext, ofString, hlist, hroot, hpieces, hnames, List.map_map]
    congr 1
    exact (List.map_congr_left fun name _ => String.ofList_toList).trans (List.map_id _)

/-- A path is absolute exactly if it has a root. -/
theorem isAbsolute_eq_false_iff {p : Path} : p.isAbsolute = false ↔ p.root = "" := by
  rw [isAbsolute, Bool.not_eq_false', String.isEmpty_iff]

/-- A relative path goes on below a directory. -/
theorem child_eq {directory : Path} (h : (ofString s).root = "") :
    directory.child s = { directory with parts := directory.parts ++ (ofString s).parts } := by
  have hrelative : (ofString s).isAbsolute = false := isAbsolute_eq_false_iff.mpr h
  change append directory (ofString s) = _
  rw [append, hrelative, if_neg Bool.false_ne_true]

/-- The text of a path in its normal form that stays below the place where it is followed from. -/
structure Inner (s : String) : Prop where
  relative : (ofString s).root = ""
  inside : ".." ∉ (ofString s).parts
  normal : (ofString s).text = s

theorem inner_text {row : List String} (h : ∀ name ∈ row, Plain name) (hback : ".." ∉ row) :
    Inner (text { parts := row }) := by
  have hread := ofString_text h
  exact ⟨congrArg root hread, (congrArg parts hread).symm ▸ hback, congrArg text hread⟩

/-- The suffix of a name is what follows its last point. -/
theorem suffixOf_append {stem extension : List Char} (hstem : stem ≠ [])
    (hextension : extension ≠ [])
    (hpoint : '.' ∉ extension) : suffixOf (stem ++ '.' :: extension) = '.' :: extension := by
  have htail : ((stem ++ '.' :: extension).reverse.takeWhile (· != '.')).reverse = extension := by
    have hall : ∀ c ∈ extension.reverse, (c != '.') = true := by
      intro c hc
      rw [bne_iff_ne]
      rintro rfl
      exact hpoint (List.mem_reverse.mp hc)
    rw [List.reverse_append, List.reverse_cons, List.append_assoc,
      List.takeWhile_append_of_pos hall, List.singleton_append,
      List.takeWhile_cons_of_neg (by simp), List.append_nil, List.reverse_reverse]
  have hbefore : 1 < (stem ++ '.' :: extension).length - extension.length := by
    have hpos := List.length_pos_iff.mpr hstem
    rw [List.length_append, List.length_cons]
    omega
  simp only [suffixOf, htail]
  rw [if_neg]
  rw [Bool.or_eq_true, not_or, List.isEmpty_iff, decide_eq_true_eq]
  exact ⟨hextension, Nat.not_le.mpr hbefore⟩

end Path

namespace FileSystem

/-- Names that do not lead back go on behind a place. -/
theorem foldl_step {row : List String} (h : ".." ∉ row) (q : List String) :
    row.foldl step q = q ++ row := by
  induction row generalizing q with
  | nil => exact (List.append_nil q).symm
  | cons name row ih =>
    obtain ⟨hname, hrow⟩ := not_or.mp (mt List.mem_cons.mpr h)
    rw [List.foldl_cons, step, if_neg (Ne.symm hname), ih hrow, List.append_assoc,
      List.singleton_append]

/-- A relative path that does not climb leads to a place below the directory. -/
theorem place_child (fs : FileSystem) {directory : Path} {s : String}
    (hroot : (Path.ofString s).root = "") (hback : ".." ∉ (Path.ofString s).parts) :
    fs.place (directory.child s) = fs.place directory ++ (Path.ofString s).parts := by
  rw [Path.child_eq hroot, place, place, List.foldl_append, foldl_step hback]
  rfl

/-- Two texts lead to one place only if they are the same. -/
theorem place_child_inj (fs : FileSystem) {directory : Path} {s t : String} (hs : Path.Inner s)
    (ht : Path.Inner t) : fs.place (directory.child s) = fs.place (directory.child t) ↔ s = t := by
  constructor
  · intro h
    rw [fs.place_child hs.relative hs.inside, fs.place_child ht.relative ht.inside] at h
    have hroots : (Path.ofString s).root = (Path.ofString t).root :=
      hs.relative.trans ht.relative.symm
    have hparts : (Path.ofString s).parts = (Path.ofString t).parts := List.append_cancel_left h
    rw [← hs.normal, ← ht.normal, Path.text, Path.text, hroots, hparts]
  · rintro rfl
    rfl

end FileSystem

end FluxFleet
