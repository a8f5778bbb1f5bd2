import Mathlib.Data.List.DropRight
import FluxFleet.Document

/-!
# The grammar of references

A reference is read from a text without the blank characters at its ends (`Text.Strips`). What is
left says the name of a kustomization, the names of a template and a kustomization with a slash
between them, or nothing that is a reference (`Reference.Says`). The names are those without a slash
that are not empty, so that a reference is read back from its written form
(`Reference.grammar_exact`).
-/

namespace FluxFleet

/-! ## Trimmed texts -/

namespace Text

/-- A text without blank characters at its ends. -/
structure Trimmed (cs : List Char) : Prop where
  first : ∀ c rest, cs = c :: rest → isBlank c = false
  last : ∀ rest c, cs = rest ++ [c] → isBlank c = false

/-- What is left of a text without the blank characters at its ends. -/
structure Strips (cs ds : List Char) : Prop where
  split : ∃ before after, cs = before ++ ds ++ after ∧ (∀ c ∈ before, isBlank c = true) ∧
    ∀ c ∈ after, isBlank c = true
  trimmed : Trimmed ds

variable {cs ds : List Char}

theorem rdropWhile_of_trimmed (h : Trimmed cs) : cs.rdropWhile isBlank = cs := by
  rw [List.rdropWhile_eq_self_iff]
  intro hne
  simp [h.last _ _ (List.dropLast_append_getLast hne).symm]

/-- Trimming leaves blank characters on both sides, and a trimmed text between them. -/
theorem strips_trimChars (cs : List Char) : Strips cs (trimChars cs) := by
  have htrim : trimChars cs = (cs.dropWhile isBlank).rdropWhile isBlank := rfl
  have hafter : trimChars cs ++ (cs.dropWhile isBlank).rtakeWhile isBlank = cs.dropWhile isBlank :=
    List.rdropWhile_append_rtakeWhile
  refine ⟨⟨cs.takeWhile isBlank, (cs.dropWhile isBlank).rtakeWhile isBlank, ?_,
    fun c hc => List.mem_takeWhile_imp hc, fun c hc => List.mem_rtakeWhile_imp hc⟩, ?_, ?_⟩
  · rw [List.append_assoc, hafter, List.takeWhile_append_dropWhile]
  · intro c rest hcs
    rw [hcs, List.cons_append] at hafter
    have hhead := List.head?_dropWhile_not isBlank cs
    rw [← hafter] at hhead
    exact hhead
  · intro rest c hcs
    rw [htrim] at hcs
    have hne : (cs.dropWhile isBlank).rdropWhile isBlank ≠ [] := by simp [hcs]
    have hlast := List.rdropWhile_last_not isBlank _ hne
    simpa [hcs] using hlast

/-- Nothing else is left of a text in this way. -/
theorem strips_iff : Strips cs ds ↔ ds = trimChars cs := by
  constructor
  · rintro ⟨⟨before, after, rfl, hbefore, hafter⟩, htrimmed⟩
    have hfirst : (before ++ ds ++ after).dropWhile isBlank = (ds ++ after).dropWhile isBlank := by
      rw [List.append_assoc, List.dropWhile_append_of_pos hbefore]
    cases ds with
    | nil =>
      have hnone : after.dropWhile isBlank = [] := List.dropWhile_eq_nil_iff.mpr hafter
      rw [List.nil_append, hnone] at hfirst
      rw [trimChars, hfirst]
      rfl
    | cons c rest =>
      have hc := htrimmed.first c rest rfl
      have hlast : (after.reverse ++ (c :: rest).reverse).dropWhile isBlank =
          (c :: rest).reverse.dropWhile isBlank :=
        List.dropWhile_append_of_pos fun a ha => hafter a (List.mem_reverse.mp ha)
      rw [trimChars, hfirst, List.cons_append, List.dropWhile_cons_of_neg (by simp [hc]),
        ← List.cons_append, List.reverse_append, hlast]
      exact (rdropWhile_of_trimmed htrimmed).symm
  · rintro rfl
    exact strips_trimChars cs

/-- A trimmed text is left as it is. -/
theorem trimChars_of_trimmed (h : Trimmed cs) : trimChars cs = cs :=
  (strips_iff.mp ⟨⟨[], [], (List.append_nil _).symm, nofun, nofun⟩, h⟩).symm

theorem trimmed_trimChars (cs : List Char) : Trimmed (trimChars cs) := (strips_trimChars cs).trimmed

theorem toList_trim (s : String) : (trim s).toList = trimChars s.toList := String.toList_ofList

/-- A part at the start of a trimmed text is not blank as a whole. -/
theorem Trimmed.exists_of_left (h : Trimmed (cs ++ ds)) (hcs : cs ≠ []) :
    ∃ c ∈ cs, isBlank c = false := by
  cases cs with
  | nil => exact absurd rfl hcs
  | cons c cs => exact ⟨c, List.mem_cons_self, h.first c (cs ++ ds) rfl⟩

/-- Nor is one at its end. -/
theorem Trimmed.exists_of_right (h : Trimmed (cs ++ ds)) (hds : ds ≠ []) :
    ∃ c ∈ ds, isBlank c = false := by
  refine ⟨ds.getLast hds, List.getLast_mem hds, h.last (cs ++ ds.dropLast) _ ?_⟩
  rw [List.append_assoc, List.dropLast_append_getLast]

end Text

namespace Reference

open Text

/-! ## The grammar -/

/-- A name as it stands in a written reference. -/
structure IsName (name : String) : Prop where
  nonempty : name ≠ ""
  whole : '/' ∉ name.toList

theorem parts_eq_splitOn (cs : List Char) : parts cs = cs.splitOn '/' := by
  induction cs with
  | nil => rfl
  | cons c cs ih =>
    rw [parts, ih, List.splitOn_cons_eq_if_modifyHead]
    split
    · rfl
    · rcases hrest : cs.splitOn '/' with _ | ⟨p, ps⟩
      · exact absurd hrest (List.splitOn_ne_nil _ _)
      · rfl

/-- What a trimmed text says as a reference. -/
inductive Says (written : String) : List Char → Except ReferenceFault Reference → Prop
  | nothing : Says written [] (.error .empty)
  | name {cs : List Char} (nonempty : cs ≠ []) (whole : '/' ∉ cs) :
      Says written cs (.ok (.within (.ofList cs)))
  | names {as bs : List Char} (left : as ≠ []) (right : bs ≠ []) (wholeLeft : '/' ∉ as)
      (wholeRight : '/' ∉ bs) :
      Says written (as ++ '/' :: bs) (.ok (.across (.ofList as) (.ofList bs)))
  /-- one slash, with nothing on one side of it -/
  | lacking {as bs : List Char} (lacks : as = [] ∨ bs = []) (wholeLeft : '/' ∉ as)
      (wholeRight : '/' ∉ bs) : Says written (as ++ '/' :: bs) (.error (.emptyPart written))
  | more {as bs : List Char} (wholeLeft : '/' ∉ as) (again : '/' ∈ bs) :
      Says written (as ++ '/' :: bs) (.error (.tooManyParts written))

/-- A text is read as what it says without the blank characters at its ends. -/
theorem says_parse (s : String) : Says s (trimChars s.toList) (parse s) := by
  rw [parse]
  simp only [parts_eq_splitOn]
  generalize trimChars s.toList = cs
  by_cases hempty : cs = []
  · rw [hempty]
    exact .nothing
  rw [if_neg (by simpa using hempty)]
  by_cases hslash : '/' ∈ cs
  · obtain ⟨as, bs, rfl, has⟩ := List.eq_append_cons_of_mem hslash
    rw [List.splitOn_append_cons_self_of_not_mem has]
    by_cases hbs : '/' ∈ bs
    · obtain ⟨bs', rest, hsplit, hbs'⟩ := List.eq_append_cons_of_mem hbs
      have hparts : bs.splitOn '/' = bs' :: rest.splitOn '/' := by
        rw [hsplit, List.splitOn_append_cons_self_of_not_mem hbs']
      rw [hparts]
      rcases hrest : rest.splitOn '/' with _ | ⟨p, ps⟩
      · exact absurd hrest (List.splitOn_ne_nil _ _)
      · exact .more has hbs
    · rw [List.splitOn_eq_singleton hbs]
      dsimp only
      split
      · next hlacks => exact .lacking (by simpa using hlacks) has hbs
      · next hfull =>
        simp only [Bool.or_eq_true, List.isEmpty_iff, not_or] at hfull
        exact .names hfull.1 hfull.2 has hbs
  · rw [List.splitOn_eq_singleton hslash]
    exact .name hempty hslash

/-! ## What is read, and from what -/

variable {s name template : String} {as bs as' bs' : List Char} {r : Reference}
  {fault : ReferenceFault}

theorem isName_ofList {cs : List Char} : IsName (.ofList cs) ↔ cs ≠ [] ∧ '/' ∉ cs := by
  have hempty : String.ofList cs = "" ↔ cs = [] := by
    rw [← String.toList_eq_nil_iff, String.toList_ofList]
  constructor
  · rintro ⟨hne, hwhole⟩
    rw [String.toList_ofList] at hwhole
    exact ⟨mt hempty.mpr hne, hwhole⟩
  · rintro ⟨hne, hwhole⟩
    exact ⟨mt hempty.mp hne, by rwa [String.toList_ofList]⟩

theorem isName_iff : IsName name ↔ name.toList ≠ [] ∧ '/' ∉ name.toList := by
  rw [← isName_ofList, String.ofList_toList]

/-- A text is cut at its first slash in one way. -/
theorem eq_of_append_slash (h : as ++ '/' :: bs = as' ++ '/' :: bs') (has : '/' ∉ as)
    (has' : '/' ∉ as') : as = as' ∧ bs = bs' := by
  have hparts := congrArg (·.splitOn '/') h
  simp only [List.splitOn_append_cons_self_of_not_mem has,
    List.splitOn_append_cons_self_of_not_mem has'] at hparts
  obtain rfl := (List.cons.inj hparts).1
  exact ⟨rfl, (List.cons.inj (List.append_cancel_left h)).2⟩

theorem toList_slashed (template name : String) :
    (template ++ "/" ++ name).toList = template.toList ++ '/' :: name.toList := by
  rw [String.toList_append, String.toList_append, List.append_assoc]
  rfl

theorem read_eq_ok : read (.str s) = .ok r ↔ parse s = .ok r := by
  have hread : read (.str s) = (parse s).mapError (.reference (.str s)) := rfl
  rw [hread]
  rcases parse s with e | r' <;> simp [Except.mapError]

theorem read_eq_error (h : parse s = .error fault) :
    read (.str s) = .error (.reference (.str s) fault) := by
  have hread : read (.str s) = (parse s).mapError (.reference (.str s)) := rfl
  rw [hread, h]
  rfl

theorem parse_eq_within_iff : parse s = .ok (.within name) ↔ name = trim s ∧ IsName (trim s) := by
  have hsays := says_parse s
  rw [trim, isName_ofList]
  generalize trimChars s.toList = cs, parse s = out at hsays ⊢
  cases hsays with
  | nothing => simp
  | name hne hwhole => simp [hne, hwhole, eq_comm]
  | names => simp
  | lacking => simp
  | more => simp

theorem parse_eq_across_iff : parse s = .ok (.across template name) ↔
    trim s = template ++ "/" ++ name ∧ IsName template ∧ IsName name := by
  have hsays := says_parse s
  rw [← String.toList_inj, toList_trim, toList_slashed, isName_iff, isName_iff]
  generalize trimChars s.toList = cs, parse s = out at hsays ⊢
  constructor
  · rintro rfl
    cases hsays with
    | names hleft hright has hbs =>
      rw [String.toList_ofList, String.toList_ofList]
      exact ⟨rfl, ⟨hleft, has⟩, hright, hbs⟩
  · rintro ⟨rfl, ⟨hleft, hwhole⟩, hright, hwhole'⟩
    generalize htext : template.toList ++ '/' :: name.toList = cs at hsays
    cases hsays with
    | nothing => simp at htext
    | name _ hnone => exact absurd (by simp [← htext]) hnone
    | names _ _ has _ =>
      obtain ⟨rfl, rfl⟩ := eq_of_append_slash htext hwhole has
      rw [String.ofList_toList, String.ofList_toList]
    | lacking hlacks has _ =>
      obtain ⟨rfl, rfl⟩ := eq_of_append_slash htext hwhole has
      exact absurd hlacks (not_or.mpr ⟨hleft, hright⟩)
    | more has hagain =>
      obtain ⟨rfl, rfl⟩ := eq_of_append_slash htext hwhole has
      exact absurd hagain hwhole'

/-- Nothing else is read from a text. -/
theorem of_parse_eq_ok (h : parse s = .ok r) :
    r = .within (trim s) ∨ ∃ template name, r = .across template name := by
  have hsays := says_parse s
  rw [h] at hsays
  rw [trim]
  generalize trimChars s.toList = cs at hsays ⊢
  cases hsays with
  | name => exact Or.inl rfl
  | names => exact Or.inr ⟨_, _, rfl⟩

/-- The names of a reference to a kustomization. -/
def names : Reference → List String
  | .within name => [name]
  | .across template name => [template, name]
  | .external _ => []

/-- What is read is written down as the text that it was read from, without the blank characters at
its ends. -/
theorem written?_of_parse (h : parse s = .ok r) : r.written? = some (trim s) := by
  rcases of_parse_eq_ok h with rfl | ⟨template, name, rfl⟩
  · rfl
  · rw [(parse_eq_across_iff.mp h).1]
    rfl

theorem trim_trim (s : String) : trim (trim s) = trim s := by
  rw [← String.toList_inj, toList_trim, toList_trim,
    trimChars_of_trimmed (trimmed_trimChars s.toList)]

/-- None of the names that are read is blank as a whole. -/
theorem exists_of_mem_names (h : parse s = .ok r) (hname : name ∈ r.names) :
    ∃ c ∈ name.toList, isBlank c = false := by
  have htrimmed := trimmed_trimChars s.toList
  rw [← toList_trim] at htrimmed
  rcases of_parse_eq_ok h with rfl | ⟨template, own, rfl⟩
  · obtain rfl := List.mem_singleton.mp hname
    have hne := (isName_iff.mp (parse_eq_within_iff.mp h).2).1
    rw [← List.append_nil (trim s).toList] at htrimmed
    exact htrimmed.exists_of_left hne
  · obtain ⟨htext, htemplate, hown⟩ := parse_eq_across_iff.mp h
    rw [htext, toList_slashed] at htrimmed
    rcases List.mem_pair.mp hname with rfl | rfl
    · exact htrimmed.exists_of_left (isName_iff.mp htemplate).1
    · rw [← List.singleton_append, ← List.append_assoc] at htrimmed
      exact htrimmed.exists_of_right (isName_iff.mp hown).1

/-- Names with a slash between them are trimmed if they start and end so. -/
theorem trim_slashed (hfirst : ∀ c rest, template.toList = c :: rest → isBlank c = false)
    (hlast : ∀ rest c, name.toList = rest ++ [c] → isBlank c = false) (htemplate : IsName template)
    (hname : IsName name) : trim (template ++ "/" ++ name) = template ++ "/" ++ name := by
  rw [← String.toList_inj, toList_trim, toList_slashed]
  refine trimChars_of_trimmed ⟨fun c rest h => ?_, fun rest c h => ?_⟩
  · rcases htext : template.toList with _ | ⟨d, ds⟩
    · exact absurd htext (isName_iff.mp htemplate).1
    · rw [htext, List.cons_append] at h
      exact (List.cons.inj h).1 ▸ hfirst d ds htext
  · rcases List.eq_nil_or_concat name.toList with hnil | ⟨ds, d, htext⟩
    · exact absurd hnil (isName_iff.mp hname).1
    · rw [htext, List.concat_eq_append, ← List.cons_append, ← List.append_assoc] at h
      obtain ⟨-, hd⟩ := List.append_inj' h rfl
      exact (List.cons.inj hd).1 ▸ hlast ds d (htext.trans List.concat_eq_append)

/-- **The grammar of references.** A text is read without the blank characters at its ends. What is
left is the name of a kustomization, or the names of a template and of a kustomization with one
slash between them, and nothing else is accepted. So what is read can be written down and read
again, names without blank characters at the ends of their text can be referred to, and no name that
is read is blank. -/
theorem grammar_exact (s : String) :
    Strips s.toList (trim s).toList ∧
    (∀ name, read (.str s) = .ok (.within name) ↔ name = trim s ∧ IsName (trim s)) ∧
    (∀ template name, read (.str s) = .ok (.across template name) ↔
      trim s = template ++ "/" ++ name ∧ IsName template ∧ IsName name) ∧
    (¬ IsName (trim s) →
      (∀ template name, trim s = template ++ "/" ++ name → ¬ (IsName template ∧ IsName name)) →
      ∃ fault, read (.str s) = .error (.reference (.str s) fault)) ∧
    (∀ r, read (.str s) = .ok r → ∃ text, r.written? = some text ∧ read (.str text) = .ok r ∧
      ∀ name ∈ r.names, ∃ c ∈ name.toList, isBlank c = false) ∧
    ∀ template name, IsName template → IsName name →
      (∀ c rest, template.toList = c :: rest → isBlank c = false) →
      (∀ rest c, name.toList = rest ++ [c] → isBlank c = false) →
        read (.str (template ++ "/" ++ name)) = .ok (.across template name) ∧
        (read (.str s) = .ok (.across template name) ↔ trim s = template ++ "/" ++ name) := by
  refine ⟨?_, fun name => ?_, fun template name => ?_, fun hname hnames => ?_, fun r hr => ?_,
    fun template name htemplate hname hfirst hlast => ⟨?_, ?_⟩⟩
  · rw [toList_trim]
    exact strips_trimChars s.toList
  · rw [read_eq_ok, parse_eq_within_iff]
  · rw [read_eq_ok, parse_eq_across_iff]
  · rcases hparse : parse s with fault | r
    · exact ⟨fault, read_eq_error hparse⟩
    · rcases of_parse_eq_ok hparse with rfl | ⟨template, name, rfl⟩
      · exact absurd (parse_eq_within_iff.mp hparse).2 hname
      · obtain ⟨htext, hparts⟩ := parse_eq_across_iff.mp hparse
        exact absurd hparts (hnames template name htext)
  · have hparse := read_eq_ok.mp hr
    refine ⟨trim s, written?_of_parse hparse, read_eq_ok.mpr ?_,
      fun name hname => exists_of_mem_names hparse hname⟩
    rcases of_parse_eq_ok hparse with rfl | ⟨template, name, rfl⟩
    · rw [parse_eq_within_iff, trim_trim]
      exact ⟨rfl, (parse_eq_within_iff.mp hparse).2⟩
    · rw [parse_eq_across_iff, trim_trim]
      exact parse_eq_across_iff.mp hparse
  · rw [read_eq_ok, parse_eq_across_iff]
    exact ⟨trim_slashed hfirst hlast htemplate hname, htemplate, hname⟩
  · rw [read_eq_ok, parse_eq_across_iff]
    exact and_iff_left ⟨htemplate, hname⟩

end Reference

end FluxFleet
