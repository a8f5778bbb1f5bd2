import FluxFleet.Proofs.Tiers

/-!
# The variables that need a provider, by type

Enabled kustomizations are gone through in the order of declaration (`enabled_of_resolveAll`), and
each variable that needs a provider joins the group of its type. So there is a group for each type
in the order of first appearance, and it holds the variables of that type (`external_eq_grouped`).
-/

namespace FluxFleet

namespace Resolution

open OrderedMap (Steady)
open Enablement (flag)
open FluxFleet.Graph (declared)

/-! ## First appearances -/

/-- The members of a row in the order of first appearance. -/
def firstAppearances (row : List Value) : List Value :=
  row.foldl (fun seen v => if seen.any (· == v) then seen else seen ++ [v]) []

theorem firstAppearances_snoc (row : List Value) (v : Value) :
    firstAppearances (row ++ [v]) =
      if (firstAppearances row).any (· == v) then firstAppearances row
      else firstAppearances row ++ [v] := by
  rw [firstAppearances, List.foldl_append]
  rfl

/-- What appears first is a member. -/
theorem mem_of_mem_firstAppearances {row : List Value} {v : Value}
    (h : v ∈ firstAppearances row) : v ∈ row := by
  induction row using List.reverseRecOn with
  | nil => cases h
  | append_singleton row w ih =>
    rw [firstAppearances_snoc] at h
    split at h
    · exact List.mem_append_left _ (ih h)
    · exact (List.mem_append.mp h).elim (fun h => List.mem_append_left _ (ih h))
        (List.mem_append_right _)

/-- Every member has an equal that appears first. -/
theorem any_firstAppearances {row : List Value} (v : Value) :
    (∀ w ∈ row, Steady w) → (firstAppearances row).any (· == v) = row.any (· == v) := by
  -- the row is read from the left, so its last member is the newest
  induction row using List.reverseRecOn with
  | nil =>
    intro _
    rfl
  | append_singleton row w ih =>
    intro hsteady
    have ih := ih fun u hu => hsteady u (List.mem_append_left _ hu)
    have hw := hsteady w (List.mem_append_right _ List.mem_cons_self)
    rw [firstAppearances_snoc, List.any_append, ← ih]
    split
    · next hseen =>
      by_cases hv : w == v
      · -- what stands for `w` stands for `v` too
        have hsame : (firstAppearances row).any (· == v) = (firstAppearances row).any (· == w) :=
          List.any_congr rfl fun u => hw.congr hv u
        rw [hsame, hseen, Bool.true_or]
      · have hrest : [w].any (· == v) = false := by
          rw [List.any_cons, List.any_nil, Bool.or_false]
          exact Bool.eq_false_iff.mpr hv
        rw [hrest, Bool.or_false]
    · rw [List.any_append]

/-- No two first appearances are equal. -/
theorem firstAppearances_pairwise {row : List Value} :
    (firstAppearances row).Pairwise fun a b => (a == b) = false := by
  induction row using List.reverseRecOn with
  | nil => exact List.Pairwise.nil
  | append_singleton row w ih =>
    rw [firstAppearances_snoc]
    split
    · exact ih
    · next hnew =>
      refine List.pairwise_append.mpr ⟨ih, List.pairwise_singleton _ _, ?_⟩
      intro a ha b hb
      rw [List.mem_singleton.mp hb]
      rw [List.any_eq_true, not_exists] at hnew
      exact Bool.eq_false_iff.mpr fun h => hnew a ⟨ha, h⟩

/-! ## Groups -/

/-- Variables by their types: a group for each type, in the order of first appearance. -/
def grouped (subs : List Substitution) : OrderedMap Value (List Substitution) :=
  ⟨(firstAppearances (subs.map (·.type))).map fun type =>
    (type, subs.filter (·.type == type))⟩

section Table

variable {ν : Type} {k : Value} {types : List Value}

/-- A table over types is looked up at the type that is equal. -/
theorem find?_table (f : Value → ν) (k : Value) :
    ∀ types : List Value, OrderedMap.find? k (types.map fun type => (type, f type)) =
      (types.find? (· == k)).map f := by
  intro types
  induction types with
  | nil => rfl
  | cons type types ih =>
    rw [List.map_cons, OrderedMap.find?, List.find?_cons, ih]
    cases type == k <;> rfl

/-- A type that is not in a table goes to its end. -/
theorem put_table_of_new (f : Value → ν) (v : ν) (h : types.any (· == k) = false) :
    OrderedMap.put k v (types.map fun type => (type, f type)) =
      (types.map fun type => (type, f type)) ++ [(k, v)] := by
  induction types with
  | nil => rfl
  | cons type types ih =>
    rw [List.any_cons, Bool.or_eq_false_iff] at h
    rw [List.map_cons, OrderedMap.put, if_neg (by rw [h.1]; exact Bool.false_ne_true), ih h.2]
    rfl

/-- A type that is in a table is set at its equal, and nowhere else. -/
theorem put_table_of_old (hk : Steady k) (f : Value → ν) (v : ν)
    (hdistinct : types.Pairwise fun a b => (a == b) = false) (h : types.any (· == k) = true) :
    OrderedMap.put k v (types.map fun type => (type, f type)) =
      types.map fun type => (type, if type == k then v else f type) := by
  induction types with
  | nil => cases h
  | cons type types ih =>
    obtain ⟨hne, hdistinct⟩ := List.pairwise_cons.mp hdistinct
    rw [List.map_cons, List.map_cons, OrderedMap.put]
    by_cases htype : type == k
    · rw [if_pos htype, if_pos htype]
      congr 1
      refine List.map_congr_left fun other hother => ?_
      -- the others differ from an equal of `k`
      have hother : (other == k) = false := by
        rw [hk.symm, ← hk.trans htype]
        exact hne other hother
      rw [hother]
      rfl
    · rw [List.any_cons, Bool.eq_false_iff.mpr htype, Bool.false_or] at h
      rw [if_neg htype, if_neg htype, ih hdistinct h]

end Table

/-- The group of a type grows by a variable of an equal type. -/
theorem filter_snoc {subs : List Substitution} {s : Substitution} (hs : Steady s.type)
    (type : Value) :
    (subs ++ [s]).filter (·.type == type) =
      if type == s.type then subs.filter (·.type == s.type) ++ [s]
      else subs.filter (·.type == type) := by
  rw [List.filter_append, List.filter_cons, List.filter_nil]
  by_cases htype : s.type == type
  · have hsame : subs.filter (·.type == type) = subs.filter (·.type == s.type) :=
      List.filter_congr fun s' _ => hs.congr htype s'.type
    rw [if_pos htype, hs.symm, if_pos htype, hsame]
  · rw [if_neg htype, hs.symm, if_neg htype, List.append_nil]

/-- A variable joins the group of its type. -/
theorem insert_grouped {subs : List Substitution} {s : Substitution}
    (hsubs : ∀ s' ∈ subs, Steady s'.type) (hs : Steady s.type) :
    (grouped subs).insert s.type ((((grouped subs).get? s.type).getD []) ++ [s]) =
      grouped (subs ++ [s]) := by
  have htypes : ∀ w ∈ subs.map (·.type), Steady w := by
    intro w hw
    obtain ⟨s', hs', rfl⟩ := List.mem_map.mp hw
    exact hsubs s' hs'
  have hany := any_firstAppearances s.type htypes
  simp only [grouped, OrderedMap.insert, OrderedMap.get?, find?_table, List.map_append,
    List.map_cons, List.map_nil, firstAppearances_snoc, filter_snoc hs]
  congr 1
  -- the type has a group already, which grows, or it gets the last one
  by_cases hseen : (firstAppearances (subs.map (·.type))).any (· == s.type) = true
  · rw [if_pos hseen]
    rcases hfind : (firstAppearances (subs.map (·.type))).find? (· == s.type) with _ | type
    · obtain ⟨type, hmem, htype⟩ := List.any_eq_true.mp hseen
      exact absurd htype (List.find?_eq_none.mp hfind type hmem)
    · have hfound := List.find?_some hfind
      have htype : (s.type == type) = true := (hs.symm type).symm.trans hfound
      have hgroup : subs.filter (·.type == type) = subs.filter (·.type == s.type) :=
        List.filter_congr fun s' _ => hs.congr htype s'.type
      rw [hfind, Option.map_some, Option.getD_some, hgroup,
        put_table_of_old hs _ _ firstAppearances_pairwise hseen]
  · rw [if_neg hseen]
    rw [Bool.not_eq_true] at hseen
    rw [hseen] at hany
    have hnone : (firstAppearances (subs.map (·.type))).find? (· == s.type) = none :=
      List.find?_eq_none.mpr fun type hmem => List.any_eq_false.mp hseen type hmem
    have hempty : subs.filter (·.type == s.type) = [] := by
      refine List.filter_eq_nil_iff.mpr fun s' hs' => ?_
      exact List.any_eq_false.mp hany.symm s'.type (List.mem_map.mpr ⟨s', hs', rfl⟩)
    rw [hnone, put_table_of_new _ _ hseen, List.map_append, hempty]
    congr 1
    · refine List.map_congr_left fun type hmem => ?_
      rw [if_neg (List.any_eq_false.mp hseen type hmem)]
    · rw [List.map_cons, List.map_nil, if_pos hs.refl]
      rfl

/-! ## The groups of a run -/

/-- The variables of enabled kustomizations that need a provider, in the order of declaration. -/
def needed (cluster : Cluster) (templates : List Template) : List Substitution :=
  (((declared templates).filter fun d => (flag cluster d.1 d.2).truthy).flatMap
    (·.2.substitutions)).filter (!·.isCore)

variable {cluster : Cluster} {templates : List Template} {resolved : List Resolved}

/-- What is enabled among the resolved kustomizations of a template is what its flags say. -/
theorem enabled_of_resolveTemplate {t : Template} {row : List Resolved}
    (h : resolveTemplate cluster t = .ok row) :
    (row.filter (·.enabled.truthy)).map (fun r => (r.template, r.kustomization)) =
      (t.kustomizations.map fun ks => (t, ks)).filter fun d => (flag cluster d.1 d.2).truthy := by
  rw [resolveTemplate] at h
  rcases hsel : cluster.selection? (.str t.name) with _ | s
  · rw [hsel] at h
    cases h
    refine (List.filter_eq_nil_iff.mpr fun d hd => ?_).symm
    obtain ⟨ks, -, rfl⟩ := List.mem_map.mp hd
    rw [flag, hsel]
    exact Bool.false_ne_true
  · rw [hsel] at h
    have hall := mapM_eq_ok_iff.mp h
    clear h
    generalize t.kustomizations = kss at hall ⊢
    induction hall with
    | nil => rfl
    | @cons ks r kss row hres _ ih =>
      obtain ⟨rfl, rfl, henabled, -, -⟩ := resolve_eq_ok hres
      have hflag : r.enabled = flag cluster r.template r.kustomization := by
        rw [flag, hsel, henabled]
      rw [List.map_cons, List.filter_cons, List.filter_cons, ← hflag]
      split
      · rw [List.map_cons, ih]
      · exact ih

/-- The enabled kustomizations are resolved in the order of declaration. -/
theorem enabled_of_resolveAll (h : resolveAll cluster templates = .ok resolved) :
    (resolved.filter (·.enabled.truthy)).map (fun r => (r.template, r.kustomization)) =
      (declared templates).filter fun d => (flag cluster d.1 d.2).truthy := by
  rw [resolveAll_eq] at h
  obtain ⟨rows, hrows, hflat⟩ := bind_eq_ok.mp h
  cases hflat
  have hall := mapM_eq_ok_iff.mp hrows
  clear hrows h
  induction hall with
  | nil => rfl
  | cons hrow _ ih =>
    rw [List.flatten_cons, List.filter_append, List.map_append, ih, enabled_of_resolveTemplate hrow,
      ← List.filter_append]
    rfl

/-- Take a variable into the groups, unless its type is a core one. -/
def join (groups : OrderedMap Value (List Substitution)) (s : Substitution) :
    Except Error (OrderedMap Value (List Substitution)) := do
  let type ← s.type.asKey
  if Substitution.isCoreType type then return groups
  else return groups.insert type (((groups.get? type).getD []) ++ [s])

theorem external_eq (resolved : List Resolved) :
    external resolved = ((resolved.filter (·.enabled.truthy)).flatMap
      (·.kustomization.substitutions)).foldlM join .empty := rfl

/-- Variables that are taken in one after another join the groups of their types. -/
theorem foldlM_join {rest : List Substitution} {groups : OrderedMap Value (List Substitution)} :
    ∀ {seen : List Substitution}, (∀ s ∈ seen, Steady s.type) →
      rest.foldlM join (grouped seen) = .ok groups →
        groups = grouped (seen ++ rest.filter (!·.isCore)) := by
  induction rest with
  | nil =>
    intro seen _ h
    cases h
    rw [List.filter_nil, List.append_nil]
  | cons s rest ih =>
    intro seen hseen h
    rw [List.foldlM_cons] at h
    obtain ⟨groups', hjoin, h⟩ := bind_eq_ok.mp h
    obtain ⟨type, hkey, hjoin⟩ := bind_eq_ok.mp hjoin
    obtain ⟨-, rfl⟩ := Value.key?_isSome_of_asKey hkey
    have hs := Value.steady_of_asKey hkey
    rw [List.filter_cons, Substitution.isCore]
    by_cases hcore : Substitution.isCoreType s.type = true
    · rw [if_pos hcore] at hjoin
      cases hjoin
      rw [hcore, Bool.not_true, if_neg Bool.false_ne_true]
      exact ih hseen h
    · rw [if_neg hcore] at hjoin
      cases hjoin
      rw [insert_grouped hseen hs] at h
      rw [if_pos (by rw [Bool.not_eq_true] at hcore; rw [hcore]; rfl), List.append_cons]
      refine ih (fun s' hs' => ?_) h
      rcases List.mem_append.mp hs' with hold | hnew
      · exact hseen s' hold
      · rw [List.mem_singleton.mp hnew]
        exact hs

/-- Variables are all taken in exactly if their types can be keys. -/
theorem exists_foldlM_join_iff {subs : List Substitution} :
    ∀ {groups : OrderedMap Value (List Substitution)},
      (∃ groups', subs.foldlM join groups = .ok groups') ↔
        ∀ s ∈ subs, s.type.asKey = .ok s.type := by
  induction subs with
  | nil =>
    intro groups
    exact ⟨fun _ => nofun, fun _ => ⟨groups, rfl⟩⟩
  | cons s subs ih =>
    intro groups
    rw [List.foldlM_cons]
    constructor
    · rintro ⟨groups', h⟩ s' hs'
      obtain ⟨groups₁, hjoin, hrest⟩ := bind_eq_ok.mp h
      obtain ⟨type, hkey, -⟩ := bind_eq_ok.mp hjoin
      obtain ⟨-, rfl⟩ := Value.key?_isSome_of_asKey hkey
      rcases List.mem_cons.mp hs' with rfl | hs'
      · exact hkey
      · exact ih.mp ⟨groups', hrest⟩ s' hs'
    · intro h
      obtain ⟨groups₁, hjoin⟩ : ∃ groups₁, join groups s = .ok groups₁ := by
        rw [join, h s List.mem_cons_self]
        by_cases hcore : Substitution.isCoreType s.type = true
        · exact ⟨groups, if_pos hcore⟩
        · exact ⟨_, if_neg hcore⟩
      rw [hjoin]
      exact ih.mpr fun s' hs' => h s' (List.mem_cons_of_mem _ hs')

/-- If one is not taken in, its type cannot be a key. -/
theorem exists_of_foldlM_join_eq_error {subs : List Substitution} {e : Error} :
    ∀ {groups : OrderedMap Value (List Substitution)},
      subs.foldlM join groups = .error e → ∃ s ∈ subs, s.type.asKey = .error e := by
  induction subs with
  | nil =>
    intro groups h
    cases h
  | cons s subs ih =>
    intro groups h
    rw [List.foldlM_cons] at h
    rcases bind_eq_error.mp h with hjoin | ⟨groups₁, -, hrest⟩
    · rcases bind_eq_error.mp hjoin with hkey | ⟨type, -, hgroups⟩
      · exact ⟨s, List.mem_cons_self, hkey⟩
      · split at hgroups <;> cases hgroups
    · obtain ⟨s', hs', he⟩ := ih hrest
      exact ⟨s', List.mem_cons_of_mem _ hs', he⟩

/-- The variables of enabled kustomizations that need a provider, in order. -/
def pending (resolved : List Resolved) : List Substitution :=
  ((resolved.filter (·.enabled.truthy)).flatMap (·.kustomization.substitutions)).filter (!·.isCore)

/-- **Groups.** There is a group for each needed type, in the order of first appearance among
enabled kustomizations, with the needed variables of that type. -/
theorem external_eq_grouped {groups : OrderedMap Value (List Substitution)}
    (h : external resolved = .ok groups) : groups = grouped (pending resolved) := by
  rw [external_eq] at h
  exact foldlM_join (fun s hs => absurd hs List.not_mem_nil) h

/-- Kustomizations have groups exactly if the types of those that are enabled can be keys. -/
theorem exists_external_iff :
    (∃ groups, external resolved = .ok groups) ↔ ∀ r ∈ resolved, r.enabled.truthy = true →
      ∀ s ∈ r.kustomization.substitutions, s.type.asKey = .ok s.type := by
  rw [external_eq, exists_foldlM_join_iff]
  simp only [List.mem_flatMap, List.mem_filter]
  constructor
  · intro h r hr hon s hs
    exact h s ⟨r, ⟨hr, hon⟩, hs⟩
  · rintro h s ⟨r, ⟨hr, hon⟩, hs⟩
    exact h r hr hon s hs

theorem external_of_keyed (h : ∀ r ∈ resolved, r.enabled.truthy = true →
    ∀ s ∈ r.kustomization.substitutions, s.type.asKey = .ok s.type) :
    external resolved = .ok (grouped (pending resolved)) := by
  obtain ⟨groups, hgroups⟩ := exists_external_iff.mpr h
  rw [hgroups, external_eq_grouped hgroups]

/-- What needs a provider among the resolved kustomizations is what the templates declare. -/
theorem pending_of_resolveAll (h : resolveAll cluster templates = .ok resolved) :
    pending resolved = needed cluster templates := by
  rw [pending, needed, ← enabled_of_resolveAll h, List.flatMap_map]

/-- So the groups of a run are those of the needed variables. -/
theorem external_eq_ok {groups : OrderedMap Value (List Substitution)}
    (hresolved : resolveAll cluster templates = .ok resolved)
    (h : external resolved = .ok groups) : groups = grouped (needed cluster templates) := by
  rw [external_eq_grouped h, pending_of_resolveAll hresolved]

end Resolution

end FluxFleet
