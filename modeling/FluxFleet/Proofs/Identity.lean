import FluxFleet.Proofs.Deployment
import FluxFleet.Proofs.Precedence

/-!
# Which kustomizations share an identity

An identity joins the name of a template and the name of a kustomization by a dash, and names may
hold dashes of their own. Two pairs of names are joined to one text only if they are the same pair,
or if the text is cut at two different dashes (`joined_eq_joined_iff`). So the identities of a set
of templates are pairwise different exactly if no template has two names of one text and no two
templates overlap in this way (`identities_nodup_iff`). Then the graph has a node for each
kustomization, and no two manifests of a run have one name.

Where two templates overlap, their kustomizations become one node and two manifests of one name
(`dashes_share_identity`).
-/

namespace FluxFleet

/-! ## Joined names -/

theorem toList_joined (t k : String) : (joined t k).toList = t.toList ++ '-' :: k.toList := by
  rw [joined, String.toList_append, String.toList_append, List.append_assoc]
  rfl

/-- A joined text whose first name goes on in the other reading is cut at a later dash there. -/
theorem eq_joined_of_append {t t' k k' : String} {rest : List Char}
    (ht : t'.toList = t.toList ++ rest) (hk : '-' :: k.toList = rest ++ '-' :: k'.toList) :
    (t = t' ∧ k = k') ∨ ∃ mid, t' = joined t mid ∧ k = joined mid k' := by
  rcases rest with _ | ⟨c, mid⟩
  · left
    rw [List.append_nil] at ht
    exact ⟨String.toList_inj.mp ht.symm, String.toList_inj.mp (List.cons.inj hk).2⟩
  · right
    obtain ⟨rfl, hmid⟩ := List.cons.inj hk
    refine ⟨String.ofList mid, ?_, ?_⟩
    · rw [← String.toList_inj, toList_joined, String.toList_ofList]
      exact ht
    · rw [← String.toList_inj, toList_joined, String.toList_ofList]
      exact hmid

/-- Two pairs of names are joined to one text if they are the same, or if one of the first names is
the other one with a beginning of its second name. -/
theorem joined_eq_joined_iff {t t' k k' : String} :
    joined t k = joined t' k' ↔
      (t = t' ∧ k = k') ∨ (∃ mid, t' = joined t mid ∧ k = joined mid k') ∨
        ∃ mid, t = joined t' mid ∧ k' = joined mid k := by
  constructor
  · intro h
    rw [← String.toList_inj, toList_joined, toList_joined, List.append_eq_append_iff] at h
    rcases h with ⟨rest, ht, hk⟩ | ⟨rest, ht, hk⟩
    · exact (eq_joined_of_append ht hk).imp_right Or.inl
    · rcases eq_joined_of_append ht hk with ⟨rfl, rfl⟩ | hlater
      · exact Or.inl ⟨rfl, rfl⟩
      · exact Or.inr (Or.inr hlater)
  · rintro (⟨rfl, rfl⟩ | ⟨mid, rfl, rfl⟩ | ⟨mid, rfl, rfl⟩)
    · rfl
    all_goals
      rw [← String.toList_inj]
      simp only [toList_joined, List.append_assoc, List.cons_append]

theorem ne_joined_self (t mid : String) : t ≠ joined t mid := by
  intro h
  have hlength := congrArg (fun s => s.toList.length) h
  simp only [toList_joined, List.length_append, List.length_cons] at hlength
  omega

namespace Template

/-- The kustomizations of a template have names of pairwise different texts. -/
def NamesDiffer (t : Template) : Prop := (t.kustomizations.map (·.name.text)).Nodup

/-- The name of the template `t'` is that of `t` with a beginning of the name of one of its
kustomizations, and the rest of that name is a kustomization of `t'`. -/
def Overlaps (t t' : Template) : Prop :=
  ∃ mid, t'.name = joined t.name mid ∧ ∃ ks ∈ t.kustomizations, ∃ ks' ∈ t'.kustomizations,
    ks.name.text = joined mid ks'.name.text

theorem not_overlaps_self (t : Template) : ¬ t.Overlaps t := by
  rintro ⟨mid, hname, -⟩
  exact ne_joined_self _ _ hname

/-- The identities of the kustomizations of a template. -/
def identities (t : Template) : List String := t.kustomizations.map fun ks => ks.identity t.name

theorem mem_identities {t : Template} {id : String} :
    id ∈ t.identities ↔ ∃ ks ∈ t.kustomizations, joined t.name ks.name.text = id := List.mem_map

/-- Within a template identities are told apart by the names. -/
theorem identities_nodup {t : Template} : t.identities.Nodup ↔ t.NamesDiffer := by
  have hjoined : Function.Injective (joined t.name) := by
    intro k k' h
    rcases joined_eq_joined_iff.mp h with ⟨-, hk⟩ | ⟨mid, ht, -⟩ | ⟨mid, ht, -⟩
    · exact hk
    all_goals exact absurd ht (ne_joined_self _ _)
  have hmap : t.identities = (t.kustomizations.map (·.name.text)).map (joined t.name) := by
    rw [List.map_map]
    rfl
  rw [hmap, List.nodup_map_iff hjoined, NamesDiffer]

/-- Templates of different names share an identity exactly if they overlap. -/
theorem disjoint_identities_iff {t t' : Template} (hne : t.name ≠ t'.name) :
    List.Disjoint t.identities t'.identities ↔ ¬ t.Overlaps t' ∧ ¬ t'.Overlaps t := by
  constructor
  · intro hdisjoint
    have hapart : ∀ ks ∈ t.kustomizations, ∀ ks' ∈ t'.kustomizations,
        joined t.name ks.name.text ≠ joined t'.name ks'.name.text := by
      intro ks hks ks' hks' heq
      exact hdisjoint (mem_identities.mpr ⟨ks, hks, rfl⟩)
        (mem_identities.mpr ⟨ks', hks', heq.symm⟩)
    constructor
    · rintro ⟨mid, ht, ks, hks, ks', hks', hk⟩
      exact hapart ks hks ks' hks' (joined_eq_joined_iff.mpr (Or.inr (Or.inl ⟨mid, ht, hk⟩)))
    · rintro ⟨mid, ht, ks', hks', ks, hks, hk⟩
      exact hapart ks hks ks' hks' (joined_eq_joined_iff.mpr (Or.inr (Or.inr ⟨mid, ht, hk⟩)))
  · rintro ⟨hto, hfrom⟩ id hid hid'
    obtain ⟨ks, hks, rfl⟩ := mem_identities.mp hid
    obtain ⟨ks', hks', heq⟩ := mem_identities.mp hid'
    rcases joined_eq_joined_iff.mp heq with ⟨ht, -⟩ | ⟨mid, ht, hk⟩ | ⟨mid, ht, hk⟩
    · exact hne ht.symm
    · exact hfrom ⟨mid, ht, ks', hks', ks, hks, hk⟩
    · exact hto ⟨mid, ht, ks, hks, ks', hks', hk⟩

end Template

namespace Graph

variable {templates : List Template}

theorem identities_eq_flatMap (templates : List Template) :
    identities templates = templates.flatMap Template.identities := by
  rw [identities, declared, List.map_flatMap]
  simp only [List.map_map]
  rfl

/-- Templates of different names have pairwise different identities exactly if each of them tells
its own kustomizations apart and no two of them overlap. -/
theorem nodup_identities_iff (hnames : (templates.map (·.name)).Nodup) :
    (identities templates).Nodup ↔ (∀ t ∈ templates, t.NamesDiffer) ∧
      ∀ t ∈ templates, ∀ t' ∈ templates, ¬ t.Overlaps t' := by
  have hne : templates.Pairwise fun t t' => t.name ≠ t'.name := List.pairwise_map.mp hnames
  rw [identities_eq_flatMap, List.nodup_flatMap]
  refine and_congr (forall₂_congr fun t _ => Template.identities_nodup) ?_
  constructor
  · intro hdisjoint
    have hboth : templates.Pairwise fun t t' => ¬ t.Overlaps t' ∧ ¬ t'.Overlaps t :=
      hdisjoint.imp₂ (fun _ _ hd hn => (Template.disjoint_identities_iff hn).mp hd) hne
    have hsymm : Std.Symm fun t t' : Template => ¬ t.Overlaps t' ∧ ¬ t'.Overlaps t :=
      ⟨fun _ _ h => ⟨h.2, h.1⟩⟩
    intro t ht t' ht'
    exact (hboth.forall_of_forall
      (fun t _ => ⟨t.not_overlaps_self, t.not_overlaps_self⟩) ht ht').1
  · intro hall
    refine List.Pairwise.imp_of_mem (fun ht ht' hn => ?_) hne
    exact (Template.disjoint_identities_iff hn).mpr ⟨hall _ ht _ ht', hall _ ht' _ ht⟩

end Graph

/-! ## Templates that are read from documents -/

namespace Template

/-- Names without a duplicate differ from all names before them. -/
theorem pairwise_of_firstDuplicate? {names : List Value} :
    ∀ {seen : List Value}, firstDuplicate? seen names = .ok none →
      (∀ n ∈ names, ∀ s ∈ seen, (n == s) = false) ∧
        names.Pairwise fun a b => (b == a) = false := by
  induction names with
  | nil =>
    intro seen _
    exact ⟨nofun, List.Pairwise.nil⟩
  | cons name names ih =>
    intro seen h
    rw [firstDuplicate?] at h
    obtain ⟨key, hkey, hrest⟩ := bind_eq_ok.mp h
    obtain ⟨-, rfl⟩ := Value.key?_isSome_of_asKey hkey
    split at hrest
    · cases hrest
    · next hnew =>
      obtain ⟨hseen, hpairwise⟩ := ih hrest
      refine ⟨fun n hn s hs => ?_, List.pairwise_cons.mpr ⟨fun n hn => ?_, hpairwise⟩⟩
      · rcases List.mem_cons.mp hn with rfl | hn
        · exact Bool.eq_false_iff.mpr fun heq => hnew (List.any_eq_true.mpr ⟨s, hs, heq⟩)
        · exact hseen n hn s (List.mem_cons_of_mem _ hs)
      · exact hseen n hn key List.mem_cons_self

/-- In a template that is read from a document names that are texts are different texts. -/
theorem namesDiffer_of_read {t : Template} (h : t.Read)
    (htexts : ∀ ks ∈ t.kustomizations, ∃ s, ks.name = .str s) : t.NamesDiffer := by
  obtain ⟨doc, hdoc⟩ := h
  obtain ⟨docs, -, hduplicate, -⟩ := ofDocument_eq_ok hdoc
  have hpairwise := List.pairwise_map.mp (pairwise_of_firstDuplicate? hduplicate).2
  refine List.pairwise_map.mpr (hpairwise.imp_of_mem fun {a b} ha hb hne heq => ?_)
  obtain ⟨s, hs⟩ := htexts a ha
  obtain ⟨s', hs'⟩ := htexts b hb
  rw [hs, hs', Value.text_str, Value.text_str] at heq
  rw [hs, hs', heq, Value.beq_eq_same, Value.same_str, BEq.rfl] at hne
  cases hne

end Template

/-! ## Nodes and manifests -/

namespace Resolution

variable {cluster : Cluster} {templates : List Template} {resolved : List Resolved}

/-- Of each template all kustomizations are resolved, in order, or none. -/
theorem map_of_resolveTemplate {t : Template} {row : List Resolved}
    (h : resolveTemplate cluster t = .ok row) :
    (row.map fun r => (r.template, r.kustomization)).Sublist
      (t.kustomizations.map fun ks => (t, ks)) := by
  rw [resolveTemplate] at h
  split at h
  · cases h
    exact List.nil_sublist _
  · have hall := mapM_eq_ok_iff.mp h
    clear h
    generalize t.kustomizations = kss at hall ⊢
    induction hall with
    | nil => exact List.Sublist.slnil
    | cons hres _ ih =>
      obtain ⟨rfl, rfl, -, -, -⟩ := resolve_eq_ok hres
      exact ih.cons_cons _

/-- What is resolved is declared, in the order of declaration. -/
theorem map_sublist_declared (h : resolveAll cluster templates = .ok resolved) :
    (resolved.map fun r => (r.template, r.kustomization)).Sublist (Graph.declared templates) := by
  rw [resolveAll_eq] at h
  obtain ⟨rows, hrows, hflat⟩ := bind_eq_ok.mp h
  cases hflat
  have hall := mapM_eq_ok_iff.mp hrows
  clear hrows h
  induction hall with
  | nil => exact List.Sublist.slnil
  | cons hrow _ ih =>
    rw [List.flatten_cons, List.map_append]
    exact (map_of_resolveTemplate hrow).append ih

end Resolution

namespace Generator

variable {η π τ : Type} {plugins : Plugins η π τ} {providers : OrderedMap Value π}
variable {d : GeneratorDefaults} {cluster : Cluster} {templates : List Template}
variable {options : Options} {s : Settings} {resolved : List Resolved} {gen : Generation}

/-- Manifests have the names of what is resolved, in order. -/
theorem manifestNames_sublist (h : build cluster s options resolved = .ok gen) :
    (gen.manifests.map (·.manifest.name)).Sublist (resolved.map (·.name)) := by
  obtain ⟨row, _, _, _, hrow, -, -, -, hgen⟩ := build_eq_ok h
  have hmanifests : gen.manifests = row.filterMap id := by rw [hgen]
  have hall := mapM_eq_ok_iff.mp hrow
  rw [hmanifests]
  clear hmanifests hgen hrow h
  induction hall with
  | nil => exact List.Sublist.slnil
  | @cons r o resolved row hrender _ ih =>
    cases o with
    | none => exact ih.cons _
    | some m =>
      have hcons : (some m :: row).filterMap id = m :: row.filterMap id := rfl
      rw [hcons, List.map_cons, List.map_cons, name_of_render hrender]
      exact ih.cons_cons _

/-- Manifests of a run have identities of declared kustomizations as their names, in order. -/
theorem manifestNames_sublist_identities
    (h : (generate plugins (.withProviders providers) d cluster templates options).2 = .ok gen) :
    (gen.manifests.map (·.manifest.name)).Sublist (Graph.identities templates) := by
  obtain ⟨-, resolved, groups, hresolved, -, hbuild⟩ := generate_eq_ok h
  have hnames := manifestNames_sublist hbuild
  rw [List.map_map] at hnames
  have hsame : ∀ r : Resolved, (Registry.overwrite (Registry.answers plugins providers cluster
      templates groups.entries) r).name = r.name := fun r => by rw [Registry.overwrite_eq]; rfl
  have hmap : (resolved.map fun r => (r.template, r.kustomization)).map
      (fun d => d.2.identity d.1.name) = resolved.map (·.name) := by
    rw [List.map_map]
    rfl
  simp only [Function.comp_def, hsame] at hnames
  rw [← hmap] at hnames
  exact hnames.trans ((Resolution.map_sublist_declared hresolved).map _)

/-- **Identities.** Of templates that are read from documents and have different names, the
identities of all kustomizations are pairwise different exactly if no template has two names of one
text, which texts never are, and no two templates overlap. Then the graph has a node for each
kustomization, and no two manifests of a run have one name. -/
theorem identities_nodup_iff (hnames : (templates.map (·.name)).Nodup)
    (hread : ∀ t ∈ templates, t.Read) :
    ((Graph.identities templates).Nodup ↔ (∀ t ∈ templates, t.NamesDiffer) ∧
      ∀ t ∈ templates, ∀ t' ∈ templates, ¬ t.Overlaps t') ∧
    (∀ t ∈ templates, (∀ ks ∈ t.kustomizations, ∃ s, ks.name = .str s) → t.NamesDiffer) ∧
    ((Graph.build templates).1.keys = Graph.identities templates ↔
      (Graph.identities templates).Nodup) ∧
    ((Graph.identities templates).Nodup → ∀ gen : Generation,
      (generate plugins (.withProviders providers) d cluster templates options).2 = .ok gen →
        (gen.manifests.map (·.manifest.name)).Nodup) := by
  refine ⟨Graph.nodup_identities_iff hnames, fun t ht htexts => ?_,
    Graph.keys_build_eq_identities_iff, fun hids gen hgen => ?_⟩
  · exact Template.namesDiffer_of_read (hread t ht) htexts
  · exact (manifestNames_sublist_identities hgen).nodup hids

/-! ## Names with dashes -/

/-- A template document with nothing but names. -/
def plainDocument (name : String) (kustomizations : List String) : Value :=
  .record [("apiVersion", "kustodian.io/v1"), ("kind", "Template"),
    ("metadata", .record [("name", .str name)]),
    ("spec", .record [("kustomizations", .ofList (kustomizations.map fun k =>
      .record [("name", .str k), ("path", .str ("./" ++ k))]))])]

/-- A template with nothing but names. -/
def plain (name : String) (kustomizations : List String) : Template :=
  { name, kustomizations := kustomizations.map (Kustomization.bare · []), versions := [] }

/-- A cluster that deploys two templates with a common beginning. -/
def mall : Cluster := { name := "mall", selections := [{ name := "shop" }, { name := "shop-web" }] }

/-- A dash alone does no harm: the name of one template may go on where the other one ends. -/
theorem identities_of_mall :
    ([plain "shop" ["web-db", "api"], plain "shop-web" ["api", "db-api"]].map (·.name)).Nodup ∧
    (Graph.identities
      [plain "shop" ["web-db", "api"], plain "shop-web" ["api", "db-api"]]).Nodup ∧
    (Graph.build [plain "shop" ["web-db", "api"], plain "shop-web" ["api", "db-api"]]).1.keys =
      ["shop-web-db", "shop-api", "shop-web-api", "shop-web-db-api"] := by
  have hnames : ([plain "shop" ["web-db", "api"], plain "shop-web" ["api", "db-api"]].map
      (·.name)).Nodup := by decide
  have hread : ∀ t ∈ [plain "shop" ["web-db", "api"], plain "shop-web" ["api", "db-api"]],
      t.Read := by
    intro t ht
    rcases List.mem_pair.mp ht with rfl | rfl
    · exact ⟨plainDocument "shop" ["web-db", "api"], rfl⟩
    · exact ⟨plainDocument "shop-web" ["api", "db-api"], rfl⟩
  have hids : (Graph.identities
      [plain "shop" ["web-db", "api"], plain "shop-web" ["api", "db-api"]]).Nodup := by decide
  obtain ⟨-, -, hkeys, -⟩ := @identities_nodup_iff _ _ _ noPlugins .empty {} mall
    [plain "shop" ["web-db", "api"], plain "shop-web" ["api", "db-api"]] {} hnames hread
  exact ⟨hnames, hids, hkeys.mpr hids⟩

/-- **Two kustomizations of one identity.** The kustomization `web-api` of the template `shop` and
the kustomization `api` of the template `shop-web` are one node of the graph, and a run gives two
manifests of one name and namespace. -/
theorem dashes_share_identity :
    ([plain "shop" ["web-api"], plain "shop-web" ["api"]].map (·.name)).Nodup ∧
    (∀ t ∈ [plain "shop" ["web-api"], plain "shop-web" ["api"]], t.Read) ∧
    (Graph.build [plain "shop" ["web-api"], plain "shop-web" ["api"]]).1.keys =
      ["shop-web-api"] ∧
    ∃ gen, (generate noPlugins .new {} mall
        [plain "shop" ["web-api"], plain "shop-web" ["api"]] {}).2 = .ok gen ∧
      gen.manifests.map (fun m => (m.template, m.manifest.name, m.manifest.systemNamespace)) =
        [("shop", "shop-web-api", .str "flux-system"),
          ("shop-web", "shop-web-api", .str "flux-system")] := by
  refine ⟨by decide, fun t ht => ?_, by decide, _, rfl, rfl⟩
  rcases List.mem_pair.mp ht with rfl | rfl
  · exact ⟨plainDocument "shop" ["web-api"], rfl⟩
  · exact ⟨plainDocument "shop-web" ["api"], rfl⟩

end Generator

end FluxFleet
