import FluxFleet.Proofs.Success
import FluxFleet.Proofs.Value.Key
import FluxFleet.Value.Order
import Mathlib.Data.List.Induction
import Mathlib.Data.List.Sort

/-!
# Texts in order

Texts can be compared with each other, so a row of texts is sorted (`exists_sorted_texts`). Each
text is put behind those that are not greater, which is an ordered insertion.
-/

namespace FluxFleet.Value

/-- Values that are texts are a row of texts. -/
theorem exists_texts {vs : List Value} (h : ∀ v ∈ vs, v.IsText) :
    ∃ names : List String, vs = names.map .str := by
  induction vs with
  | nil => exact ⟨[], rfl⟩
  | cons v vs ih =>
    obtain ⟨s, rfl⟩ := h v List.mem_cons_self
    obtain ⟨names, rfl⟩ := ih fun w hw => h w (List.mem_cons_of_mem _ hw)
    exact ⟨s :: names, rfl⟩

/-- A text is put among texts by their order. -/
theorem insertBy_texts (a : String) (bs : List String) :
    insertBy id (.str a) (bs.map .str) =
      .ok ((bs.orderedInsert (Text.precedes · ·) a).map .str) := by
  induction bs with
  | nil => rfl
  | cons b bs ih =>
    rw [List.map_cons, List.orderedInsert_cons]
    rcases h : Text.precedes a b with _ | _
    · rw [if_neg Bool.false_ne_true]
      simp only [insertBy, id, less?, h, ih]
      rfl
    · rw [if_pos rfl]
      simp only [insertBy, id, less?, h]
      rfl

theorem pairwise_orderedInsert (a : String) {bs : List String}
    (h : bs.Pairwise fun b c => Text.inOrder b c) :
    (bs.orderedInsert (Text.precedes · ·) a).Pairwise fun b c => Text.inOrder b c := by
  induction bs with
  | nil => exact List.pairwise_singleton _ a
  | cons b bs ih =>
    obtain ⟨hb, hbs⟩ := List.pairwise_cons.mp h
    rw [List.orderedInsert_cons]
    split
    · next hab =>
      have hab := Text.inOrder_of_precedes hab
      refine List.pairwise_cons.mpr ⟨List.forall_mem_cons.mpr ⟨hab, fun c hc => ?_⟩, h⟩
      exact Text.inOrder_trans hab (hb c hc)
    · next hab =>
      refine List.pairwise_cons.mpr ⟨fun c hc => ?_, ih hbs⟩
      rcases (List.mem_orderedInsert _).mp hc with rfl | hc
      · rw [Text.inOrder, Bool.not_eq_true', Bool.eq_false_iff]
        exact hab
      · exact hb c hc

/-- Texts are sorted: each is there, in ascending order. -/
theorem exists_sorted_texts (names : List String) :
    ∃ row : List String, sortBy id (names.map .str) = .ok (row.map .str) ∧ row.Perm names ∧
      row.Pairwise fun a b => Text.inOrder a b := by
  -- from the end, where the last text is put among those that are sorted already
  induction names using List.reverseRecOn with
  | nil => exact ⟨[], rfl, .refl _, .nil⟩
  | append_singleton names a ih =>
    obtain ⟨row, hrow, hperm, hsorted⟩ := ih
    refine ⟨row.orderedInsert (Text.precedes · ·) a, ?_, ?_, pairwise_orderedInsert a hsorted⟩
    · rw [sortBy] at hrow ⊢
      rw [List.map_append, List.foldlM_append]
      exact bind_eq_ok.mpr ⟨_, hrow, bind_eq_ok.mpr ⟨_, insertBy_texts a row, rfl⟩⟩
    · have hsnoc : (a :: names).Perm (names ++ [a]) := (List.perm_append_singleton a names).symm
      exact (List.perm_orderedInsert _ a row).trans ((hperm.cons a).trans hsnoc)

end FluxFleet.Value
