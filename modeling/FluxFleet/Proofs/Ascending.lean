import FluxFleet.Text.CodePoint
import Mathlib.Data.List.Nodup
import Mathlib.Data.List.Sort

/-!
# Texts in ascending order

What is sorted by texts has them in order (`pairwise_mergeSort_inOrder`), and each of them once if
they are all different (`pairwise_mergeSort_precedes`). It is the same as what comes of inserting
one after another (`mergeSort_eq_insertionSort`), which can be evaluated.
-/

namespace FluxFleet

variable {α : Type} (key : α → String)

theorem pairwise_mergeSort_inOrder (xs : List α) :
    (xs.mergeSort fun a b => Text.inOrder (key a) (key b)).Pairwise fun a b =>
      Text.inOrder (key a) (key b) := by
  refine List.pairwise_mergeSort (fun a b c hab hbc => ?_) (fun a b => ?_) xs
  · exact Text.inOrder_trans hab hbc
  · rw [Bool.or_eq_true]
    exact Text.inOrder_total _ _

theorem pairwise_mergeSort_precedes {xs : List α} (h : (xs.map key).Nodup) :
    ((xs.mergeSort fun a b => Text.inOrder (key a) (key b)).map key).Pairwise fun s t =>
      Text.precedes s t := by
  have hne : (xs.mergeSort fun a b => Text.inOrder (key a) (key b)).Pairwise fun a b =>
      key a ≠ key b :=
    List.pairwise_map.mp (((List.mergeSort_perm xs _).map key).nodup_iff.mpr h)
  rw [List.pairwise_map]
  exact ((pairwise_mergeSort_inOrder key xs).and hne).imp fun hab =>
    Text.precedes_of_ne hab.1 hab.2

/-- Merging and inserting both leave elements of the same text as they stand, so they sort alike. -/
theorem mergeSort_eq_insertionSort (xs : List α) :
    (xs.mergeSort fun a b => Text.inOrder (key a) (key b)) =
      xs.insertionSort fun a b => Text.inOrder (key a) (key b) = true := by
  induction xs with
  | nil => exact List.mergeSort_nil
  | cons x xs ih =>
    obtain ⟨before, after, hcons, hrest, hbefore⟩ := @List.mergeSort_cons _
      (fun a b => Text.inOrder (key a) (key b)) (fun a b c => Text.inOrder_trans)
      (fun a b => by rw [Bool.or_eq_true]; exact Text.inOrder_total _ _) x xs
    have hsorted := pairwise_mergeSort_inOrder key (x :: xs)
    rw [hcons] at hsorted ⊢
    have hafter : ∀ y ∈ after, Text.inOrder (key x) (key y) = true :=
      (List.pairwise_cons.mp (List.pairwise_append.mp hsorted).2.1).1
    have hskip : ∀ y ∈ before, decide (¬ Text.inOrder (key x) (key y) = true) = true := by
      intro y hy
      simpa using hbefore y hy
    rw [List.insertionSort_cons, ← ih, hrest, List.orderedInsert_eq_take_drop,
      List.takeWhile_append_of_pos hskip, List.dropWhile_append_of_pos hskip]
    cases after with
    | nil => simp
    | cons y after => simp [hafter y List.mem_cons_self]

theorem mergeSort_inOrder (texts : List String) :
    texts.mergeSort Text.inOrder = texts.insertionSort fun s t => Text.inOrder s t = true :=
  mergeSort_eq_insertionSort id texts

end FluxFleet
