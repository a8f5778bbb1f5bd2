import FluxFleet.Value.Text

/-!
# Texts of values

A value that counts as given has a text (`text_ne_empty`). So a name that must be given is never
empty when it is put into another text.
-/

namespace FluxFleet

namespace Double

/-- A decimal with a point or an exponent has a text. -/
theorem Decimal.render_ne_empty (d : Decimal) : d.render plainStyle ≠ "" := by
  have hcons : ∀ (c : Char) (before after : List Char),
      String.ofList (before ++ c :: after) ≠ "" := by
    intro c before after h
    have hlist := congrArg String.toList h
    rw [String.toList_ofList] at hlist
    exact List.append_ne_nil_of_right_ne_nil _ (List.cons_ne_nil _ _) hlist
  rw [Decimal.render]
  dsimp only
  split
  · split
    · exact hcons '0' [] _
    · split
      · exact hcons '.' _ ['0']
      · exact hcons '.' _ _
  · simp

theorem text_ne_empty (x : Double) : x.text ≠ "" := by
  rcases hparts : x.parts with _ | negative | ⟨negative, m, e⟩
  · simp [text, render, hparts, plainStyle]
  · simp [text, render, hparts, plainStyle]
  · have hrest : (if m = 0 then "0.0" else (shortest m e).render plainStyle) ≠ "" := by
      split
      · decide
      · exact Decimal.render_ne_empty _
    have htext : x.text = (if negative then "-" else "") ++
        (if m = 0 then "0.0" else (shortest m e).render plainStyle) := by
      simp only [text, render, hparts]
      split <;> rfl
    rw [htext, Ne, String.append_eq_empty_iff, not_and]
    exact fun _ => hrest

end Double

namespace Value

theorem tupleText_ne_empty (texts : List String) : tupleText texts ≠ "" := by
  rw [tupleText.eq_def]
  split <;> simp

theorem setText_ne_empty (texts : List String) : setText texts ≠ "" := by
  rw [setText.eq_def]
  split <;> simp

theorem text_int_ne_empty (i : Int) : (int i).text ≠ "" := by
  have hrepr : ∀ n : Nat, n.repr ≠ "" := by
    intro n h
    rw [Nat.repr_eq_ofList_toDigits] at h
    have hlist := congrArg String.toList h
    rw [String.toList_ofList] at hlist
    exact Nat.toDigits_ne_nil hlist
  change i.repr ≠ ""
  rw [Int.repr_eq_if]
  split
  · exact hrepr _
  · simp

/-- A value that counts as given has a text. -/
theorem text_ne_empty {v : Value} (h : v.truthy = true) : v.text ≠ "" := by
  cases v with
  | null => cases h
  | bool b => cases b <;> simp [text, literal, shown]
  | int i => exact text_int_ne_empty i
  | float x => exact x.text_ne_empty
  | str s => simpa [truthy] using h
  | bytes bs => simp [text, literal, shown, bytesText]
  | date m d => simp [text, Date.iso, toString]
  | moment m t => simp [text, Moment.iso, Date.iso, toString]
  | list m items => cases m <;> simp [text, literal, shown, Around.find?]
  | tuple m items => cases m <;> simp [text, literal, shown, Around.find?, tupleText_ne_empty]
  | set m items => exact setText_ne_empty _
  | dict m entries => cases m <;> simp [text, literal, shown, Around.find?]
  | again n => simp [text, literal, shown]

end Value

end FluxFleet
