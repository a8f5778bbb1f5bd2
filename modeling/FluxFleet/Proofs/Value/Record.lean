import FluxFleet.Proofs.Value.Part

/-!
# Fields of a record

A record is a mapping that is written with its fields in a row. What is read from it is found in the
row (`part_record`); an optional field that is left out is absent, as its value was
(`getD_find?_optional`).
-/

namespace FluxFleet.Value

theorem find?_fields (key : String) (fields : List (String × Value)) :
    OrderedMap.find? (Value.str key) (fields.map fun f => (Value.str f.1, f.2)) =
      (fields.find? (·.1 == key)).map (·.2) := by
  induction fields with
  | nil => rfl
  | cons f fields ih =>
    rw [List.map_cons, OrderedMap.find?, List.find?_cons, ih, beq_eq_same, same_str]
    cases f.1 == key <;> rfl

theorem part_record (fields : List (String × Value)) (key : String) :
    (record fields).part key = ((fields.find? (·.1 == key)).map (·.2)).getD .null := by
  rw [← find?_fields]
  rfl

theorem field_record (fields : List (String × Value)) (key : String) :
    (record fields).field key = pure (((fields.find? (·.1 == key)).map (·.2)).getD .null) := by
  rw [← part_record]
  exact field_of_isDict rfl key

/-! ## Optional fields -/

variable {key key' : String}

theorem find?_optional (h : key ≠ key') (v : Value) :
    (optional key v).find? (·.1 == key') = none := by
  rw [optional]
  split
  · rfl
  · rw [List.find?_singleton, if_neg (by simpa using h)]

theorem getD_find?_optional (key : String) (v : Value) :
    (((optional key v).find? (·.1 == key)).map (·.2)).getD .null = v := by
  rw [optional]
  split
  · next h =>
    cases v with
    | null => rfl
    | _ => cases h
  · rw [List.find?_singleton, if_pos BEq.rfl]
    rfl

theorem find?_optionalString (h : key ≠ key') (s : Option String) :
    (optionalString key s).find? (·.1 == key') = none := by
  cases s with
  | none => rfl
  | some s => rw [optionalString, List.find?_singleton, if_neg (by simpa using h)]

theorem getD_find?_optionalString (key : String) (s : Option String) :
    (((optionalString key s).find? (·.1 == key)).map (·.2)).getD .null =
      (s.map Value.str).getD .null := by
  cases s with
  | none => rfl
  | some s =>
    rw [optionalString, List.find?_singleton, if_pos BEq.rfl]
    rfl

end FluxFleet.Value
