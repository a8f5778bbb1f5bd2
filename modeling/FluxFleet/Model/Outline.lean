import FluxFleet.Model.Reference

/-!
# Outlines: documents that keep references apart

A kustomization written down as a document keeps a reference that has been read as a reference, not
as a mapping that happens to look like one. An `Outline` is a document whose leaves are values and
such references.
-/

namespace FluxFleet

/-- A document that may hold references. -/
inductive Outline where
  | value (v : Value)
  | reference (ref : Reference)
  | list (items : List Outline)
  | record (fields : List (String × Outline))
deriving Repr, Inhabited

namespace Outline

instance : Coe Value Outline := ⟨Outline.value⟩

/-- Fields that are values. -/
def ofFields (fields : List (String × Value)) : List (String × Outline) :=
  fields.map fun f => (f.1, .value f.2)

end Outline

end FluxFleet
