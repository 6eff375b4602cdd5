/-
  SchemaTables.Proofs.Elaboration.TypeLayers
  ──────────────────────────────────────────
  **WHERE A MODIFIER STANDS DOES NOT MATTER.**

  A type is a name with lists around it, and each of these layers, that of
  the name included, may forbid null or not.  Every type is made of a name
  and the flags of its layers (`TypeRef.exists_ofLayers`), and of these only
  the following is kept (`fieldType_of_layers`):

      the name
      is there a list at all
      does any layer forbid null

  With 32 lists and more a type is refused, whatever its flags.
-/
import SchemaTables.Proofs.Elaboration.Fields

namespace SchemaTables

/-! ## §1. Types made of their layers. -/

namespace Sdl.TypeRef

/-- The type of this name with a list around it for each flag of `outer`, the
outermost first.  A flag says whether its layer may be null; `inner` is that
of the name. -/
def ofLayers (name : String) (inner : Bool) : List Bool → TypeRef
  | [] => .named name inner
  | nullable :: outer => .list (ofLayers name inner outer) nullable

section Layers

variable (name : String) (inner : Bool) (outer : List Bool)

@[simp] theorem base_ofLayers : (ofLayers name inner outer).base = name := by
  induction outer with
  | nil => rfl
  | cons nullable outer ih => exact ih

@[simp] theorem lists_ofLayers :
    (ofLayers name inner outer).lists = outer.length := by
  induction outer with
  | nil => rfl
  | cons nullable outer ih =>
      rw [ofLayers, lists, ih, List.length_cons]

/-- The outermost flag counts as much as the innermost. -/
@[simp] theorem required_ofLayers :
    (ofLayers name inner outer).required =
      decide (false ∈ inner :: outer) := by
  induction outer with
  | nil => cases inner <;> rfl
  | cons nullable outer ih =>
      rw [ofLayers, required, ih]
      cases inner <;> cases nullable <;> simp

end Layers

/-- Every type is made of its layers. -/
theorem exists_ofLayers (t : TypeRef) :
    ∃ name inner outer, t = ofLayers name inner outer := by
  induction t with
  | named name nullable => exact ⟨name, nullable, [], rfl⟩
  | list item nullable ih =>
      obtain ⟨name, inner, outer, rfl⟩ := ih
      exact ⟨name, inner, nullable :: outer, rfl⟩

end Sdl.TypeRef

/-! ## §2. What is kept of the layers. -/

namespace Elaboration

open Sdl

section Flat

variable {options : Options} {entities : List String} {site : FieldSite}
  {f : FieldDefinition} {t t' : TypeRef}

/-- A field is refused for the depth of its type if and only if there are 32
lists or more, and the error tells this limit. -/
theorem elaborateField_tooDeep {limit : Nat} :
    (elaborateField options entities site f).result
        = .error (.nestingTooDeep site limit) ↔
      32 ≤ f.type.lists ∧ limit = 32 := by
  rw [elaborateField_eq_error]
  constructor
  · intro h
    rcases h with ⟨hdeep, heq⟩ | ⟨-, hmarked⟩ | ⟨-, hrefused⟩
    · cases heq
      exact ⟨hdeep, rfl⟩
    · -- what is wrong with directives is no matter of depth
      obtain ⟨_, _, _, _, -, -, -, heq⟩ := markedAssociation_eq_error.mp hmarked
      cases heq
    · rcases hrefused with ⟨-, heq⟩ | ⟨kind, -, ⟨-, -, heq⟩ | ⟨-, -, heq⟩ |
        ⟨-, -, heq⟩⟩ <;> cases heq
  · intro h
    exact .inl ⟨h.1, by rw [h.2]⟩

/-- Two types are the same for a field if both are too deep, or if neither is
and they agree in their name and in their two flags. -/
theorem FieldType.of?_eq_iff :
    FieldType.of? t = FieldType.of? t' ↔
      (32 ≤ t.lists ∧ 32 ≤ t'.lists) ∨
        (t.lists < 32 ∧ t'.lists < 32 ∧ t.base = t'.base ∧
          (0 < t.lists ↔ 0 < t'.lists) ∧ t.required = t'.required) := by
  rw [FieldType.of?_eq, FieldType.of?_eq]
  by_cases h : t.lists < 32
  · have hdeep : ¬ 32 ≤ t.lists := Nat.not_le.mpr h
    by_cases h' : t'.lists < 32
    · simp [h, h', hdeep, and_comm]
    · simp [h, h', hdeep]
  · have hdeep : 32 ≤ t.lists := Nat.not_lt.mp h
    by_cases h' : t'.lists < 32
    · simp [h, h', Nat.not_le.mpr h']
    · simp [h, h', hdeep, Nat.not_lt.mp h']

end Flat

/-- A type of fewer than 32 lists counts by its name, by whether it has a
list and by whether any layer forbids null; one of 32 and more is refused with
this limit.  So two types that are not refused are the same for a field
wherever in them the modifiers stand. -/
theorem fieldType_of_layers (name : String) (inner : Bool)
    (outer : List Bool) :
    FieldType.of? (.ofLayers name inner outer) =
        (if outer.length < 32 then
          some ⟨name, decide (false ∈ inner :: outer),
            decide (0 < outer.length)⟩
        else none) ∧
      (∀ (options : Options) (entities : List String) (site : FieldSite)
          (f : FieldDefinition) (limit : Nat),
        (elaborateField options entities site
            { f with type := .ofLayers name inner outer }).result
            = .error (.nestingTooDeep site limit) ↔
          32 ≤ outer.length ∧ limit = 32) ∧
      ∀ (name' : String) (inner' : Bool) (outer' : List Bool),
        FieldType.of? (.ofLayers name inner outer)
            = FieldType.of? (.ofLayers name' inner' outer') ↔
          (32 ≤ outer.length ∧ 32 ≤ outer'.length) ∨
            (outer.length < 32 ∧ outer'.length < 32 ∧ name = name' ∧
              (0 < outer.length ↔ 0 < outer'.length) ∧
              (false ∈ inner :: outer ↔ false ∈ inner' :: outer')) := by
  refine ⟨?_, ?_, ?_⟩
  · rw [FieldType.of?_eq, TypeRef.lists_ofLayers, TypeRef.base_ofLayers,
      TypeRef.required_ofLayers]
  · intro options entities site f limit
    rw [elaborateField_tooDeep, TypeRef.lists_ofLayers]
  · intro name' inner' outer'
    rw [FieldType.of?_eq_iff]
    simp only [TypeRef.lists_ofLayers, TypeRef.base_ofLayers,
      TypeRef.required_ofLayers, decide_eq_decide]

/-- With 31 lists a type is kept, and one mark that forbids null is enough. -/
example : FieldType.of? (.ofLayers "ID" false (List.replicate 31 true)) =
    some ⟨"ID", true, true⟩ := by
  decide

end Elaboration

end SchemaTables
