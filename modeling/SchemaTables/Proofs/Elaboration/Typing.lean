/-
  SchemaTables.Proofs.Elaboration.Typing
  ──────────────────────────────────────
  **A SCHEMA FROM DOCUMENTS IS WELL TYPED.**

  What consumers of a schema rely on.  A field has no association just where
  its type is primitive; otherwise its type is an entity of the schema, and
  the kind of the association says whether the field is a list.

  An entity is declared by an object type that is no extension and no root
  (`DeclaresType`).  A scalar, an enumeration, an interface, a union or an
  input type declares none, nor does a type that some document names as a
  root, however its fields look.
-/
import SchemaTables.Proofs.Elaboration.Fields
import SchemaTables.Proofs.Elaboration.Gathering

namespace SchemaTables.Elaboration

open Sdl

/-! ## §1. Entities. -/

/-- The documents have an object type of this name that declares an entity. -/
def DeclaresType (docs : List Document) (name : String) : Prop :=
  ¬ IsRoot docs name ∧ ∃ d ∈ docs, ∃ o : ObjectType,
    .object o ∈ d.definitions ∧ o.isExtension = false ∧ o.name = name

theorem mem_objectsFrom {o : Placed ObjectType} :
    ∀ {docs : List Document} {n : Nat}, o ∈ objectsFrom n docs →
      ∃ d ∈ docs, .object o.value ∈ d.definitions
  | d :: rest, n, h => by
      unfold objectsFrom at h
      rcases List.mem_append.mp h with hd | hrest
      · obtain ⟨o', ho', rfl⟩ := List.mem_map.mp hd
        unfold Document.objects at ho'
        rw [List.mem_filterMap] at ho'
        obtain ⟨definition, hdef, heq⟩ := ho'
        split at heq
        · cases heq
          exact ⟨d, List.mem_cons_self, hdef⟩
        · cases heq
      · obtain ⟨d', hd', hdef⟩ := mem_objectsFrom hrest
        exact ⟨d', List.mem_cons_of_mem _ hd', hdef⟩

theorem declaresType_of_mem {docs : List Document} {o : Placed ObjectType}
    (h : o ∈ baseTypes docs) : DeclaresType docs o.value.name := by
  unfold baseTypes at h
  rw [List.mem_filter, decide_eq_true_eq] at h
  obtain ⟨hmem, hroot, hbase⟩ := h
  obtain ⟨d, hd, hdef⟩ := mem_objectsFrom hmem
  exact ⟨hroot, d, hd, o.value, hdef, hbase, rfl⟩

section Typing

variable {options : Options} {docs : List Document} {s : Schema}
  {names : List String}

/-! ## §2. Fields. -/

/-- Each field of an entity is made of one of its declaration. -/
theorem elaborateFields_mem {d : Declaration} :
    ∀ {fs : List (Placed FieldDefinition)} {fields : List Field},
      (elaborateFields options names d fs).result = .ok fields →
      ∀ field ∈ fields, ∃ f ∈ fs,
        (elaborateField options names (d.site f) f.value).result = .ok field
  | [], fields, h, field, hfield => by
      cases h
      cases hfield
  | f :: rest, fields, h, field, hfield => by
      unfold elaborateFields at h
      rw [Report.result_bind_eq_ok] at h
      obtain ⟨first, hfirst, h⟩ := h
      rw [Report.result_bind_eq_ok] at h
      obtain ⟨others, hothers, h⟩ := h
      cases h
      rcases List.mem_cons.mp hfield with rfl | hmem
      · exact ⟨f, List.mem_cons_self, hfirst⟩
      · obtain ⟨g, hg, hmade⟩ := elaborateFields_mem hothers field hmem
        exact ⟨g, List.mem_cons_of_mem _ hg, hmade⟩

/-- A field that is made is typed among the entities. -/
theorem typed_of_elaborateField {site : FieldSite} {f : FieldDefinition}
    {field : Field}
    (h : (elaborateField options names site f).result = .ok field) :
    (field.association = none ↔ ∃ p : Primitive, field.baseType = p.name) ∧
      ∀ kind, field.association = some kind →
        field.baseType ∈ names ∧ kind.isMany = field.isList := by
  obtain ⟨rfl, htyped⟩ := elaborateField_eq_ok h
  have hassociation : (fieldOf options f).association =
      if Primitive.isName f.type.base then none
      else associationOf options f := rfl
  rw [hassociation, ← Primitive.isName_iff]
  show (_ ↔ Primitive.isName f.type.base = true) ∧ _
  by_cases hprimitive : Primitive.isName f.type.base = true
  · -- a mark on a primitive field is dropped
    rw [if_pos hprimitive]
    refine ⟨iff_of_true rfl hprimitive, ?_⟩
    intro kind hkind
    cases hkind
  · rw [if_neg hprimitive]
    rcases htyped with hname | ⟨kind, hkind, hmany, hmem⟩
    · exact absurd hname hprimitive
    · rw [hkind]
      refine ⟨iff_of_false (by simp) hprimitive, ?_⟩
      intro kind' heq
      cases heq
      exact ⟨hmem, hmany⟩

/-! ## §3. The schema. -/

/-- An entity of the schema is made of a declaration, and every declaration
is made into one. -/
theorem exists_declarations
    (h : (elaborate options docs).result = .ok s) :
    ∃ ds, gather docs = .ok ds ∧
      (∀ e ∈ s.toList, ∃ d ∈ ds,
        MadeOf options (ds.map Declaration.name) d e) ∧
      ∀ n ∈ ds.map Declaration.name, ∃ e ∈ s.toList, e.name = n := by
  have hkeyed := wellKeyed_of_elaborate h
  obtain ⟨ds, es, hds, hes, rfl⟩ := elaborate_eq_ok h
  have hmade := elaborateAll_eq_ok hes
  refine ⟨ds, hds, ?_, ?_⟩
  · -- putting entities into a map makes none that was not there
    intro e he
    have hmem := OrderedMap.mem_of_mem_values_ofList he
    rw [List.map_map] at hmem
    obtain ⟨e', he', rfl⟩ := List.mem_map.mp hmem
    exact exists_left_of_forall₂ hmade e' he'
  · -- a later entity may take the place, but under the same name
    intro n hn
    obtain ⟨d, hd, rfl⟩ := List.mem_map.mp hn
    obtain ⟨e, he, fields, rfl, -⟩ := exists_right_of_forall₂ hmade d hd
    have hkey : d.name ∈ (es.map fun e => (e.name, e)).map Prod.fst := by
      rw [List.map_map]
      exact List.mem_map.mpr ⟨_, he, rfl⟩
    obtain ⟨e', hget⟩ := OrderedMap.exists_get?_ofList hkey
    exact ⟨e', Schema.mem_toList hget, hkeyed.entity _ _ hget⟩

theorem wellTyped_of_elaborate
    (h : (elaborate options docs).result = .ok s) : s.WellTyped := by
  obtain ⟨ds, -, hmade, hnames⟩ := exists_declarations h
  have hfield : ∀ e ∈ s.toList, ∀ f ∈ e.fields.values,
      (f.association = none ↔ ∃ p : Primitive, f.baseType = p.name) ∧
        ∀ kind, f.association = some kind →
          f.baseType ∈ ds.map Declaration.name ∧
            kind.isMany = f.isList := by
    intro e he f hf
    obtain ⟨d, -, fields, rfl, hfields⟩ := hmade e he
    have hmem := OrderedMap.mem_of_mem_values_ofList hf
    rw [List.map_map] at hmem
    obtain ⟨f', hf', rfl⟩ := List.mem_map.mp hmem
    obtain ⟨g, -, hg⟩ := elaborateFields_mem hfields f' hf'
    exact typed_of_elaborateField hg
  refine ⟨?_, ?_, ?_⟩
  · intro e he f hf
    exact (hfield e he f hf).1
  · intro e he f hf kind hkind
    exact hnames _ ((hfield e he f hf).2 kind hkind).1
  · intro e he f hf kind hkind
    exact ((hfield e he f hf).2 kind hkind).2

/-- Every entity is declared by an object type of its name. -/
theorem entity_declared (h : (elaborate options docs).result = .ok s) :
    ∀ e ∈ s.toList, DeclaresType docs e.name := by
  intro e he
  obtain ⟨ds, hds, hmade, -⟩ := exists_declarations h
  obtain ⟨d, hd, fields, rfl, -⟩ := hmade e he
  obtain ⟨o, ho, hdeclares⟩ :=
    exists_left_of_forall₂ (gather_eq_ok hds) d hd
  show DeclaresType docs d.name
  rw [hdeclares.name]
  exact declaresType_of_mem ho

/-- In a schema from documents everything stands under its own name, fields
are typed, and what an association leads to is declared as an entity. -/
theorem elaborate_typed (h : (elaborate options docs).result = .ok s) :
    s.WellKeyed ∧ s.WellTyped ∧
      ∀ e ∈ s.toList, DeclaresType docs e.name ∧
        ∀ f ∈ e.fields.values, f.association.isSome = true →
          DeclaresType docs f.baseType := by
  have htyped := wellTyped_of_elaborate h
  refine ⟨wellKeyed_of_elaborate h, htyped, ?_⟩
  intro e he
  refine ⟨entity_declared h e he, ?_⟩
  intro f hf hsome
  obtain ⟨kind, hkind⟩ := Option.isSome_iff_exists.mp hsome
  obtain ⟨t, ht, hname⟩ := htyped.target e he f hf kind hkind
  rw [← hname]
  exact entity_declared h t ht

end Typing

/-- Persons with a name and friends.  They are extended before they are
declared; what they are looked up by is no entity. -/
def people : List Document :=
  [ { definitions :=
        [ .schema {
            position := .start
            isExtension := false
            query := some "Lookup"
            mutation := none
            subscription := none },
          .object {
            position := .start
            isExtension := true
            name := "Person"
            directives := []
            fields :=
              [ { position := .start
                  description := none
                  name := "friends"
                  type := .list (.named "Person" true) true
                  directives := [⟨"hasMany", []⟩] } ] } ] },
    { definitions :=
        [ .object {
            position := .start
            isExtension := false
            name := "Lookup"
            directives := []
            fields := [] },
          .object {
            position := .start
            isExtension := false
            name := "Person"
            directives := []
            fields :=
              [ { position := .start
                  description := none
                  name := "name"
                  type := .named "String" false
                  directives := [] } ] } ] } ]

/-- The one entity has its own field before the one that was added. -/
theorem elaborate_typed_people :
    ∃ s, (elaborate {} people).result = .ok s ∧
      (s.toList.flatMap fun e => e.fields.values.map fun f =>
        (e.name, f.name, f.association)) =
        [("Person", "name", none), ("Person", "friends", some .hasMany)] ∧
      s.WellKeyed ∧ s.WellTyped ∧
      ∀ e ∈ s.toList, DeclaresType people e.name ∧
        ∀ f ∈ e.fields.values, f.association.isSome = true →
          DeclaresType people f.baseType := by
  have hrun : (elaborate {} people).result.toOption.map (fun s =>
      s.toList.flatMap fun e => e.fields.values.map fun f =>
        (e.name, f.name, f.association)) =
      some [("Person", "name", none),
        ("Person", "friends", some .hasMany)] := by
    decide +kernel
  obtain ⟨s, hs, hfields⟩ := Option.map_eq_some_iff.mp hrun
  rw [toOption_eq_some] at hs
  exact ⟨s, hs, hfields, elaborate_typed hs⟩

end SchemaTables.Elaboration
