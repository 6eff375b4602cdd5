/-
  SchemaTables.Proofs.Elaboration.Fallback
  ────────────────────────────────────────
  **WHAT DESCRIPTIONS CAN CHANGE.**

  A keyword in a description counts only where no directive marks the field,
  and is of use only where the type is no primitive.  Such a field is
  `Unmarked`; on all other fields the two ways of reading documents agree, in
  what they make (`fieldOf_eq`) and in what they find wrong (`Fault.of_options`).

  An unmarked field is refused where descriptions do not count, and for the
  lack of an association, as long as nothing else is wrong with it.  So the
  two ways differ in this only, and at the first unmarked field
  (`elaborate_fallback`).
-/
import SchemaTables.Proofs.Elaboration.Refusal

namespace SchemaTables.Elaboration

open Sdl

/-! ## §1. Unmarked fields. -/

/-- The type of the field is no primitive, and no directive marks it. -/
structure Unmarked (f : FieldDefinition) : Prop where
  entity : ∀ p : Primitive, f.type.base ≠ p.name
  bare : ∀ d ∈ f.directives, ∀ kind : Association, d.name ≠ kind.keyword

/-- Descriptions count. -/
def withDescriptions : Options where
  descriptionFallback := true

/-- Descriptions do not count. -/
def withoutDescriptions : Options where
  descriptionFallback := false

/-- The fields of all entities, each with the name of its entity, in order. -/
def entityFields (docs : List Document) :
    List (String × Placed FieldDefinition) :=
  (baseTypes docs).flatMap fun o =>
    (mergedFields (extensions docs) o).map fun f => (o.value.name, f)

theorem ofKeyword?_eq_none {word : String} :
    Association.ofKeyword? word = none ↔
      ∀ kind : Association, word ≠ kind.keyword := by
  constructor
  · intro h kind hword
    rw [hword, Association.ofKeyword?_keyword] at h
    cases h
  · intro h
    unfold Association.ofKeyword?
    rw [List.find?_eq_none]
    intro kind _ hkeyword
    rw [decide_eq_true_eq] at hkeyword
    exact h kind hkeyword.symm

theorem markers_eq_nil {directives : List Directive} :
    markers directives = [] ↔
      ∀ d ∈ directives, ∀ kind : Association, d.name ≠ kind.keyword := by
  unfold markers
  rw [List.filterMap_eq_nil_iff]
  simp only [ofKeyword?_eq_none]

section Fields

variable {o o' : Options} {docs : List Document} {f : FieldDefinition}

/-- What marks a field counts in any case. -/
theorem associationOf_eq (h : ¬ Unmarked f)
    (hentity : ∀ p : Primitive, f.type.base ≠ p.name) :
    associationOf o f = associationOf o' f := by
  unfold associationOf
  cases hmarkers : markers f.directives with
  | nil => exact absurd ⟨hentity, markers_eq_nil.mp hmarkers⟩ h
  | cons kind rest => rfl

theorem associationOf_of_unmarked (h : Unmarked f) :
    associationOf withoutDescriptions f = none := by
  unfold associationOf
  rw [markers_eq_nil.mpr h.bare]
  rfl

theorem fieldOf_eq (h : ¬ Unmarked f) : fieldOf o f = fieldOf o' f := by
  unfold fieldOf
  by_cases hprimitive : Primitive.isName f.type.base = true
  · rw [if_pos hprimitive, if_pos hprimitive]
  · rw [Primitive.isName_iff, not_exists] at hprimitive
    rw [associationOf_eq h hprimitive]

/-! ## §2. Faults. -/

/-- What is wrong with anything but an unmarked field does not depend on
whether descriptions count. -/
theorem Fault.of_options {c : Check} {x : ElaborationError}
    (hc : ∀ entity f, c = .field entity f → ¬ Unmarked f.value)
    (h : Fault o docs c x) : Fault o' docs c x := by
  have hassociation : ∀ {entity : String} {f : Placed FieldDefinition},
      c = .field entity f → NeedsAssociation f.value →
        associationOf o f.value = associationOf o' f.value :=
    fun heq hneeds => associationOf_eq (hc _ _ heq) hneeds.entity
  cases h with
  | duplicateType htaken => exact .duplicateType htaken
  | nameless hnew hsplit hfirst hd hnone =>
      exact .nameless hnew hsplit hfirst hd hnone
  | pluralOnExtension hplural => exact .pluralOnExtension hplural
  | extendsUnknownType hnone hunknown =>
      exact .extendsUnknownType hnone hunknown
  | duplicateField htaken => exact .duplicateField htaken
  | nestingTooDeep hdeep => exact .nestingTooDeep hdeep
  | conflictingMarkers hshallow hsplit hsame hother =>
      exact .conflictingMarkers hshallow hsplit hsame hother
  | missingAssociation hneeds hnone =>
      exact .missingAssociation hneeds (hassociation rfl hneeds ▸ hnone)
  | listOfOne hneeds hkind hlist hone =>
      exact .listOfOne hneeds (hassociation rfl hneeds ▸ hkind) hlist hone
  | scalarOfMany hneeds hkind hscalar hmany =>
      exact .scalarOfMany hneeds (hassociation rfl hneeds ▸ hkind) hscalar hmany
  | unknownType hneeds hkind hmany hunknown =>
      exact .unknownType hneeds (hassociation rfl hneeds ▸ hkind) hmany hunknown

/-- An unmarked field is too deep, or needs an association. -/
theorem Unmarked.needsAssociation (h : Unmarked f)
    (hshallow : f.type.lists < 32) : NeedsAssociation f := by
  refine ⟨hshallow, ?_, h.entity⟩
  intro k hk
  rw [markers_eq_nil.mpr h.bare] at hk
  cases hk

theorem not_faultless_of_unmarked (entity : String)
    {f : Placed FieldDefinition} (h : Unmarked f.value) :
    ∃ x, Fault withoutDescriptions docs (.field entity f) x := by
  by_cases hshallow : f.value.type.lists < 32
  · exact ⟨_, .missingAssociation (h.needsAssociation hshallow)
      (associationOf_of_unmarked h)⟩
  · exact ⟨_, .nestingTooDeep (Nat.not_lt.mp hshallow)⟩

/-- A field with nothing wrong but that it is unmarked lacks an association
where descriptions do not count. -/
theorem fault_of_unmarked {entity : String} {f : Placed FieldDefinition}
    (h : Unmarked f.value) (hclean : ∀ x, ¬ Fault o docs (.field entity f) x) :
    Fault withoutDescriptions docs (.field entity f)
      (.missingAssociation (siteOf entity f)) := by
  have hshallow : f.value.type.lists < 32 := by
    by_contra hdeep
    exact hclean _ (.nestingTooDeep (Nat.not_lt.mp hdeep))
  exact .missingAssociation (h.needsAssociation hshallow)
    (associationOf_of_unmarked h)

end Fields

/-! ## §3. All fields. -/

section All

variable {o o' : Options} {docs : List Document}

theorem checks_eq (docs : List Document) :
    checks docs = gatherChecks docs ++
      (entityFields docs).map fun p => .field p.1 p.2 := by
  unfold checks entityFields fieldChecks
  rw [List.map_flatMap]
  simp only [List.map_map]
  rfl

/-- No field is checked while declarations are gathered. -/
theorem not_field_of_gatherChecks {c : Check} (hc : c ∈ gatherChecks docs)
    (entity : String) (f : Placed FieldDefinition) : c ≠ .field entity f := by
  unfold gatherChecks typeChecks at hc
  rw [List.mem_append, List.mem_append, List.mem_flatMap] at hc
  rcases hc with htype | hext | ⟨t, -, hname⟩
  · obtain ⟨p, -, rfl⟩ := List.mem_map.mp htype
    exact Check.noConfusion
  · obtain ⟨x, -, rfl⟩ := List.mem_map.mp hext
    exact Check.noConfusion
  · unfold fieldNameChecks at hname
    obtain ⟨p, -, rfl⟩ := List.mem_map.mp hname
    exact Check.noConfusion

/-- Where the fields are marked, the two ways of reading find the same
faults. -/
theorem faultless_of_marked {before : List (String × Placed FieldDefinition)}
    (hmarked : ∀ p ∈ before, ¬ Unmarked p.2.value)
    (h : Faultless (Fault o docs)
      (gatherChecks docs ++ before.map fun p => .field p.1 p.2)) :
    Faultless (Fault o' docs)
      (gatherChecks docs ++ before.map fun p => .field p.1 p.2) := by
  intro c hc x hx
  apply h c hc x
  apply hx.of_options
  intro entity f heq
  subst heq
  rcases List.mem_append.mp hc with hc | hc
  · exact absurd rfl (not_field_of_gatherChecks hc entity f)
  · obtain ⟨p, hp, hfield⟩ := List.mem_map.mp hc
    cases hfield
    exact hmarked p hp

/-- All fields are marked, or one of them is the first that is not. -/
theorem first_unmarked (ps : List (String × Placed FieldDefinition)) :
    (∀ p ∈ ps, ¬ Unmarked p.2.value) ∨
      ∃ before p after, ps = before ++ p :: after ∧
        (∀ q ∈ before, ¬ Unmarked q.2.value) ∧ Unmarked p.2.value := by
  -- to be unmarked is taken for a fault that needs no further words
  let V : String × Placed FieldDefinition → Unit → Prop :=
    fun p _ => Unmarked p.2.value
  by_cases hfirst : ∃ x, FirstFault V ps x
  · obtain ⟨x, before, p, after, hsplit, hclean, hp⟩ := hfirst
    exact .inr ⟨before, p, after, hsplit, fun q hq => hclean q hq (), hp⟩
  · have hclean : Faultless V ps :=
      faultless_iff.mpr (not_exists.mp hfirst)
    refine .inl ?_
    intro p hp
    exact hclean p hp ()

/-! ## §4. The schema. -/

variable {s s' : Schema} {names : List String}

/-- The fields that are made are those that can be written down. -/
theorem elaborateFields_eq_ok {d : Declaration} :
    ∀ {fs : List (Placed FieldDefinition)} {fields : List Field},
      (elaborateFields o names d fs).result = .ok fields →
        fields = fs.map fun f => fieldOf o f.value
  | [], fields, h => by
      cases h
      rfl
  | f :: rest, fields, h => by
      unfold elaborateFields at h
      rw [Report.result_bind_eq_ok] at h
      obtain ⟨field, hfield, h⟩ := h
      rw [Report.result_bind_eq_ok] at h
      obtain ⟨others, hothers, h⟩ := h
      cases h
      rw [List.map_cons, ← (elaborateField_eq_ok hfield).1,
        ← elaborateFields_eq_ok hothers]

/-- The entities that are made, likewise. -/
theorem entities_eq_of_elaborateAll {ds : List Declaration} {es : List Entity}
    (h : (elaborateAll o names ds).result = .ok es) :
    es = ds.map fun d =>
      entityOf d (d.fields.map fun f => fieldOf o f.value) := by
  have hmade : List.Forall₂ (fun d e =>
      some (entityOf d (d.fields.map fun f => fieldOf o f.value)) = some e)
      ds es := by
    apply (elaborateAll_eq_ok h).imp
    intro d e he
    obtain ⟨fields, rfl, hfields⟩ := he
    rw [elaborateFields_eq_ok hfields]
  rw [eq_filterMap_of_forall₂ hmade, List.filterMap_eq_map']

/-- The fields of declarations are those of the entities. -/
theorem mem_entityFields {ds : List Declaration} (hds : gather docs = .ok ds)
    {d : Declaration} (hd : d ∈ ds) {f : Placed FieldDefinition}
    (hf : f ∈ d.fields) : (d.name, f) ∈ entityFields docs := by
  obtain ⟨t, ht, hdeclares⟩ :=
    exists_left_of_forall₂ (gather_eq_ok hds) d hd
  unfold entityFields
  rw [List.mem_flatMap]
  refine ⟨t, ht, List.mem_map.mpr ⟨f, ?_, ?_⟩⟩
  · rw [← hdeclares.fields]
    exact hf
  · rw [hdeclares.name]

/-- Documents whose fields are all marked make one schema in both ways. -/
theorem schema_eq_of_marked
    (hmarked : ∀ p ∈ entityFields docs, ¬ Unmarked p.2.value)
    (h : (elaborate o docs).result = .ok s)
    (h' : (elaborate o' docs).result = .ok s') : s = s' := by
  obtain ⟨ds, es, hds, hes, rfl⟩ := elaborate_eq_ok h
  obtain ⟨ds', es', hds', hes', rfl⟩ := elaborate_eq_ok h'
  -- declarations are gathered without a look at the options
  rw [hds] at hds'
  cases hds'
  rw [entities_eq_of_elaborateAll hes, entities_eq_of_elaborateAll hes']
  congr 1
  apply List.map_congr_left
  intro d hd
  congr 1
  apply List.map_congr_left
  intro f hf
  exact fieldOf_eq (hmarked _ (mem_entityFields hds hd hf))

/-- Where all fields are marked, the one way succeeds as the other does. -/
theorem elaborate_ok_of_marked
    (hmarked : ∀ p ∈ entityFields docs, ¬ Unmarked p.2.value)
    (h : (elaborate o docs).result = .ok s) :
    (elaborate o' docs).result = .ok s := by
  have hclean : Faultless (Fault o docs) (checks docs) :=
    elaborate_reports.ok_iff.mp ⟨s, h⟩
  rw [checks_eq] at hclean
  have hclean' : Faultless (Fault o' docs) (checks docs) := by
    rw [checks_eq]
    exact faultless_of_marked hmarked hclean
  obtain ⟨s', hs'⟩ := elaborate_reports.ok_iff.mpr hclean'
  rw [hs', schema_eq_of_marked hmarked h hs']

/-- Documents that are read without their descriptions have all of their
fields marked. -/
theorem marked_of_withoutDescriptions
    (h : (elaborate withoutDescriptions docs).result = .ok s) :
    ∀ p ∈ entityFields docs, ¬ Unmarked p.2.value := by
  intro p hp hunmarked
  have hclean := elaborate_reports.ok_iff.mp ⟨s, h⟩
  rw [checks_eq] at hclean
  obtain ⟨x, hx⟩ := not_faultless_of_unmarked p.1 hunmarked
  have hc : Check.field p.1 p.2 ∈ gatherChecks docs ++
      (entityFields docs).map fun p => .field p.1 p.2 :=
    List.mem_append_right _ (List.mem_map.mpr ⟨p, hp, rfl⟩)
  exact hclean _ hc x hx

/-- The first unmarked field of documents that are read with their
descriptions is what they are refused for without. -/
theorem elaborate_error_of_unmarked
    (h : (elaborate withDescriptions docs).result = .ok s)
    {before after : List (String × Placed FieldDefinition)} {entity : String}
    {f : Placed FieldDefinition}
    (hsplit : entityFields docs = before ++ (entity, f) :: after)
    (hbefore : ∀ p ∈ before, ¬ Unmarked p.2.value)
    (hf : Unmarked f.value) :
    (elaborate withoutDescriptions docs).result
      = .error (.missingAssociation (siteOf entity f)) := by
  have hclean : Faultless (Fault withDescriptions docs) (checks docs) :=
    elaborate_reports.ok_iff.mp ⟨s, h⟩
  rw [checks_eq, hsplit, List.map_append, List.map_cons,
    ← List.append_assoc] at hclean
  have hfirst : Faultless (Fault withDescriptions docs)
      (gatherChecks docs ++ before.map fun p => .field p.1 p.2) :=
    fun c hc => hclean c (List.mem_append_left _ hc)
  rw [elaborate_reports]
  refine ⟨gatherChecks docs ++ before.map fun p => .field p.1 p.2,
    .field entity f, after.map fun p => .field p.1 p.2, ?_,
    faultless_of_marked hbefore hfirst, ?_⟩
  · rw [checks_eq, hsplit, List.map_append, List.map_cons,
      List.append_assoc]
  · exact fault_of_unmarked hf
      (hclean _ (List.mem_append_right _ List.mem_cons_self))

end All

/-- Documents that can be read without their descriptions make the same
schema with them.  Documents that can be read with their descriptions make
the same schema without them, or are refused for the lack of an association
at the first field that is not marked. -/
theorem elaborate_fallback (docs : List Document) :
    (∀ s, (elaborate withoutDescriptions docs).result = .ok s →
      (elaborate withDescriptions docs).result = .ok s) ∧
    ∀ s, (elaborate withDescriptions docs).result = .ok s →
      (elaborate withoutDescriptions docs).result = .ok s ∨
        ∃ before entity f after,
          entityFields docs = before ++ (entity, f) :: after ∧
          (∀ p ∈ before, ¬ Unmarked p.2.value) ∧ Unmarked f.value ∧
          (elaborate withoutDescriptions docs).result
            = .error (.missingAssociation (siteOf entity f)) := by
  constructor
  · intro s h
    exact elaborate_ok_of_marked (marked_of_withoutDescriptions h) h
  · intro s h
    rcases first_unmarked (entityFields docs) with hmarked |
      ⟨before, ⟨entity, f⟩, after, hsplit, hbefore, hf⟩
    · exact .inl (elaborate_ok_of_marked hmarked h)
    · exact .inr ⟨before, entity, f, after, hsplit, hbefore, hf,
        elaborate_error_of_unmarked h hsplit hbefore hf⟩

/-- Shops with a title and an owner, who has these directives.  Both
descriptions have a keyword. -/
def shops (directives : List Directive) : List Document :=
  [ { definitions :=
        [ .object {
            position := .start
            isExtension := false
            name := "Shop"
            directives := []
            fields :=
              [ { position := .start
                  description := some "What a sign hasMany letters for"
                  name := "title"
                  type := .named "String" true
                  directives := [] },
                { position := .start
                  description := some "The shop belongsTo this person"
                  name := "owner"
                  type := .named "Person" true
                  directives := directives } ] },
          .object {
            position := .start
            isExtension := false
            name := "Person"
            directives := []
            fields := [] } ] } ]

/-- Where the owner is missing. -/
def ownerSite : FieldSite :=
  ⟨"Shop", "owner", ⟨0, .start⟩⟩

/-- With a directive for the owner the descriptions do not matter, not even
the one that contradicts it.  Without one they are needed. -/
theorem elaborate_fallback_shops :
    (∃ s, (elaborate withoutDescriptions (shops [⟨"hasOne", []⟩])).result
          = .ok s ∧
        (elaborate withDescriptions (shops [⟨"hasOne", []⟩])).result
          = .ok s) ∧
      (∃ s, (elaborate withDescriptions (shops [])).result = .ok s) ∧
      ∃ p ∈ entityFields (shops []), Unmarked p.2.value ∧
        siteOf p.1 p.2 = ownerSite ∧
        (elaborate withoutDescriptions (shops [])).result
          = .error (.missingAssociation (siteOf p.1 p.2)) := by
  have hsome : (elaborate withoutDescriptions
      (shops [⟨"hasOne", []⟩])).result.toOption.isSome = true := by
    decide +kernel
  have hsome' : (elaborate withDescriptions
      (shops [])).result.toOption.isSome = true := by
    decide +kernel
  obtain ⟨s, hs⟩ := Option.isSome_iff_exists.mp hsome
  obtain ⟨s', hs'⟩ := Option.isSome_iff_exists.mp hsome'
  rw [toOption_eq_some] at hs hs'
  have herror : (elaborate withoutDescriptions (shops [])).result
      = .error (.missingAssociation ownerSite) := by rfl
  refine ⟨⟨s, hs, (elaborate_fallback _).1 s hs⟩, ⟨s', hs'⟩, ?_⟩
  rcases (elaborate_fallback _).2 s' hs' with hok |
    ⟨before, entity, f, after, hsplit, -, hf, hmissing⟩
  · rw [herror] at hok
    cases hok
  · have hmem : (entity, f) ∈ entityFields (shops []) := by
      rw [hsplit]
      exact List.mem_append_right _ List.mem_cons_self
    have hsite : siteOf entity f = ownerSite := by
      rw [herror, Except.error.injEq,
        ElaborationError.missingAssociation.injEq] at hmissing
      exact hmissing.symm
    exact ⟨(entity, f), hmem, hf, hsite, hmissing⟩

end SchemaTables.Elaboration
