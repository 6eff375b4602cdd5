/-
  SchemaTables.Proofs.Elaboration.Locations
  ─────────────────────────────────────────
  **AN ERROR IS WHERE IT SAYS.**

  The fields of an entity may come from several documents, and each brings the
  number of its own along.  So an error has the place of just what is wrong:
  an object type of the name in the error, or a field of that name in an
  object type for the entity, be it the type itself or an extension
  (`ElaborationError.StandsIn`).

  Of two things with one name the later is reported, in the order of the
  documents for types, and in the order of the merged fields for fields.
-/
import SchemaTables.Proofs.Elaboration.Refusal

namespace SchemaTables.Elaboration

open Sdl

/-! ## §1. Places in documents. -/

/-- The document of the location has an object type of this name there. -/
def TypeStandsAt (docs : List Document) (type : String) (l : Location) :
    Prop :=
  ∃ d o, docs[l.document]? = some d ∧ o ∈ d.objects ∧ o.name = type ∧
    o.position = l.position

/-- The document of the site has an object type or an extension for the
entity, with a field of this name there. -/
def FieldStandsAt (docs : List Document) (site : FieldSite) : Prop :=
  ∃ d o f, docs[site.location.document]? = some d ∧ o ∈ d.objects ∧
    o.name = site.entity ∧ f ∈ o.fields ∧ f.name = site.field ∧
    f.position = site.location.position

/-- The type at the location stands after another one of its name. -/
def TypeRepeatedAt (docs : List Document) (type : String) (l : Location) :
    Prop :=
  ∃ before o after, objectsFrom 0 docs = before ++ o :: after ∧
    o.value.name = type ∧ o.value.isExtension = false ∧ o.typeLocation = l ∧
    ∃ t ∈ before, t.value.name = type ∧ t.value.isExtension = false

/-- Among the fields of the entity, its own first and then those of its
extensions, the one at the site stands after another one of its name. -/
def FieldRepeatedAt (docs : List Document) (site : FieldSite) : Prop :=
  ∃ o ∈ baseTypes docs, o.value.name = site.entity ∧
    ∃ before f after,
      mergedFields (extensions docs) o = before ++ f :: after ∧
      siteOf site.entity f = site ∧
      ∃ g ∈ before, g.value.name = site.field

/-- What the error is about stands where the error says. -/
def ElaborationError.StandsIn (docs : List Document) :
    ElaborationError → Prop
  | .missingAssociation site => FieldStandsAt docs site
  | .cardinality site _ _ => FieldStandsAt docs site
  | .unknownType site _ => FieldStandsAt docs site
  | .conflictingMarkers site _ _ => FieldStandsAt docs site
  | .nestingTooDeep site _ => FieldStandsAt docs site
  | .duplicateField site =>
      FieldStandsAt docs site ∧ FieldRepeatedAt docs site
  | .duplicateType type l =>
      TypeStandsAt docs type l ∧ TypeRepeatedAt docs type l
  | .extendsUnknownType type l => TypeStandsAt docs type l
  | .invalidPlural type _ l => TypeStandsAt docs type l

/-! ## §2. What checks are about. -/

section Checks

variable {options : Options} {docs : List Document} {c : Check}
  {o : Placed ObjectType} {f : Placed FieldDefinition} {entity : String}
  {x : ElaborationError}

/-- An object type stands in the document that it brings along. -/
theorem document_of_mem :
    ∀ {docs : List Document} {n : Nat}, o ∈ objectsFrom n docs →
      ∃ k d, o.document = n + k ∧ docs[k]? = some d ∧ o.value ∈ d.objects
  | d :: rest, n, h => by
      unfold objectsFrom at h
      rcases List.mem_append.mp h with hd | hrest
      · obtain ⟨o', ho', rfl⟩ := List.mem_map.mp hd
        exact ⟨0, d, rfl, rfl, ho'⟩
      · obtain ⟨k, d', hk, hd', ho'⟩ := document_of_mem hrest
        exact ⟨k + 1, d', by rw [hk]; omega, hd', ho'⟩

theorem typeStandsAt_of_mem (h : o ∈ objectsFrom 0 docs) :
    TypeStandsAt docs o.value.name o.typeLocation := by
  obtain ⟨k, d, hk, hd, ho⟩ := document_of_mem h
  rw [Nat.zero_add] at hk
  exact ⟨d, o.value, by rw [← hd, ← hk]; rfl, ho, rfl, rfl⟩

/-- A merged field is one of an object type for the entity. -/
theorem fieldStandsAt_of_mem (ho : o ∈ baseTypes docs)
    (hf : f ∈ mergedFields (extensions docs) o) :
    FieldStandsAt docs (siteOf o.value.name f) := by
  -- the type itself, or an extension of its name
  obtain ⟨t, ht, hname, hf⟩ : ∃ t ∈ objectsFrom 0 docs,
      t.value.name = o.value.name ∧ f ∈ placedFields t := by
    unfold mergedFields at hf
    rcases List.mem_append.mp hf with hown | hext
    · exact ⟨o, (List.mem_filter.mp ho).1, rfl, hown⟩
    · obtain ⟨t, ht, hf⟩ := List.mem_flatMap.mp hext
      rw [List.mem_filter, decide_eq_true_eq] at ht
      exact ⟨t, (List.mem_filter.mp ht.1).1, ht.2, hf⟩
  obtain ⟨k, d, hk, hd, htd⟩ := document_of_mem ht
  rw [Nat.zero_add] at hk
  obtain ⟨f, hmem, rfl⟩ := List.mem_map.mp hf
  exact ⟨d, t.value, f, by rw [← hd, ← hk]; rfl, htd, hname, hmem, rfl, rfl⟩

theorem mem_withEarlier {α : Type} {a : α} {earlier : List α} :
    ∀ {rest done : List α}, (earlier, a) ∈ withEarlier done rest →
      ∃ before after, earlier = done ++ before ∧ rest = before ++ a :: after
  | b :: rest, done, h => by
      unfold withEarlier at h
      rcases List.mem_cons.mp h with heq | hrest
      · cases heq
        exact ⟨[], rest, (List.append_nil _).symm, rfl⟩
      · obtain ⟨before, after, hearlier, hsplit⟩ := mem_withEarlier hrest
        exact ⟨b :: before, after, by rw [hearlier]; simp, by rw [hsplit]; rfl⟩

/-- What a check is about stands in the documents. -/
inductive About (docs : List Document) : Check → Prop where
  | type {before after : List (Placed ObjectType)} {o : Placed ObjectType}
      (h : baseTypes docs = before ++ o :: after) : About docs (.type before o)
  | extension {o : Placed ObjectType} (h : o ∈ extensions docs) :
      About docs (.extension o)
  | fieldName {o : Placed ObjectType} {f : Placed FieldDefinition}
      {before after : List (Placed FieldDefinition)} (ho : o ∈ baseTypes docs)
      (h : mergedFields (extensions docs) o = before ++ f :: after) :
      About docs (.fieldName o.value.name before f)
  | field {o : Placed ObjectType} {f : Placed FieldDefinition}
      (ho : o ∈ baseTypes docs) (h : f ∈ mergedFields (extensions docs) o) :
      About docs (.field o.value.name f)

theorem about_of_mem (h : c ∈ checks docs) : About docs c := by
  unfold checks gatherChecks at h
  simp only [List.mem_append] at h
  rcases h with (htype | hext | hname) | hfield
  · obtain ⟨⟨earlier, o⟩, hmem, rfl⟩ := List.mem_map.mp htype
    obtain ⟨before, after, rfl, hsplit⟩ := mem_withEarlier hmem
    exact .type hsplit
  · obtain ⟨o, ho, rfl⟩ := List.mem_map.mp hext
    exact .extension ho
  · obtain ⟨o, ho, hname⟩ := List.mem_flatMap.mp hname
    obtain ⟨⟨earlier, f⟩, hmem, rfl⟩ := List.mem_map.mp hname
    obtain ⟨before, after, rfl, hsplit⟩ := mem_withEarlier hmem
    exact .fieldName ho hsplit
  · obtain ⟨o, ho, hfield⟩ := List.mem_flatMap.mp hfield
    obtain ⟨f, hf, rfl⟩ := List.mem_map.mp hfield
    exact .field ho hf

/-- A base type after another one of its name is so in the documents, too. -/
theorem typeRepeatedAt_of_split {before after : List (Placed ObjectType)}
    (hsplit : baseTypes docs = before ++ o :: after)
    (htaken : ∃ t ∈ before, t.value.name = o.value.name) :
    TypeRepeatedAt docs o.value.name o.typeLocation := by
  have hbase : ∀ t ∈ baseTypes docs, t.value.isExtension = false := by
    intro t ht
    unfold baseTypes at ht
    rw [List.mem_filter, decide_eq_true_eq] at ht
    exact ht.2.2
  obtain ⟨t, ht, hname⟩ := htaken
  have hext := hbase o (by rw [hsplit]; simp)
  have hext' := hbase t (by rw [hsplit]; exact List.mem_append_left _ ht)
  unfold baseTypes at hsplit
  obtain ⟨l₁, l₂, hdocs, hl₁, hl₂⟩ := List.filter_eq_append_iff.mp hsplit
  obtain ⟨l₃, l₄, rfl, -, -, -⟩ := List.filter_eq_cons_iff.mp hl₂
  refine ⟨l₁ ++ l₃, o, l₄, by rw [hdocs, List.append_assoc], rfl, hext, rfl, t,
    ?_, hname, hext'⟩
  rw [← hl₁] at ht
  exact List.mem_append_left _ (List.mem_filter.mp ht).1

/-! ## §3. Errors. -/

/-- A fault of a check stands where the check is about. -/
theorem Fault.standsIn (h : Fault options docs c x) (hc : About docs c) :
    x.StandsIn docs := by
  cases hc with
  | @type before after o hsplit =>
      have hmem : o ∈ baseTypes docs := by
        rw [hsplit]
        simp
      have hstands := typeStandsAt_of_mem (List.mem_filter.mp hmem).1
      cases h with
      | duplicateType htaken =>
          exact ⟨hstands, typeRepeatedAt_of_split hsplit htaken⟩
      | nameless => exact hstands
  | extension hmem =>
      have hstands := typeStandsAt_of_mem (List.mem_filter.mp hmem).1
      cases h with
      | pluralOnExtension => exact hstands
      | extendsUnknownType => exact hstands
  | @fieldName o f before after ho hsplit =>
      have hmem : f ∈ mergedFields (extensions docs) o := by
        rw [hsplit]
        simp
      cases h with
      | duplicateField htaken =>
          exact ⟨fieldStandsAt_of_mem ho hmem, o, ho, rfl, before, f, after,
            hsplit, rfl, htaken⟩
  | field ho hmem =>
      have hstands := fieldStandsAt_of_mem ho hmem
      cases h <;> exact hstands

/-- What an error is about stands where the error says. -/
theorem standsIn_of_elaborate
    (h : (elaborate options docs).result = .error x) : x.StandsIn docs := by
  obtain ⟨before, c, after, hsplit, -, hfault⟩ := (elaborate_reports x).mp h
  exact hfault.standsIn (about_of_mem (by rw [hsplit]; simp))

end Checks

end SchemaTables.Elaboration
