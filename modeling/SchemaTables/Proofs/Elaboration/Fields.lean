/-
  SchemaTables.Proofs.Elaboration.Fields
  ──────────────────────────────────────
  **ELABORATING A FIELD REPORTS ITS FAULT.**

  A type counts by the name in its innermost layer, by whether there are lists
  around it and by whether any layer forbids null (`FieldType.of?_eq`).  The
  directives of a field contradict each other, or the association is the one
  that `associationOf` tells (`inferAssociation_eq_ok`).  So the field that a
  definition makes can be written down without a look at the checks
  (`fieldOf`), and these either let it pass or report the one fault that the
  rules know for it (`elaborateField_fault`).
-/
import SchemaTables.Proofs.Elaboration.Faults
import SchemaTables.Proofs.Elaboration.Keyed

namespace SchemaTables.Elaboration

open Sdl

/-! ## §1. The type. -/

/-- Walking down the layers keeps the flags and gives up at the last one that
is allowed. -/
theorem flattenLayers_eq (t : TypeRef) :
    ∀ (fuel : Nat) (disallowsNull isList : Bool),
      flattenLayers disallowsNull isList fuel t =
        if t.lists < fuel then
          some ⟨t.base, disallowsNull || t.required,
            isList || decide (0 < t.lists)⟩
        else none := by
  induction t with
  | named name nullable =>
      intro fuel disallowsNull isList
      cases fuel with
      | zero => rfl
      | succ fuel =>
          simp [flattenLayers, TypeRef.lists, TypeRef.base, TypeRef.required]
  | list item nullable ih =>
      intro fuel disallowsNull isList
      cases fuel with
      | zero => rfl
      | succ fuel =>
          rw [flattenLayers, ih]
          simp [TypeRef.lists, TypeRef.base, TypeRef.required, Bool.or_assoc]

theorem FieldType.of?_eq (t : TypeRef) :
    FieldType.of? t =
      if t.lists < 32 then
        some ⟨t.base, t.required, decide (0 < t.lists)⟩
      else none :=
  flattenLayers_eq t maxLayers false false

/-! ## §2. The association. -/

section Marks

variable {options : Options} {site : FieldSite} {f : FieldDefinition}
  {directives : List Directive} {x : ElaborationError}

/-- Directives are refused where a later one names another kind than the
first. -/
theorem markedAssociation_eq_error :
    markedAssociation site directives = .error x ↔
      ∃ first second same later,
        markers directives = first :: (same ++ second :: later) ∧
          (∀ k ∈ same, k = first) ∧ second ≠ first ∧
          x = .conflictingMarkers site first second := by
  unfold markedAssociation
  constructor
  · intro hx
    split at hx
    · cases hx
    · next first rest hmarkers =>
        split at hx
        · next second hfind =>
            cases hx
            rw [List.find?_eq_some_iff_append] at hfind
            obtain ⟨hother, same, later, rfl, hsame⟩ := hfind
            refine ⟨first, second, same, later, hmarkers, ?_, ?_, rfl⟩
            · intro k hk
              simpa using hsame k hk
            · simpa using hother
        · cases hx
  · intro hx
    obtain ⟨first, second, same, later, hmarkers, hsame, hother, rfl⟩ := hx
    have hfind : (same ++ second :: later).find? (fun k => k != first)
        = some second := by
      rw [List.find?_eq_some_iff_append]
      refine ⟨by simpa using hother, same, later, rfl, ?_⟩
      intro k hk
      simpa using hsame k hk
    rw [hmarkers]
    dsimp only
    rw [hfind]

/-- Directives that are not refused all name one kind. -/
theorem markedAssociation_eq_ok {marked : Option Association} :
    markedAssociation site directives = .ok marked ↔
      (∀ k ∈ markers directives, ∀ k' ∈ markers directives, k = k') ∧
        marked = (markers directives).head? := by
  unfold markedAssociation
  split
  · next hmarkers =>
      rw [hmarkers]
      simp [eq_comm]
  · next first rest hmarkers =>
      rw [hmarkers]
      split
      · next second hfind =>
          have hother := List.find?_some hfind
          have hmem := List.mem_of_find?_eq_some hfind
          constructor
          · intro hx
            cases hx
          · intro hx
            have hsame := hx.1 second (List.mem_cons_of_mem _ hmem) first
              List.mem_cons_self
            rw [hsame] at hother
            simp at hother
      · next hfind =>
          rw [List.find?_eq_none] at hfind
          have hsame : ∀ k ∈ first :: rest, k = first := by
            intro k hk
            rcases List.mem_cons.mp hk with rfl | hk
            · rfl
            · simpa using hfind k hk
          constructor
          · intro hx
            cases hx
            exact ⟨fun k hk k' hk' => (hsame k hk).trans (hsame k' hk').symm,
              rfl⟩
          · intro hx
            rw [hx.2]
            rfl

theorem inferAssociation_eq_error :
    inferAssociation options site f = .error x ↔
      markedAssociation site f.directives = .error x := by
  unfold inferAssociation
  rw [bind_eq_error]
  constructor
  · intro hx
    rcases hx with hx | ⟨marked, -, hx⟩
    · exact hx
    · -- once the directives agree, nothing is refused any more
      cases marked with
      | some kind => cases hx
      | none =>
          dsimp only at hx
          split at hx <;> cases hx
  · intro hx
    exact .inl hx

/-- The association of a field whose directives agree. -/
theorem inferAssociation_eq_ok {marked : Option Association} :
    inferAssociation options site f = .ok marked ↔
      (∀ k ∈ markers f.directives, ∀ k' ∈ markers f.directives, k = k') ∧
        marked = associationOf options f := by
  unfold inferAssociation associationOf
  rw [bind_eq_ok]
  constructor
  · intro hx
    obtain ⟨first?, hfirst, hx⟩ := hx
    obtain ⟨hagree, rfl⟩ := markedAssociation_eq_ok.mp hfirst
    refine ⟨hagree, ?_⟩
    cases hhead : (markers f.directives).head? with
    | some kind =>
        rw [hhead] at hx
        cases hx
        rfl
    | none =>
        rw [hhead] at hx
        dsimp only at hx
        split at hx
        · next hfallback =>
            cases hx
            rw [if_pos hfallback]
            rfl
        · next hfallback =>
            cases hx
            rw [if_neg hfallback]
            rfl
  · intro hx
    obtain ⟨hagree, rfl⟩ := hx
    refine ⟨_, markedAssociation_eq_ok.mpr ⟨hagree, rfl⟩, ?_⟩
    cases (markers f.directives).head? with
    | some kind => rfl
    | none =>
        dsimp only
        split <;> rfl

end Marks

/-! ## §3. The checks of a field. -/

/-- The field that a definition makes. -/
def fieldOf (options : Options) (f : FieldDefinition) : Field where
  name := f.name
  baseType := f.type.base
  nullable := !f.type.required
  isList := decide (0 < f.type.lists)
  association :=
    if Primitive.isName f.type.base then none else associationOf options f

/-- The checks that a field has to pass once it is made. -/
def checkField (site : FieldSite) (entities : List String) (field : Field) :
    Except ElaborationError Unit := do
  checkAssociation site field
  checkTarget site entities field

section Checks

variable {options : Options} {site : FieldSite} {entities : List String}
  {f : FieldDefinition} {field : Field} {x : ElaborationError}

/-- A field of primitive type is in order. -/
theorem checkAssociation_of_primitive
    (h : Primitive.isName field.baseType = true) :
    checkAssociation site field = .ok () := by
  unfold checkAssociation
  rw [if_pos (show field.primitive?.isSome = true from h)]

/-- A field of another type is refused without an association, or with one
that does not agree with its type. -/
theorem checkAssociation_eq_error
    (h : ¬ Primitive.isName field.baseType = true) :
    checkAssociation site field = .error x ↔
      (field.association = none ∧ x = .missingAssociation site) ∨
        ∃ kind, field.association = some kind ∧
          ((field.isList = true ∧ kind.isMany = false ∧
              x = .cardinality site kind .listOfOne) ∨
            (field.isList = false ∧ kind.isMany = true ∧
              x = .cardinality site kind .scalarOfMany)) := by
  unfold checkAssociation
  rw [if_neg (show ¬ field.primitive?.isSome = true from h)]
  cases field.association with
  | none => simp [@eq_comm _ x]
  | some kind =>
      cases hlist : field.isList <;> cases hmany : kind.isMany <;>
        simp [hmany, @eq_comm _ x]

theorem checkAssociation_eq_ok {u : Unit}
    (h : ¬ Primitive.isName field.baseType = true) :
    checkAssociation site field = .ok u ↔
      ∃ kind, field.association = some kind ∧
        kind.isMany = field.isList := by
  unfold checkAssociation
  rw [if_neg (show ¬ field.primitive?.isSome = true from h)]
  cases field.association with
  | none => simp
  | some kind =>
      cases hlist : field.isList <;> cases hmany : kind.isMany <;>
        simp [hmany]

theorem checkTarget_eq_error :
    checkTarget site entities field = .error x ↔
      field.association.isSome = true ∧ field.baseType ∉ entities ∧
        x = .unknownType site field.baseType := by
  unfold checkTarget
  cases field.association with
  | none => simp
  | some kind =>
      by_cases hmem : field.baseType ∈ entities <;>
        simp [hmem, @eq_comm _ x]

/-- Elaborating a field, once its type and its directives are read. -/
theorem elaborateField_result :
    (elaborateField options entities site f).result =
      if f.type.lists < 32 then do
        let _ ← inferAssociation options site f
        checkField site entities (fieldOf options f)
        return fieldOf options f
      else .error (.nestingTooDeep site 32) := by
  unfold elaborateField
  simp only [Report.result_bind, FieldType.of?_eq]
  by_cases hshallow : f.type.lists < 32
  · rw [if_pos hshallow, if_pos hshallow]
    cases hinfer : inferAssociation options site f with
    | error x => rfl
    | ok marked =>
        obtain ⟨-, rfl⟩ := inferAssociation_eq_ok.mp hinfer
        show _ = (checkField site entities (fieldOf options f) >>= fun _ => _)
        unfold checkField
        rw [bind_assoc]
        rfl
  · rw [if_neg hshallow, if_neg hshallow]
    rfl

/-- Why a field that needs an association is refused with the error `x`. -/
def RefusedFor (options : Options) (site : FieldSite)
    (entities : List String) (f : FieldDefinition) (x : ElaborationError) :
    Prop :=
  (associationOf options f = none ∧ x = .missingAssociation site) ∨
    ∃ kind, associationOf options f = some kind ∧
      ((0 < f.type.lists ∧ kind.isMany = false ∧
          x = .cardinality site kind .listOfOne) ∨
        (f.type.lists = 0 ∧ kind.isMany = true ∧
          x = .cardinality site kind .scalarOfMany) ∨
        ((kind.isMany = true ↔ 0 < f.type.lists) ∧
          f.type.base ∉ entities ∧ x = .unknownType site f.type.base))

/-- The checks refuse only fields whose type is not primitive. -/
theorem checkField_eq_error :
    checkField site entities (fieldOf options f) = .error x ↔
      ¬ Primitive.isName f.type.base = true ∧
        RefusedFor options site entities f x := by
  have hbase : (fieldOf options f).baseType = f.type.base := rfl
  have hlist : (fieldOf options f).isList = decide (0 < f.type.lists) := rfl
  unfold checkField RefusedFor
  rw [bind_eq_error]
  by_cases hprimitive : Primitive.isName f.type.base = true
  · -- without an association there is no target to look for either
    have hnone : (fieldOf options f).association = none := if_pos hprimitive
    rw [checkAssociation_of_primitive (hbase ▸ hprimitive)]
    simp [checkTarget, hnone, hprimitive]
  · have hkind : (fieldOf options f).association = associationOf options f :=
      if_neg hprimitive
    simp only [checkAssociation_eq_error (hbase ▸ hprimitive),
      checkAssociation_eq_ok (hbase ▸ hprimitive), checkTarget_eq_error,
      hkind, hlist, hbase]
    cases associationOf options f with
    | none => simp [hprimitive]
    | some kind =>
        by_cases hlists : 0 < f.type.lists
        · have hne : f.type.lists ≠ 0 := by omega
          cases hmany : kind.isMany <;> simp [hprimitive, hmany, hlists, hne]
        · have hzero : f.type.lists = 0 := by omega
          cases hmany : kind.isMany <;> simp [hprimitive, hmany, hzero]

/-- A field that passes the checks is primitive or has an association to one
of the entities. -/
theorem checkField_eq_ok {u : Unit}
    (h : checkField site entities (fieldOf options f) = .ok u) :
    Primitive.isName f.type.base = true ∨
      ∃ kind, associationOf options f = some kind ∧
        kind.isMany = decide (0 < f.type.lists) ∧
        f.type.base ∈ entities := by
  by_cases hprimitive : Primitive.isName f.type.base = true
  · exact .inl hprimitive
  · right
    unfold checkField at h
    rw [bind_eq_ok] at h
    obtain ⟨u', hassociation, htarget⟩ := h
    obtain ⟨kind, hkind, hmany⟩ :=
      (checkAssociation_eq_ok hprimitive).mp hassociation
    refine ⟨kind, ?_, hmany, ?_⟩
    · rw [← hkind]
      exact (if_neg hprimitive).symm
    · by_contra hunknown
      have herror : checkTarget site entities (fieldOf options f)
          = .error (.unknownType site f.type.base) :=
        checkTarget_eq_error.mpr ⟨by rw [hkind]; rfl, hunknown, rfl⟩
      rw [htarget] at herror
      cases herror

/-! ## §4. Elaborating a field. -/

/-- The reasons for which a field is refused. -/
theorem elaborateField_eq_error :
    (elaborateField options entities site f).result = .error x ↔
      (32 ≤ f.type.lists ∧ x = .nestingTooDeep site 32) ∨
      (f.type.lists < 32 ∧ markedAssociation site f.directives = .error x) ∨
      (NeedsAssociation f ∧ RefusedFor options site entities f x) := by
  have hprimitive : ¬ Primitive.isName f.type.base = true ↔
      ∀ p : Primitive, f.type.base ≠ p.name := by
    rw [Primitive.isName_iff, not_exists]
  rw [elaborateField_result]
  by_cases hshallow : f.type.lists < 32
  · have hdeep : ¬ 32 ≤ f.type.lists := Nat.not_le.mpr hshallow
    rw [if_pos hshallow, bind_eq_error, inferAssociation_eq_error]
    constructor
    · intro hx
      rcases hx with hx | ⟨marked, hmarked, hx⟩
      · exact .inr (.inl ⟨hshallow, hx⟩)
      · obtain ⟨hagree, -⟩ := inferAssociation_eq_ok.mp hmarked
        rw [bind_eq_error] at hx
        rcases hx with hx | ⟨-, -, hx⟩
        · obtain ⟨hentity, hrefused⟩ := checkField_eq_error.mp hx
          exact .inr (.inr ⟨⟨hshallow, hagree, hprimitive.mp hentity⟩,
            hrefused⟩)
        · cases hx
    · intro hx
      rcases hx with ⟨hx, -⟩ | ⟨-, hx⟩ | ⟨hneeds, hrefused⟩
      · exact absurd hx hdeep
      · exact .inl hx
      · right
        refine ⟨_, inferAssociation_eq_ok.mpr ⟨hneeds.agree, rfl⟩, ?_⟩
        rw [bind_eq_error]
        left
        exact checkField_eq_error.mpr
          ⟨hprimitive.mpr hneeds.entity, hrefused⟩
  · rw [if_neg hshallow]
    constructor
    · intro hx
      cases hx
      exact .inl ⟨Nat.not_lt.mp hshallow, rfl⟩
    · intro hx
      rcases hx with ⟨-, rfl⟩ | ⟨hx, -⟩ | ⟨hneeds, -⟩
      · rfl
      · exact absurd hx hshallow
      · exact absurd hneeds.shallow hshallow

/-- The field that is made is the one that can be written down. -/
theorem elaborateField_eq_ok
    (h : (elaborateField options entities site f).result = .ok field) :
    field = fieldOf options f ∧
      (Primitive.isName f.type.base = true ∨
        ∃ kind, associationOf options f = some kind ∧
          kind.isMany = decide (0 < f.type.lists) ∧
          f.type.base ∈ entities) := by
  rw [elaborateField_result] at h
  split at h
  · rw [bind_eq_ok] at h
    obtain ⟨-, -, h⟩ := h
    rw [bind_eq_ok] at h
    obtain ⟨u, hcheck, h⟩ := h
    cases h
    exact ⟨rfl, checkField_eq_ok hcheck⟩
  · cases h

/-- The rules for a field, reason by reason. -/
theorem fault_field_iff {docs : List Document} {entity : String}
    {f : Placed FieldDefinition}
    (hentities : ∀ n, n ∈ entities ↔ ∃ t ∈ baseTypes docs, t.value.name = n) :
    Fault options docs (.field entity f) x ↔
      (32 ≤ f.value.type.lists ∧
        x = .nestingTooDeep (siteOf entity f) 32) ∨
      (f.value.type.lists < 32 ∧
        markedAssociation (siteOf entity f) f.value.directives = .error x) ∨
      (NeedsAssociation f.value ∧
        RefusedFor options (siteOf entity f) entities f.value x) := by
  have hunknown : f.value.type.base ∉ entities ↔
      ∀ t ∈ baseTypes docs, t.value.name ≠ f.value.type.base := by
    rw [hentities]
    simp
  constructor
  · intro hx
    cases hx with
    | nestingTooDeep hdeep => exact .inl ⟨hdeep, rfl⟩
    | conflictingMarkers hshallow hsplit hsame hother =>
        exact .inr (.inl ⟨hshallow, markedAssociation_eq_error.mpr
          ⟨_, _, _, _, hsplit, hsame, hother, rfl⟩⟩)
    | missingAssociation hneeds hnone =>
        exact .inr (.inr ⟨hneeds, .inl ⟨hnone, rfl⟩⟩)
    | listOfOne hneeds hkind hlist hone =>
        exact .inr (.inr ⟨hneeds, .inr ⟨_, hkind, .inl ⟨hlist, hone, rfl⟩⟩⟩)
    | scalarOfMany hneeds hkind hscalar hmany =>
        exact .inr (.inr ⟨hneeds, .inr ⟨_, hkind,
          .inr (.inl ⟨hscalar, hmany, rfl⟩)⟩⟩)
    | unknownType hneeds hkind hmany htarget =>
        exact .inr (.inr ⟨hneeds, .inr ⟨_, hkind,
          .inr (.inr ⟨hmany, hunknown.mpr htarget, rfl⟩)⟩⟩)
  · intro hx
    rcases hx with ⟨hdeep, rfl⟩ | ⟨hshallow, hx⟩ | ⟨hneeds, hrefused⟩
    · exact .nestingTooDeep hdeep
    · obtain ⟨first, second, same, later, hsplit, hsame, hother, rfl⟩ :=
        markedAssociation_eq_error.mp hx
      exact .conflictingMarkers hshallow hsplit hsame hother
    · rcases hrefused with ⟨hnone, rfl⟩ | ⟨kind, hkind, hreason⟩
      · exact .missingAssociation hneeds hnone
      · rcases hreason with ⟨hlist, hone, rfl⟩ | ⟨hscalar, hmany, rfl⟩ |
          ⟨hmany, htarget, rfl⟩
        · exact .listOfOne hneeds hkind hlist hone
        · exact .scalarOfMany hneeds hkind hscalar hmany
        · exact .unknownType hneeds hkind hmany (hunknown.mp htarget)

/-- Elaborating a field fails with the fault that the rules know for it. -/
theorem elaborateField_fault {docs : List Document} {entity : String}
    {f : Placed FieldDefinition}
    (hentities : ∀ n, n ∈ entities ↔ ∃ t ∈ baseTypes docs, t.value.name = n) :
    (elaborateField options entities (siteOf entity f) f.value).result
        = .error x ↔
      Fault options docs (.field entity f) x := by
  rw [elaborateField_eq_error, fault_field_iff hentities]

end Checks

end SchemaTables.Elaboration
