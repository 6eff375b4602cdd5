/-
  SchemaTables.Proofs.Elaboration.Gathering
  ─────────────────────────────────────────
  **GATHERING REPORTS THE FIRST FAULT.**

  Gathering folds over the types, then over the extensions.  The declarations
  so far stand side by side with the types that they are made of
  (`Declares`): each has the name and the plural of its type, and the fields
  of it and of the extensions that are done.  From this it can be read off
  what a step does and which fault it finds, without a look at the steps
  before.

  `gather_eq_ok` says what is gathered, `gather_reports` when nothing is.
-/
import SchemaTables.Proofs.Elaboration.Faults

namespace SchemaTables.Elaboration

open Sdl

/-! ## §1. Types and extensions. -/

theorem contains_rootTypes (docs : List Document) (name : String) :
    (rootTypes docs).contains name = decide (IsRoot docs name) := by
  rw [List.contains_eq_mem]
  apply decide_eq_decide.mpr
  unfold rootTypes
  rw [List.mem_append, List.mem_flatMap]
  rfl

theorem filter_entityTypes (docs : List Document) :
    ((entityTypes docs).filter fun o => !o.value.isExtension)
        = baseTypes docs ∧
      ((entityTypes docs).filter fun o => o.value.isExtension)
        = extensions docs := by
  unfold entityTypes baseTypes extensions
  simp only [List.filter_filter, contains_rootTypes]
  constructor
  · apply List.filter_congr
    intro o _
    cases o.value.isExtension <;> simp
  · apply List.filter_congr
    intro o _
    cases o.value.isExtension <;> simp

/-- The declaration `d` is made of the type `o` and of those of the
extensions that are for it. -/
structure Declares (exts : List (Placed ObjectType)) (o : Placed ObjectType)
    (d : Declaration) : Prop where
  name : d.name = o.value.name
  plural : declaredPlural o = .ok d.plural
  fields : d.fields = mergedFields exts o

section Gathered

variable {options : Options} {docs : List Document}
  {exts types : List (Placed ObjectType)} {o : Placed ObjectType}
  {ds ds' : List Declaration} {n : String} {x : ElaborationError}

theorem isDeclared_iff (h : List.Forall₂ (Declares exts) types ds) :
    isDeclared n ds = true ↔ ∃ t ∈ types, t.value.name = n := by
  unfold isDeclared
  rw [List.any_eq_true]
  constructor
  · intro hx
    obtain ⟨d, hd, hname⟩ := hx
    rw [decide_eq_true_eq] at hname
    obtain ⟨t, ht, hdeclares⟩ := exists_left_of_forall₂ h d hd
    exact ⟨t, ht, by rw [← hdeclares.name, hname]⟩
  · intro hx
    obtain ⟨t, ht, hname⟩ := hx
    obtain ⟨d, hd, hdeclares⟩ := exists_right_of_forall₂ h t ht
    exact ⟨d, hd, by rw [decide_eq_true_eq, hdeclares.name, hname]⟩

/-- The names of the declarations are those of the types. -/
theorem mem_names_iff (h : List.Forall₂ (Declares exts) types ds)
    (n : String) :
    n ∈ ds.map Declaration.name ↔ ∃ t ∈ types, t.value.name = n := by
  rw [← isDeclared_iff h]
  simp [isDeclared]

/-! ## §2. One type. -/

/-- The first directive for a plural. -/
theorem find?_isPlural_eq_some {directives : List Directive}
    {d : Directive} :
    directives.find? isPlural = some d ↔
      ∃ before after, directives = before ++ d :: after ∧
        (∀ d' ∈ before, d'.name ≠ "plural") ∧ d.name = "plural" := by
  rw [List.find?_eq_some_iff_append]
  simp only [isPlural, decide_eq_true_eq, Bool.not_eq_true',
    decide_eq_false_iff_not]
  constructor
  · intro hx
    obtain ⟨hd, before, after, hsplit, hbefore⟩ := hx
    exact ⟨before, after, hsplit, hbefore, hd⟩
  · intro hx
    obtain ⟨before, after, hsplit, hbefore, hd⟩ := hx
    exact ⟨hd, before, after, hsplit, hbefore⟩

/-- A declared plural is refused where the first directive for it has no
name. -/
theorem declaredPlural_eq_error :
    declaredPlural o = .error x ↔
      x = .invalidPlural o.value.name .noName o.typeLocation ∧
        ∃ before d after, o.value.directives = before ++ d :: after ∧
          (∀ d' ∈ before, d'.name ≠ "plural") ∧ d.name = "plural" ∧
          ∀ text, d.argument? "name" = some (.string text) → text = "" := by
  constructor
  · intro hx
    unfold declaredPlural at hx
    split at hx
    · cases hx
    · next d hd =>
        obtain ⟨before, after, hsplit, hbefore, hname⟩ :=
          find?_isPlural_eq_some.mp hd
        -- an argument that is a string is told from all others
        split at hx
        · next plural harg =>
            split at hx
            · next hempty =>
                cases hx
                refine ⟨rfl, before, d, after, hsplit, hbefore, hname, ?_⟩
                intro text htext
                rw [harg] at htext
                cases htext
                exact String.isEmpty_iff.mp hempty
            · cases hx
        · next hother =>
            cases hx
            refine ⟨rfl, before, d, after, hsplit, hbefore, hname, ?_⟩
            intro text htext
            exact absurd htext (hother text)
  · intro hx
    obtain ⟨rfl, before, d, after, hsplit, hbefore, hname, hnone⟩ := hx
    have hfirst : o.value.directives.find? isPlural = some d :=
      find?_isPlural_eq_some.mpr ⟨before, after, hsplit, hbefore, hname⟩
    unfold declaredPlural
    rw [hfirst]
    dsimp only
    split
    · next plural harg =>
        rw [if_pos (String.isEmpty_iff.mpr (hnone plural harg))]
    · rfl

/-- A type is declared only if there is none of its name. -/
theorem isDeclared_of_declare (h : declare ds o = .ok ds') :
    isDeclared o.value.name ds = false := by
  unfold declare at h
  split at h
  · cases h
  · next hnew => exact Bool.not_eq_true _ ▸ hnew

/-- A new type is declared after the others. -/
theorem declares_declare (hds : List.Forall₂ (Declares []) types ds)
    (h : declare ds o = .ok ds') :
    List.Forall₂ (Declares []) (types ++ [o]) ds' := by
  unfold declare at h
  split at h
  · cases h
  · rw [bind_eq_ok] at h
    obtain ⟨plural, hplural, h⟩ := h
    cases h
    have hfields : placedFields o = mergedFields [] o := by
      unfold mergedFields
      rw [List.filter_nil, List.flatMap_nil, List.append_nil]
    exact List.rel_append hds (.cons ⟨rfl, hplural, hfields⟩ .nil)

theorem declare_fault (h : List.Forall₂ (Declares []) types ds) :
    declare ds o = .error x ↔ Fault options docs (.type types o) x := by
  have htaken := isDeclared_iff (n := o.value.name) h
  constructor
  · intro hx
    unfold declare at hx
    split at hx
    · next hdeclared =>
        cases hx
        exact .duplicateType (htaken.mp hdeclared)
    · next hnew =>
        rw [bind_eq_error] at hx
        rcases hx with hx | ⟨plural, -, hx⟩
        · obtain ⟨rfl, before, d, after, hsplit, hbefore, hd, hnone⟩ :=
            declaredPlural_eq_error.mp hx
          refine .nameless ?_ hsplit hbefore hd hnone
          intro t ht hname
          exact hnew (htaken.mpr ⟨t, ht, hname⟩)
        · cases hx
  · intro hx
    unfold declare
    cases hx with
    | duplicateType hearlier =>
        rw [if_pos (htaken.mpr hearlier)]
        rfl
    | nameless hnew hsplit hbefore hd hnone =>
        have hfree : ¬ isDeclared o.value.name ds = true := by
          intro hdeclared
          obtain ⟨t, ht, hname⟩ := htaken.mp hdeclared
          exact hnew t ht hname
        rw [if_neg hfree, bind_eq_error]
        left
        exact declaredPlural_eq_error.mpr
          ⟨rfl, _, _, _, hsplit, hbefore, hd, hnone⟩

/-! ## §3. One extension. -/

/-- An extension adds its fields after those of the extensions before. -/
theorem declares_addFields (h : List.Forall₂ (Declares exts) types ds) :
    List.Forall₂ (Declares (exts ++ [o])) types (addFields o ds) := by
  unfold addFields
  rw [List.forall₂_map_right_iff]
  apply h.imp
  intro t d hd
  have hmerged : mergedFields (exts ++ [o]) t = mergedFields exts t ++
      if d.name = o.value.name then placedFields o else [] := by
    unfold mergedFields
    rw [List.filter_append, List.flatMap_append, List.append_assoc, hd.name]
    by_cases hname : t.value.name = o.value.name
    · simp [hname]
    · have hname' : ¬ o.value.name = t.value.name := fun e => hname e.symm
      simp [hname, hname']
  split
  · next hname =>
      refine ⟨hd.name, hd.plural, ?_⟩
      rw [hmerged, if_pos hname, ← hd.fields]
  · next hname =>
      refine ⟨hd.name, hd.plural, ?_⟩
      rw [hmerged, if_neg hname, List.append_nil, hd.fields]

theorem declares_extendWith (hds : List.Forall₂ (Declares exts) types ds)
    (h : extendWith ds o = .ok ds') :
    List.Forall₂ (Declares (exts ++ [o])) types ds' := by
  unfold extendWith at h
  split at h
  · cases h
  · split at h
    · cases h
      exact declares_addFields hds
    · cases h

theorem extendWith_fault
    (h : List.Forall₂ (Declares exts) (baseTypes docs) ds) :
    extendWith ds o = .error x ↔ Fault options docs (.extension o) x := by
  have hknown := isDeclared_iff (n := o.value.name) h
  have hplural : o.value.directives.any isPlural = true ↔
      ∃ d ∈ o.value.directives, d.name = "plural" := by
    simp [isPlural]
  unfold extendWith
  constructor
  · intro hx
    split at hx
    · next hd =>
        cases hx
        exact .pluralOnExtension (hplural.mp hd)
    · next hnone =>
        split at hx
        · cases hx
        · next hunknown =>
            cases hx
            refine .extendsUnknownType ?_ ?_
            · intro d hd hname
              exact hnone (hplural.mpr ⟨d, hd, hname⟩)
            · intro t ht hname
              exact hunknown (hknown.mpr ⟨t, ht, hname⟩)
  · intro hx
    cases hx with
    | pluralOnExtension hd =>
        rw [if_pos (hplural.mpr hd)]
    | extendsUnknownType hnone hunknown =>
        have hnone' : ¬ o.value.directives.any isPlural = true := by
          intro hany
          obtain ⟨d, hd, hname⟩ := hplural.mp hany
          exact hnone d hd hname
        have hunknown' : ¬ isDeclared o.value.name ds = true := by
          intro hdeclared
          obtain ⟨t, ht, hname⟩ := hknown.mp hdeclared
          exact hunknown t ht hname
        rw [if_neg hnone', if_neg hunknown']

/-! ## §4. The names of fields. -/

/-- A field is reported as repeated if and only if it is the first one whose
name is that of a field before it. -/
theorem repeatedField?_reports (options : Options) (docs : List Document)
    (entity : String) :
    ∀ (fs earlier : List (Placed FieldDefinition)) (seen : List String),
      (∀ m, m ∈ seen ↔ ∃ g ∈ earlier, g.value.name = m) →
      ∀ x, (∃ f, repeatedField? seen fs = some f ∧
          x = .duplicateField (siteOf entity f)) ↔
        FirstFault (Fault options docs)
          ((withEarlier earlier fs).map fun p =>
            .fieldName entity p.1 p.2) x
  | [], earlier, seen, _, x => by
      constructor
      · intro hx
        obtain ⟨f, hf, -⟩ := hx
        cases hf
      · intro hx
        exact absurd hx not_firstFault_nil
  | f :: rest, earlier, seen, hseen, x => by
      have hhere : ∀ y, Fault options docs (.fieldName entity earlier f) y ↔
          f.value.name ∈ seen ∧ y = .duplicateField (siteOf entity f) := by
        intro y
        rw [hseen]
        constructor
        · intro hy
          cases hy with
          | duplicateField htaken => exact ⟨htaken, rfl⟩
        · intro hy
          obtain ⟨htaken, rfl⟩ := hy
          exact .duplicateField htaken
      have hnext : ∀ m, m ∈ f.value.name :: seen ↔
          ∃ g ∈ earlier ++ [f], g.value.name = m := by
        intro m
        simp [hseen, or_comm, eq_comm]
      have ih := repeatedField?_reports options docs entity rest
        (earlier ++ [f]) _ hnext x
      rw [withEarlier, List.map_cons, firstFault_cons, ← ih, hhere,
        repeatedField?]
      by_cases hf : f.value.name ∈ seen
      · simp [hf, hhere]
      · simp [hf, hhere]

theorem checkDistinct_reports {d : Declaration} (h : Declares exts o d)
    (hexts : exts = extensions docs) :
    Reports (Fault options docs) (fieldNameChecks docs o)
      (checkDistinct d) := by
  intro x
  subst hexts
  have hfields := repeatedField?_reports options docs d.name d.fields [] []
    (by simp) x
  unfold fieldNameChecks
  rw [← h.fields, ← h.name, ← hfields]
  unfold checkDistinct
  cases repeatedField? [] d.fields with
  | none => simp
  | some f =>
      simp only [Except.error.injEq, Option.some.injEq, exists_eq_left']
      rw [eq_comm]
      rfl

end Gathered

/-! ## §5. All declarations. -/

section Gather

variable {options : Options} {docs : List Document}
  {exts types : List (Placed ObjectType)} {ds ds' : List Declaration}

theorem declares_declareAll (h : types.foldlM declare [] = .ok ds) :
    List.Forall₂ (Declares []) types ds := by
  apply foldlM_invariant (List.Forall₂ (Declares [])) .nil _ h
  intro done o ds ds' _ hds hstep
  exact declares_declare hds hstep

theorem declares_extendAll (hds : List.Forall₂ (Declares []) types ds)
    (h : exts.foldlM extendWith ds = .ok ds') :
    List.Forall₂ (Declares exts) types ds' := by
  apply foldlM_invariant
    (fun done ds => List.Forall₂ (Declares done) types ds) hds _ h
  intro done o ds ds' _ hds hstep
  exact declares_extendWith hds hstep

/-- Types that are declared have distinct names. -/
theorem names_nodup_of_declareAll (h : types.foldlM declare [] = .ok ds) :
    (types.map fun o => o.value.name).Nodup := by
  have hboth : List.Forall₂ (Declares []) types ds ∧
      (types.map fun o => o.value.name).Nodup := by
    apply foldlM_invariant (fun done ds => List.Forall₂ (Declares []) done ds ∧
      (done.map fun o => o.value.name).Nodup) ⟨.nil, .nil⟩ _ h
    intro done o ds ds' _ hdone hstep
    obtain ⟨hds, hnodup⟩ := hdone
    refine ⟨declares_declare hds hstep, ?_⟩
    have hnew := isDeclared_of_declare hstep
    rw [List.map_append, List.nodup_append]
    refine ⟨hnodup, List.pairwise_singleton _ _, ?_⟩
    intro n hn n' hn' heq
    rw [List.map_singleton, List.mem_singleton] at hn'
    obtain ⟨t, ht, rfl⟩ := List.mem_map.mp hn
    rw [(isDeclared_iff hds).mpr ⟨t, ht, heq.trans hn'⟩] at hnew
    cases hnew
  exact hboth.2

/-- The types report their faults in order. -/
theorem declareAll_reports (types : List (Placed ObjectType)) :
    Reports (Fault options docs)
      ((withEarlier [] types).map fun p => .type p.1 p.2)
      (types.foldlM declare []) := by
  apply Reports.foldlM (List.Forall₂ (Declares [])) Check.type
  · intro done o ds ds' hds hstep
    exact declares_declare hds hstep
  · intro done o ds hds x
    exact declare_fault hds
  · exact .nil

/-- The extensions report their faults in order, once all types are
declared. -/
theorem extendAll_reports (exts : List (Placed ObjectType))
    (hds : List.Forall₂ (Declares []) (baseTypes docs) ds) :
    Reports (Fault options docs) (exts.map .extension)
      (exts.foldlM extendWith ds) := by
  rw [← map_withEarlier Check.extension exts []]
  apply Reports.foldlM
    (fun done ds => List.Forall₂ (Declares done) (baseTypes docs) ds)
    (fun _ o => Check.extension o)
  · intro done o ds ds' hds hstep
    exact declares_extendWith hds hstep
  · intro done o ds hds x
    exact extendWith_fault hds
  · exact hds

/-- Gathering in terms of types and extensions. -/
theorem gather_eq (docs : List Document) :
    gather docs = (baseTypes docs).foldlM declare [] >>= fun declared =>
      (extensions docs).foldlM extendWith declared >>= fun merged => do
        merged.forM checkDistinct
        return merged := by
  obtain ⟨hbase, hexts⟩ := filter_entityTypes docs
  unfold gather
  dsimp only
  rw [hbase, hexts]

/-- What is gathered is made of the types and of all of their extensions. -/
theorem gather_eq_ok (h : gather docs = .ok ds) :
    List.Forall₂ (Declares (extensions docs)) (baseTypes docs) ds := by
  rw [gather_eq, bind_eq_ok] at h
  obtain ⟨declared, hdeclared, h⟩ := h
  rw [bind_eq_ok] at h
  obtain ⟨merged, hmerged, h⟩ := h
  rw [bind_eq_ok] at h
  obtain ⟨-, -, h⟩ := h
  cases h
  exact declares_extendAll (declares_declareAll hdeclared) hmerged

/-- The types that entities are gathered from have distinct names. -/
theorem names_nodup_of_gather (h : gather docs = .ok ds) :
    ((baseTypes docs).map fun o => o.value.name).Nodup := by
  rw [gather_eq, bind_eq_ok] at h
  obtain ⟨declared, hdeclared, -⟩ := h
  exact names_nodup_of_declareAll hdeclared

/-- Gathering fails with the first fault, and with nothing else. -/
theorem gather_reports :
    Reports (Fault options docs) (gatherChecks docs) (gather docs) := by
  rw [gather_eq]
  unfold gatherChecks
  apply (declareAll_reports (baseTypes docs)).bind
  intro declared hdeclared
  have hds := declares_declareAll hdeclared
  apply (extendAll_reports (extensions docs) hds).bind
  intro merged hmerged
  have hall := declares_extendAll hds hmerged
  apply Reports.map
  apply Reports.forM
  exact hall.imp fun o d hd => checkDistinct_reports hd rfl

end Gather

end SchemaTables.Elaboration
