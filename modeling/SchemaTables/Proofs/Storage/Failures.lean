/-
  SchemaTables.Proofs.Storage.Failures
  ────────────────────────────────────
  **WHY THE STORAGE OF A TYPED SCHEMA FAILS.**

  Storing looks up the primitive type of every plain field, and the table and
  the key of both ends of every association.  In a schema that is well keyed
  and well typed none of these lookups fails: plain fields are primitive, all
  tables are laid out before the first association, and a table that stores an
  entity never loses its key.  What is left are four reasons, which lie in the
  names and in the associations of the schema (`Refusal`):

      a primary key that is a list       a name that two columns would have
      a table with two purposes          an association with two other sides

  A schema from documents is such a schema (`build_failures`).
-/
import SchemaTables.Proofs.Elaboration.Typing
import SchemaTables.Proofs.Storage.Build

namespace SchemaTables.Storage

open Sdl Elaboration

/-! ## §1. The reasons. -/

/-- A reason for which a schema without unknown types cannot be stored. -/
inductive Refusal (s : Schema) : StorageError → Prop where
  | listKey {e : Entity} {f : Field} (he : e ∈ s.toList)
      (hf : f ∈ e.primitiveFields) (hkey : f.name = keyField)
      (hlist : f.isList = true) : Refusal s (.listKey e.name f.name)
  | columnConflict (table column : String) :
      Refusal s (.columnConflict table column)
  | duplicateTable (table : String) : Refusal s (.duplicateTable table)
  | ambiguous {e : Entity} {f : Field} {kind : Association}
      (ha : (e, f, kind) ∈ s.associations) :
      Refusal s (.ambiguous e.name f.name f.baseType)

/-! ## §2. Laying out the tables. -/

section Layout

variable {s : Schema} {P : StorageError → Prop} {e : Entity} {f : Field}

theorem addColumn_failsAs (hconflict : ∀ t c, P (.columnConflict t c))
    (t : Table) (new : Column) : FailsAs P (t.addColumn new) := by
  unfold Table.addColumn
  split
  · exact .ofOk rfl
  · exact .ofError (hconflict _ _)

theorem entityTable_failsAs (hconflict : ∀ t c, P (.columnConflict t c))
    (hfield : ∀ f ∈ e.primitiveFields, FailsAs P (fieldColumn e f)) :
    FailsAs P (entityTable e) := by
  unfold entityTable
  apply FailsAs.bind
  · apply FailsAs.foldlM
    intro done f rest t hsplit _
    have hf : f ∈ e.primitiveFields := by
      rw [hsplit]
      simp
    exact (hfield f hf).bind fun c _ => addColumn_failsAs hconflict t c
  · -- a column that is in the way of the numbered key
    intro t _
    unfold withKey
    split
    · split
      · exact .ofError (hconflict _ _)
      · exact .ofOk rfl
    · exact .ofOk rfl

/-- Laying out fails for a field that no column can hold, and for names that
clash. -/
theorem layOut_failsAs (hconflict : ∀ t c, P (.columnConflict t c))
    (hduplicate : ∀ t, P (.duplicateTable t))
    (hfield : ∀ e ∈ s.toList, ∀ f ∈ e.primitiveFields,
      FailsAs P (fieldColumn e f)) : FailsAs P (layOut s) := by
  apply FailsAs.foldlM
  intro done e rest d hsplit _
  have he : e ∈ s.toList := by
    rw [hsplit]
    simp
  apply (entityTable_failsAs hconflict (hfield e he)).bind
  intro t _
  unfold Draft.addEntityTable
  split
  · exact .ofError (hduplicate _)
  · exact .ofOk rfl

/-- A field that is no association has a primitive type, so that a column can
hold it. -/
theorem fieldColumn_failsAs (htyped : s.WellTyped) (he : e ∈ s.toList)
    (hf : f ∈ e.primitiveFields) : FailsAs (Refusal s) (fieldColumn e f) := by
  obtain ⟨hmem, hplain⟩ := List.mem_filter.mp hf
  have hprimitive : f.primitive?.isSome = true :=
    Primitive.isName_iff.mpr
      ((htyped.plain e he f hmem).mp (Option.isNone_iff_eq_none.mp hplain))
  unfold fieldColumn
  split
  · next hnone =>
      rw [hnone] at hprimitive
      cases hprimitive
  · split
    · next hkey =>
        rw [Bool.and_eq_true, decide_eq_true_eq] at hkey
        exact .ofError (.listKey he hf hkey.1 hkey.2)
    · exact .ofOk rfl

end Layout

/-! ## §3. Storing the associations. -/

section Links

variable {s : Schema} {done : List (Entity × Field × Association)}
  {d : Draft} {rels : List Relation} {e : Entity} {f : Field}
  {kind : Association}

theorem foreignName_failsAs (ha : (e, f, kind) ∈ s.associations) :
    FailsAs (Refusal s) (foreignName s e f) := by
  unfold foreignName
  split
  · exact .ofOk rfl
  · exact .ofOk rfl
  · exact .ofOk rfl
  · exact .ofError (.ambiguous ha)

theorem sharesJoinTable_failsAs (ha : (e, f, kind) ∈ s.associations) :
    FailsAs (Refusal s) (sharesJoinTable s e f) := by
  unfold sharesJoinTable
  dsimp only
  split
  · exact .ofOk rfl
  · split
    · exact .ofOk rfl
    · split
      · exact .ofOk rfl
      · exact .ofError (.ambiguous ha)

theorem joinTable_failsAs {P : StorageError → Prop}
    (hduplicate : ∀ t, P (.duplicateTable t)) (d : Draft) (n : String)
    (shared : Bool) : FailsAs P (joinTable d n shared) := by
  unfold joinTable
  split
  · exact .ofOk rfl
  · split
    · exact .ofOk rfl
    · exact .ofError (hduplicate n)

/-- Storing an association finds all that it looks up, so that it fails for
the names of what it adds only. -/
theorem Running.link_failsAs (hrunning : Running s done d rels)
    (hkeyed : s.WellKeyed) (htyped : s.WellTyped)
    (ha : (e, f, kind) ∈ s.associations) :
    FailsAs (Refusal s) (link s d e f kind) := by
  obtain ⟨he, hf⟩ := Schema.mem_associations.mp ha
  obtain ⟨hfield, hkind⟩ := Entity.mem_associations.mp hf
  obtain ⟨target, htarget, hname⟩ := htyped.target e he f hfield kind hkind
  have hself := hkeyed.get?_name he
  have hother := hname ▸ hkeyed.get?_name htarget
  obtain ⟨key, type, hkey, -⟩ := hrunning.keyFound hkeyed hself e f
  obtain ⟨tkey, ttype, htkey, -⟩ := hrunning.keyFound hkeyed hother e f
  obtain ⟨t, ht, -⟩ := hrunning.tableFound hkeyed hself e f
  obtain ⟨u, hu, -⟩ := hrunning.tableFound hkeyed hother e f
  have hhas : FailsAs (Refusal s) (linkHas s d e f) := by
    unfold linkHas
    refine (FailsAs.ofOk hkey).bind ?_
    intro key _
    apply (foreignName_failsAs ha).bind
    intro name _
    refine (FailsAs.ofOk hu).bind ?_
    intro u _
    exact (addColumn_failsAs .columnConflict u _).bind fun _ _ => .ofOk rfl
  cases kind with
  | hasOne => exact hhas
  | hasMany => exact hhas
  | belongsTo =>
      unfold link linkBelongsTo
      refine (FailsAs.ofOk htkey).bind ?_
      intro key _
      refine (FailsAs.ofOk ht).bind ?_
      intro t _
      exact (addColumn_failsAs .columnConflict t _).bind fun _ _ => .ofOk rfl
  | belongsToMany =>
      unfold link linkBelongsToMany
      refine (FailsAs.ofOk hkey).bind ?_
      intro key _
      refine (FailsAs.ofOk htkey).bind ?_
      intro tkey _
      apply (sharesJoinTable_failsAs ha).bind
      intro shared _
      apply (joinTable_failsAs (P := Refusal s) .duplicateTable d _ shared).bind
      intro t _
      apply (addColumn_failsAs (P := Refusal s) .columnConflict t _).bind
      intro t₁ _
      exact (addColumn_failsAs .columnConflict t₁ _).bind fun _ _ =>
        .ofOk rfl

end Links

/-! ## §4. The whole schema. -/

/-- A typed schema that cannot be stored is refused for one of the four
reasons. -/
theorem build_failsAs {s : Schema} (hkeyed : s.WellKeyed)
    (htyped : s.WellTyped) : FailsAs (Refusal s) (build s) := by
  have hlayOut : FailsAs (Refusal s) (layOut s) :=
    layOut_failsAs .columnConflict .duplicateTable fun _ he _ hf =>
      fieldColumn_failsAs htyped he hf
  apply hlayOut.bind
  intro d₀ hlay
  apply FailsAs.bind
  · apply FailsAs.foldlM
    intro done a rest st has hrun
    obtain ⟨d, rels⟩ := st
    -- the associations that are done have come to this draft
    have hrunning : Running s done d rels := by
      apply linkAll_running
      unfold linkAll
      rw [bind_of_ok hlay]
      exact hrun
    exact (hrunning.link_failsAs hkeyed htyped (mem_of_split has).2).bind
      fun _ _ => .ofOk rfl
  · intro st _
    exact .ofOk rfl

/-- Storing a schema from documents never fails for an unknown entity or for
a column type: only for a list as a key, for names that clash, or for an
association with several other sides. -/
theorem build_failures {options : Options} {docs : List Document}
    {s : Schema} (hs : (elaborate options docs).result = .ok s) :
    (∀ e f t, build s ≠ .error (.unknownEntity e f t)) ∧
      (∀ e f t, build s ≠ .error (.unknownColumnType e f t)) ∧
      ∀ x, build s = .error x → Refusal s x := by
  have hrefusal : FailsAs (Refusal s) (build s) :=
    build_failsAs (wellKeyed_of_elaborate hs) (wellTyped_of_elaborate hs)
  refine ⟨?_, ?_, hrefusal⟩
  · intro e f t h
    cases hrefusal _ h
  · intro e f t h
    cases hrefusal _ h

/-! ## §5. Documents that cannot be stored. -/

/-- The schema that documents declare, with why it cannot be stored. -/
def failureOf (docs : List Document) : Option (Schema × StorageError) := do
  let s ← (elaborate {} docs).result.toOption
  match build s with
  | .ok _ => none
  | .error x => some (s, x)

theorem failureOf_eq_some {docs : List Document} {s : Schema}
    {x : StorageError} (h : failureOf docs = some (s, x)) :
    (elaborate {} docs).result = .ok s ∧ build s = .error x := by
  unfold failureOf at h
  simp only [bind, Option.bind_eq_some_iff, toOption_eq_some] at h
  obtain ⟨s', hs, h⟩ := h
  split at h
  · cases h
  · next hx =>
      cases h
      exact ⟨hs, hx⟩

/-- One document for each reason. -/
def unstorable : List Document :=
  [ { definitions :=
        [ objectType "Tag" "Tags"
            [ { plainField "id" "ID" with
                type := .list (.named "ID" true) true } ] ] },
    { definitions :=
        [ objectType "Book" "Books"
            [plainField "leadAuthor" "String",
              plainField "lead_author" "String"] ] },
    { definitions :=
        [ objectType "Book" "Books" [plainField "id" "ID"],
          objectType "Album" "Books" [plainField "id" "ID"] ] },
    { definitions :=
        [ objectType "Author" "Authors"
            [ associationTo "Book" "books" .hasMany,
              associationTo "Book" "reviewed" .hasMany ],
          objectType "Book" "Books"
            [associationTo "Author" "author" .belongsTo] ] } ]

/-- The reasons, document by document. -/
def unstorableReasons : List StorageError :=
  [ .listKey "Tag" "id",
    .columnConflict "books" "lead_author",
    .duplicateTable "books",
    .ambiguous "Author" "books" "Book" ]

/-- Each of the four reasons occurs. -/
theorem build_failures_unstorable :
    List.Forall₂
      (fun d x => ∃ s, (elaborate {} [d]).result = .ok s ∧
        build s = .error x ∧
        (∀ e f t, build s ≠ .error (.unknownEntity e f t)) ∧
          (∀ e f t, build s ≠ .error (.unknownColumnType e f t)) ∧
          ∀ y, build s = .error y → Refusal s y)
      unstorable unstorableReasons := by
  have hrun : unstorable.map (fun d => (failureOf [d]).map Prod.snd) =
      unstorableReasons.map some := by
    decide +kernel
  rw [← List.forall₂_eq_eq_eq, List.forall₂_map_left_iff,
    List.forall₂_map_right_iff] at hrun
  apply hrun.imp
  intro d x hx
  obtain ⟨⟨s, x⟩, hfailure, rfl⟩ := Option.map_eq_some_iff.mp hx
  obtain ⟨hs, hx⟩ := failureOf_eq_some hfailure
  exact ⟨s, hs, hx, build_failures hs⟩

end SchemaTables.Storage
