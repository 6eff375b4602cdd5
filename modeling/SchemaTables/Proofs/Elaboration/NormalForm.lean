/-
  SchemaTables.Proofs.Elaboration.NormalForm
  ──────────────────────────────────────────
  **DOCUMENTS IN NORMAL FORM.**

  An entity may be declared in pieces, over several documents and among
  definitions that declare nothing.  The normal form of documents is a single
  one that holds each object type once, with the fields of its extensions
  after its own, and nothing else.

  Where every extension is one of a declared type, the normal form elaborates
  to the same schema, with the same warnings, or to the same error; only the
  document that the error lies in is another (`elaborate_normalForm`).

  Types and extensions are gathered by two folds that never look at the number
  of a document.  With the extensions already merged, the first fold declares
  the same types with their final fields (`declare_merged`), and the second
  has nothing to do.
-/
import SchemaTables.Proofs.Elaboration.Gathering
import SchemaTables.Proofs.Elaboration.Renumbering

namespace SchemaTables.Elaboration

open Sdl

/-! ## §1. The normal form. -/

/-- Every extension is one of a declared type, and declares no plural. -/
structure ExtensionsFit (docs : List Document) : Prop where
  known : ∀ x ∈ extensions docs,
    ∃ o ∈ baseTypes docs, o.value.name = x.value.name
  plain : ∀ x ∈ extensions docs, ∀ d ∈ x.value.directives,
    d.name ≠ "plural"

/-- An object type with the fields of its extensions after its own. -/
def mergedType (exts : List (Placed ObjectType)) (o : Placed ObjectType) :
    ObjectType :=
  { o.value with fields := (mergedFields exts o).map Placed.value }

/-- The document that holds just the object types that declare entities, in
order, each with the fields of its extensions. -/
def normalForm (docs : List Document) : Document where
  definitions :=
    (baseTypes docs).map fun o => .object (mergedType (extensions docs) o)

/-- All documents are taken for the first. -/
def toFirst : Nat → Nat := fun _ => 0

/-- The same report, with any error in the first document. -/
def Report.inFirst {α : Type} (r : Report α) : Report α :=
  r.mapError (.renumber toFirst)

/-- The documents declare the same types and the same extensions, each in the
same order.  How they are divided into documents, how the types stand among
the extensions, and what else is there, may differ. -/
structure SameDeclarations (docs docs' : List Document) : Prop where
  types : (baseTypes docs').map Placed.value = (baseTypes docs).map Placed.value
  extensions :
    (extensions docs').map Placed.value = (extensions docs).map Placed.value

/-! ## §2. What the normal form declares. -/

section NormalForm

variable {docs : List Document} {name : String}

theorem mem_baseTypes {o : Placed ObjectType} (h : o ∈ baseTypes docs) :
    ¬ IsRoot docs o.value.name ∧ o.value.isExtension = false := by
  unfold baseTypes at h
  rw [List.mem_filter, decide_eq_true_eq] at h
  exact h.2

theorem objects_normalForm (docs : List Document) :
    (normalForm docs).objects =
      (baseTypes docs).map (mergedType (extensions docs)) := by
  unfold normalForm Document.objects
  rw [List.filterMap_map, ← List.filterMap_eq_map]
  rfl

/-- Without schema definitions only the usual names are roots. -/
theorem isRoot_of_normalForm (h : IsRoot [normalForm docs] name) :
    IsRoot docs name := by
  rcases h with husual | ⟨d, hd, hname⟩
  · exact .inl husual
  · rw [List.mem_singleton] at hd
    subst hd
    unfold Document.roots normalForm at hname
    rw [List.mem_flatMap] at hname
    obtain ⟨definition, hdef, hname⟩ := hname
    obtain ⟨o, -, rfl⟩ := List.mem_map.mp hdef
    cases hname

theorem objectsFrom_normalForm (docs : List Document) :
    objectsFrom 0 [normalForm docs] =
      (baseTypes docs).map fun o => ⟨0, mergedType (extensions docs) o⟩ := by
  show (normalForm docs).objects.map _ ++ [] = _
  rw [objects_normalForm, List.map_map, List.append_nil]
  rfl

theorem baseTypes_normalForm (docs : List Document) :
    baseTypes [normalForm docs] =
      (baseTypes docs).map fun o => ⟨0, mergedType (extensions docs) o⟩ := by
  have hall : ∀ o' ∈ objectsFrom 0 [normalForm docs],
      ¬ IsRoot [normalForm docs] o'.value.name ∧
        o'.value.isExtension = false := by
    intro o' ho'
    rw [objectsFrom_normalForm] at ho'
    obtain ⟨o, ho, rfl⟩ := List.mem_map.mp ho'
    obtain ⟨hroot, hbase⟩ := mem_baseTypes ho
    exact ⟨fun h => hroot (isRoot_of_normalForm h), hbase⟩
  rw [← objectsFrom_normalForm]
  exact List.filter_eq_self.mpr fun o' ho' => decide_eq_true (hall o' ho')

theorem extensions_normalForm (docs : List Document) :
    extensions [normalForm docs] = [] := by
  unfold extensions
  rw [objectsFrom_normalForm, List.filter_eq_nil_iff]
  intro o' ho' h
  obtain ⟨o, ho, rfl⟩ := List.mem_map.mp ho'
  have hbase : o.value.isExtension = false := (mem_baseTypes ho).2
  rw [decide_eq_true_eq] at h
  have hext : o.value.isExtension = true := h.2
  rw [hbase] at hext
  cases hext

end NormalForm

/-! ## §3. Gathering. -/

section Gathering

variable {docs : List Document} {exts types : List (Placed ObjectType)}
  {ds : List Declaration}

/-- A declaration with the fields of the extensions that are for it. -/
def extendedBy (exts : List (Placed ObjectType)) (d : Declaration) :
    Declaration :=
  { d with fields := d.fields ++
      (exts.filter fun x => x.value.name = d.name).flatMap placedFields }

/-- A declaration as it is made when its extensions are merged before. -/
def mergedBefore (exts : List (Placed ObjectType)) (d : Declaration) :
    Declaration :=
  (extendedBy exts d).renumber toFirst

theorem isDeclared_map {g : Declaration → Declaration}
    (hname : ∀ d, (g d).name = d.name) (n : String) :
    isDeclared n (ds.map g) = isDeclared n ds := by
  unfold isDeclared
  rw [List.any_map]
  congr
  funext d
  show decide ((g d).name = n) = _
  rw [hname]

/-- Extensions of declared types are all taken into account. -/
theorem extendAll_eq_ok :
    ∀ {exts : List (Placed ObjectType)} {ds : List Declaration},
      (∀ x ∈ exts, isDeclared x.value.name ds = true) →
      (∀ x ∈ exts, ∀ d ∈ x.value.directives, d.name ≠ "plural") →
      exts.foldlM extendWith ds = .ok (ds.map (extendedBy exts))
  | [], ds, _, _ => by
      have hsame : extendedBy [] = id := by
        funext d
        simp [extendedBy]
      rw [hsame, List.map_id]
      rfl
  | x :: exts, ds, hknown, hplain => by
      have hstep : extendWith ds x = .ok (addFields x ds) := by
        have hnone : ¬ x.value.directives.any isPlural = true := by
          simpa [isPlural] using hplain x List.mem_cons_self
        unfold extendWith
        rw [if_neg hnone, if_pos (hknown x List.mem_cons_self)]
      have hnames : ∀ n, isDeclared n (addFields x ds) = isDeclared n ds := by
        intro n
        apply isDeclared_map
        intro d
        split <;> rfl
      rw [List.foldlM_cons, bind_of_ok hstep]
      rw [extendAll_eq_ok
        (fun y hy => by rw [hnames]; exact hknown y (List.mem_cons_of_mem _ hy))
        (fun y hy => hplain y (List.mem_cons_of_mem _ hy))]
      -- the fields of `x` stand before those of the later extensions
      unfold addFields
      rw [List.map_map]
      congr 1
      apply List.map_congr_left
      intro d _
      show extendedBy exts (if d.name = x.value.name then _ else d) = _
      split
      · next hname =>
          simp [extendedBy, hname]
      · next hname =>
          have hother : ¬ x.value.name = d.name := fun h => hname h.symm
          simp [extendedBy, hother]

theorem declaredPlural_merged (exts : List (Placed ObjectType))
    (o : Placed ObjectType) :
    declaredPlural ⟨0, mergedType exts o⟩ =
      (declaredPlural o).mapError (.renumber toFirst) := by
  have hdirectives : (mergedType exts o).directives = o.value.directives := rfl
  unfold declaredPlural
  rw [hdirectives]
  cases o.value.directives.find? isPlural with
  | none => rfl
  | some d =>
      dsimp only
      split
      · split <;> rfl
      · rfl

/-- Declaring a merged type makes the declaration that is extended later
where the type is not merged. -/
theorem declare_merged (ds : List Declaration) (o : Placed ObjectType) :
    declare (ds.map (mergedBefore exts)) ⟨0, mergedType exts o⟩ =
      ((declare ds o).map (List.map (mergedBefore exts))).mapError
        (.renumber toFirst) := by
  have hdeclared : isDeclared o.value.name (ds.map (mergedBefore exts)) =
      isDeclared o.value.name ds :=
    isDeclared_map (g := mergedBefore exts) (fun _ => rfl) _
  unfold declare
  show (if isDeclared o.value.name (ds.map (mergedBefore exts)) = true then _
    else _) = _
  rw [hdeclared]
  split
  · rfl
  · show (declaredPlural ⟨0, mergedType exts o⟩ >>= _) = _
    rw [declaredPlural_merged]
    cases declaredPlural o with
    | error x => rfl
    | ok plural =>
        have hfields : placedFields ⟨0, mergedType exts o⟩ =
            (mergedFields exts o).map (Placed.renumber toFirst) := by
          show ((mergedFields exts o).map Placed.value).map _ = _
          rw [List.map_map]
          rfl
        show Except.ok _ = Except.ok _
        rw [hfields, List.map_append]
        rfl

theorem declareAll_merged (exts : List (Placed ObjectType)) :
    ∀ (types : List (Placed ObjectType)) (ds : List Declaration),
      (types.map fun o => (⟨0, mergedType exts o⟩ : Placed ObjectType)).foldlM
          declare (ds.map (mergedBefore exts)) =
        ((types.foldlM declare ds).map
          (List.map (mergedBefore exts))).mapError (.renumber toFirst)
  | [], _ => rfl
  | o :: types, ds => by
      rw [List.map_cons, List.foldlM_cons, List.foldlM_cons, declare_merged]
      cases declare ds o with
      | error x => rfl
      | ok ds' => exact declareAll_merged exts types ds'

/-- The normal form declares what the documents declare. -/
theorem gather_normalForm (h : ExtensionsFit docs) :
    gather [normalForm docs] =
      ((gather docs).map (List.map (Declaration.renumber toFirst))).mapError
        (.renumber toFirst) := by
  have hmerged := declareAll_merged (extensions docs) (baseTypes docs) []
  rw [gather_eq, gather_eq docs, baseTypes_normalForm, extensions_normalForm]
  rw [List.map_nil] at hmerged
  rw [hmerged]
  cases hdeclared : (baseTypes docs).foldlM declare [] with
  | error x => rfl
  | ok declared =>
      have hknown : ∀ x ∈ extensions docs,
          isDeclared x.value.name declared = true := fun x hx =>
        (isDeclared_iff (declares_declareAll hdeclared)).mpr (h.known x hx)
      have hextended := extendAll_eq_ok hknown h.plain
      show ((declared.map (mergedBefore (extensions docs))).forM checkDistinct
          >>= fun _ => _) =
        ((((extensions docs).foldlM extendWith declared) >>= _).map _).mapError
          _
      rw [hextended]
      have hsame : declared.map (mergedBefore (extensions docs)) =
          (declared.map (extendedBy (extensions docs))).map
            (Declaration.renumber toFirst) := by
        rw [List.map_map]
        rfl
      rw [hsame, checkAllDistinct_renumber]
      show _ = (((declared.map (extendedBy (extensions docs))).forM
        checkDistinct >>= fun _ => _).map _).mapError _
      cases (declared.map (extendedBy (extensions docs))).forM checkDistinct
        <;> rfl

end Gathering

/-! ## §4. The same declarations. -/

section Same

variable {docs docs' : List Document}

theorem objectsFrom_values :
    ∀ (docs : List Document) (n : Nat),
      (objectsFrom n docs).map Placed.value = docs.flatMap Document.objects
  | [], _ => rfl
  | d :: rest, n => by
      unfold objectsFrom
      rw [List.map_append, List.map_map, objectsFrom_values rest,
        List.flatMap_cons]
      congr 1
      exact List.map_id _

/-- Types and extensions in terms of the object types of all documents. -/
theorem values_eq (docs : List Document) :
    (baseTypes docs).map Placed.value =
        (docs.flatMap Document.objects).filter (fun o =>
          ¬ IsRoot docs o.name ∧ o.isExtension = false) ∧
      (extensions docs).map Placed.value =
        (docs.flatMap Document.objects).filter (fun o =>
          ¬ IsRoot docs o.name ∧ o.isExtension = true) := by
  rw [← objectsFrom_values docs 0, List.filter_map, List.filter_map]
  exact ⟨rfl, rfl⟩

/-- One document with the definitions of all. -/
def joined (docs : List Document) : Document :=
  ⟨docs.flatMap Document.definitions⟩

theorem objects_joined :
    ∀ docs : List Document,
      (joined docs).objects = docs.flatMap Document.objects
  | [] => rfl
  | d :: rest => by
      rw [List.flatMap_cons, ← objects_joined rest]
      exact List.filterMap_append

theorem roots_joined :
    ∀ docs : List Document, (joined docs).roots = docs.flatMap Document.roots
  | [] => rfl
  | d :: rest => by
      rw [List.flatMap_cons, ← roots_joined rest]
      exact List.flatMap_append

theorem isRoot_iff_joined {name : String} :
    IsRoot docs name ↔
      name ∈ ["Query", "Mutation", "Subscription"] ∨
        name ∈ (joined docs).roots := by
  rw [roots_joined, List.mem_flatMap]
  rfl

/-- How definitions are divided into documents does not change what they
declare. -/
theorem sameDeclarations_of_definitions
    (h : docs'.flatMap Document.definitions
      = docs.flatMap Document.definitions) :
    SameDeclarations docs docs' := by
  have hjoined : joined docs' = joined docs := congrArg Document.mk h
  have hroot : ∀ name, IsRoot docs' name ↔ IsRoot docs name := by
    intro name
    rw [isRoot_iff_joined, isRoot_iff_joined, hjoined]
  obtain ⟨htypes, hexts⟩ := values_eq docs
  obtain ⟨htypes', hexts'⟩ := values_eq docs'
  rw [← objects_joined] at htypes hexts htypes' hexts'
  refine ⟨?_, ?_⟩
  · rw [htypes, htypes', hjoined]
    simp only [hroot]
  · rw [hexts, hexts', hjoined]
    simp only [hroot]

theorem mergedType_eq (exts : List (Placed ObjectType))
    (o : Placed ObjectType) :
    mergedType exts o =
      { o.value with fields := o.value.fields ++
          ((exts.map Placed.value).filter fun x =>
            x.name = o.value.name).flatMap ObjectType.fields } := by
  have hplaced : ∀ x : Placed ObjectType,
      (placedFields x).map Placed.value = x.value.fields := by
    intro x
    unfold placedFields
    rw [List.map_map]
    exact List.map_id _
  unfold mergedType mergedFields
  rw [List.map_append, hplaced, List.map_flatMap, List.filter_map,
    List.flatMap_map]
  simp only [hplaced]
  rfl

/-- The normal form depends on nothing but what is declared. -/
theorem normalForm_eq (h : SameDeclarations docs docs') :
    normalForm docs' = normalForm docs := by
  have hdefinitions : ∀ docs : List Document, (normalForm docs).definitions =
      ((baseTypes docs).map Placed.value).map fun o => .object
        { o with fields := o.fields ++
            (((extensions docs).map Placed.value).filter fun x =>
              x.name = o.name).flatMap ObjectType.fields } := by
    intro docs
    unfold normalForm
    rw [List.map_map]
    apply List.map_congr_left
    intro o _
    rw [mergedType_eq]
    rfl
  have heq : (normalForm docs').definitions = (normalForm docs).definitions :=
    by rw [hdefinitions, hdefinitions, h.types, h.extensions]
  exact congrArg Document.mk heq

theorem ExtensionsFit.of_same (hfit : ExtensionsFit docs)
    (h : SameDeclarations docs docs') : ExtensionsFit docs' := by
  -- an extension of the one is one of the other, in whatever document
  have hext : ∀ x ∈ extensions docs',
      ∃ y ∈ extensions docs, y.value = x.value := by
    intro x hx
    apply List.mem_map.mp
    rw [← h.extensions]
    exact List.mem_map_of_mem hx
  refine ⟨?_, ?_⟩
  · intro x hx
    obtain ⟨y, hy, hyx⟩ := hext x hx
    obtain ⟨o, ho, hname⟩ := hfit.known y hy
    have hmem : o.value ∈ (baseTypes docs').map Placed.value := by
      rw [h.types]
      exact List.mem_map_of_mem ho
    obtain ⟨o', ho', hvalue⟩ := List.mem_map.mp hmem
    exact ⟨o', ho', by rw [hvalue, hname, hyx]⟩
  · intro x hx
    obtain ⟨y, hy, hyx⟩ := hext x hx
    rw [← hyx]
    exact hfit.plain y hy

end Same

/-! ## §5. Elaborating the normal form. -/

section Elaborate

variable {docs : List Document}

theorem elaborate_normalForm_eq (options : Options) (h : ExtensionsFit docs) :
    elaborate options [normalForm docs] = (elaborate options docs).inFirst := by
  unfold elaborate Report.inFirst
  rw [gather_normalForm h, Report.mapError_bind, Report.mapError_ofResult]
  cases gather docs with
  | error x => rfl
  | ok ds =>
      -- the entities have the same names, whatever the documents
      have hnames : (ds.map (Declaration.renumber toFirst)).map
          Declaration.name = ds.map Declaration.name := by
        rw [List.map_map]
        rfl
      show elaborateAll options
          ((ds.map (Declaration.renumber toFirst)).map Declaration.name)
          (ds.map (Declaration.renumber toFirst)) >>= _ =
        (elaborateAll options (ds.map Declaration.name) ds >>= fun entities =>
          pure (Schema.ofList entities)).mapError _
      rw [hnames, elaborateAll_renumber, Report.mapError_bind]
      rfl

/-- Where every extension fits, the normal form makes the same schema with
the same warnings, or the same error in its one document.  So the result
depends neither on how definitions are divided into documents nor on where
extensions stand among the types.

Names of types may even be repeated: this is refused in both. -/
theorem elaborate_normalForm (options : Options) (h : ExtensionsFit docs) :
    elaborate options [normalForm docs] = (elaborate options docs).inFirst ∧
      (∀ docs', SameDeclarations docs docs' →
        (elaborate options docs').inFirst
          = (elaborate options docs).inFirst) ∧
      ∀ docs', docs'.flatMap Document.definitions
          = docs.flatMap Document.definitions →
        (elaborate options docs').inFirst
          = (elaborate options docs).inFirst := by
  have hsame : ∀ docs', SameDeclarations docs docs' →
      (elaborate options docs').inFirst = (elaborate options docs).inFirst := by
    intro docs' hdocs
    rw [← elaborate_normalForm_eq options h,
      ← elaborate_normalForm_eq options (h.of_same hdocs), normalForm_eq hdocs]
  exact ⟨elaborate_normalForm_eq options h, hsame,
    fun docs' hdocs => hsame docs' (sameDeclarations_of_definitions hdocs)⟩

end Elaborate

/-- Owners of cats, who are extended before they are declared; cats are not
declared at all.  The error lies in the second document. -/
def catOwners : List Document :=
  [ { definitions :=
        [ .schema {
            position := .start
            isExtension := false
            query := some "Lookup"
            mutation := none
            subscription := none },
          .object {
            position := .start
            isExtension := true
            name := "Owner"
            directives := []
            fields :=
              [ { position := .start
                  description := none
                  name := "friends"
                  type := .list (.named "Owner" true) true
                  directives := [⟨"hasMany", []⟩] } ] } ] },
    { definitions :=
        [ .object {
            position := .start
            isExtension := false
            name := "Lookup"
            directives := []
            fields := [] },
          .other "Date",
          .object {
            position := .start
            isExtension := false
            name := "Owner"
            directives := []
            fields :=
              [ { position := .start
                  description := none
                  name := "cat"
                  type := .named "Cat" true
                  directives := [⟨"hasOne", []⟩] } ] } ] } ]

/-- Where the cats are missing. -/
def catSite (document : Nat) : FieldSite :=
  ⟨"Owner", "cat", ⟨document, .start⟩⟩

/-- The normal form has the error in its only document, and so it is where
all is in one document or where extensions stand last. -/
theorem elaborate_normalForm_catOwners :
    (elaborate {} catOwners).result
        = .error (.unknownType (catSite 1) "Cat") ∧
      (elaborate {} [normalForm catOwners]).result
        = .error (.unknownType (catSite 0) "Cat") ∧
      (elaborate {} catOwners.reverse).inFirst
        = (elaborate {} catOwners).inFirst ∧
      (elaborate {} [joined catOwners]).inFirst
        = (elaborate {} catOwners).inFirst := by
  have hfit : ExtensionsFit catOwners := ⟨by decide, by decide⟩
  obtain ⟨hnormal, hsame, hdivided⟩ := elaborate_normalForm {} hfit
  have hrun : (elaborate {} catOwners).result
      = .error (.unknownType (catSite 1) "Cat") := by rfl
  refine ⟨hrun, ?_, hsame _ ⟨rfl, rfl⟩, hdivided _ rfl⟩
  rw [hnormal]
  show (elaborate {} catOwners).result.mapError _ = _
  rw [hrun]
  rfl

end SchemaTables.Elaboration
