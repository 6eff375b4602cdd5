/-
  SchemaTables.Proofs.Elaboration.Warnings
  ────────────────────────────────────────
  **WHICH WARNINGS ARE GIVEN.**

  A field of primitive type that is marked with an association is kept
  without it, and one warning says so (`warningFor`).  Fields are gone
  through one after another, and the first one with a fault ends the work, so
  that the warnings tell how far it came:

      a schema                 the warnings of all fields
      fault in a declaration   none: no field was looked at
      fault in a field         the warnings of the fields before it

  The field with the fault gives none: what is wrong with it is found before
  its mark is read, or its type is no primitive.  `Logs` says this of a part
  of the work, and the parts are put together by `Logs.bind`.
-/
import SchemaTables.Proofs.Elaboration.Fallback

namespace SchemaTables.Elaboration

open Sdl

/-! ## §1. Reports that go through a list. -/

/-- The report goes through the checks in order and stops at the first that
finds a fault.  Its warnings are those of the checks that find none. -/
structure Logs {α γ : Type} (V : γ → ElaborationError → Prop)
    (warning : γ → Option Warning) (cs : List γ) (r : Report α) : Prop where
  ok : ∀ a, r.result = .ok a →
    Faultless V cs ∧ r.warnings = cs.filterMap warning
  error : ∀ x, r.result = .error x →
    ∃ before c after, cs = before ++ c :: after ∧ Faultless V before ∧
      V c x ∧ r.warnings = before.filterMap warning

section Reports

variable {α β γ : Type} {V : γ → ElaborationError → Prop}
  {warning : γ → Option Warning} {c : γ} {cs ds : List γ} {r : Report α}
  {next : α → Report β} {x : ElaborationError}

theorem Report.warnings_bind_of_ok {a : α} (h : r.result = .ok a) :
    (r >>= next).warnings = r.warnings ++ (next a).warnings := by
  show (r.andThen next).warnings = _
  unfold Report.andThen
  rw [h]

theorem Report.warnings_bind_of_error (h : r.result = .error x) :
    (r >>= next).warnings = r.warnings := by
  show (r.andThen next).warnings = _
  unfold Report.andThen
  rw [h]

theorem faultless_append :
    Faultless V (cs ++ ds) ↔ Faultless V cs ∧ Faultless V ds :=
  List.forall_mem_append

namespace Logs

theorem ofOk {a : α} : Logs V warning [] (Report.ofResult (.ok a)) where
  ok _ _ := ⟨faultless_nil, rfl⟩
  error _ h := by cases h

/-- One check: it gives its warning if it finds nothing, and else none. -/
theorem single
    (hok : ∀ a, r.result = .ok a →
      (∀ x, ¬ V c x) ∧ r.warnings = (warning c).toList)
    (herror : ∀ x, r.result = .error x → V c x ∧ r.warnings = []) :
    Logs V warning [c] r where
  ok a h := by
    obtain ⟨hclean, hwarnings⟩ := hok a h
    refine ⟨faultless_cons.mpr ⟨hclean, faultless_nil⟩, ?_⟩
    rw [hwarnings, List.filterMap_cons]
    cases warning c <;> rfl
  error x h := by
    obtain ⟨hfault, hwarnings⟩ := herror x h
    exact ⟨[], c, [], rfl, faultless_nil, hfault, hwarnings⟩

/-- One part after the other goes through the checks of both. -/
theorem bind (h : Logs V warning cs r)
    (hnext : ∀ a, r.result = .ok a → Logs V warning ds (next a)) :
    Logs V warning (cs ++ ds) (r >>= next) where
  ok b hb := by
    rw [Report.result_bind_eq_ok] at hb
    obtain ⟨a, ha, hb⟩ := hb
    obtain ⟨hclean, hwarnings⟩ := h.ok a ha
    obtain ⟨hclean', hwarnings'⟩ := (hnext a ha).ok b hb
    refine ⟨faultless_append.mpr ⟨hclean, hclean'⟩, ?_⟩
    rw [Report.warnings_bind_of_ok ha, hwarnings, hwarnings',
      List.filterMap_append]
  error x hx := by
    rw [Report.result_bind, bind_eq_error] at hx
    rcases hx with hx | ⟨a, ha, hx⟩
    · obtain ⟨before, c, after, rfl, hclean, hfault, hwarnings⟩ :=
        h.error x hx
      refine ⟨before, c, after ++ ds, by simp, hclean, hfault, ?_⟩
      rw [Report.warnings_bind_of_error hx, hwarnings]
    · -- the first part is done, and its warnings stay
      obtain ⟨hclean, hwarnings⟩ := h.ok a ha
      obtain ⟨before, c, after, rfl, hclean', hfault, hwarnings'⟩ :=
        (hnext a ha).error x hx
      refine ⟨cs ++ before, c, after, by simp,
        faultless_append.mpr ⟨hclean, hclean'⟩, hfault, ?_⟩
      rw [Report.warnings_bind_of_ok ha, hwarnings, hwarnings',
        List.filterMap_append]

/-- What is done with a result gives no further warning. -/
theorem map (h : Logs V warning cs r) (g : α → β) :
    Logs V warning cs (do let a ← r; return g a) := by
  have hbind : Logs V warning (cs ++ [])
      (r >>= fun a => Report.ofResult (.ok (g a))) :=
    h.bind fun _ _ => ofOk
  rw [List.append_nil] at hbind
  exact hbind

end Logs

end Reports

/-! ## §2. One field. -/

/-- The warning about a field of an entity, if its type is a primitive and it
is marked with an association. -/
def warningFor (options : Options) (p : String × Placed FieldDefinition) :
    Option Warning :=
  if Primitive.isName p.2.value.type.base then
    (associationOf options p.2.value).map fun kind =>
      ⟨p.1, p.2.value.name, kind, p.2.value.type.base⟩
  else none

section Fields

variable {options : Options} {docs : List Document} {names : List String}
  {entity : String} {f : Placed FieldDefinition} {field : Field}
  {x : ElaborationError}

/-- Whatever a field gives to warn about is given once its type and its
directives are read. -/
theorem elaborateField_warnings {marked : Option Association}
    (hshallow : f.value.type.lists < 32)
    (hmarked : inferAssociation options (siteOf entity f) f.value
      = .ok marked) :
    (elaborateField options names (siteOf entity f) f.value).warnings =
      (warningFor options (entity, f)).toList := by
  obtain ⟨-, rfl⟩ := inferAssociation_eq_ok.mp hmarked
  have hmark : ignoredMark (siteOf entity f) f.value.type.base
      (associationOf options f.value) =
      (warningFor options (entity, f)).toList := by
    unfold warningFor ignoredMark
    cases associationOf options f.value with
    | none => cases Primitive.isName f.value.type.base <;> rfl
    | some kind => cases Primitive.isName f.value.type.base <;> rfl
  -- the checks that come after it are silent
  have hsilent : ∀ {r r' : Except ElaborationError Unit} {field : Field},
      (do Report.ofResult r; Report.ofResult r'; return field
        : Report Field).warnings = [] := by
    intro r r' field
    cases r with
    | error x => rfl
    | ok u => cases r' <;> rfl
  unfold elaborateField
  rw [FieldType.of?_eq, if_pos hshallow, hmarked]
  rw [Report.warnings_bind_of_ok rfl, Report.warnings_bind_of_ok rfl,
    Report.warnings_bind_of_ok rfl, hsilent, hmark]
  show [] ++ ([] ++ ((warningFor options (entity, f)).toList ++ [])) = _
  rw [List.nil_append, List.nil_append, List.append_nil]

/-- A field with a fault gives no warning. -/
theorem elaborateField_warnings_of_error
    (h : (elaborateField options names (siteOf entity f) f.value).result
      = .error x) :
    (elaborateField options names (siteOf entity f) f.value).warnings
      = [] := by
  by_cases hshallow : f.value.type.lists < 32
  · cases hinfer : inferAssociation options (siteOf entity f) f.value with
    | error y =>
        unfold elaborateField
        rw [FieldType.of?_eq, if_pos hshallow, hinfer]
        rfl
    | ok marked =>
        rw [elaborateField_warnings hshallow hinfer]
        -- the checks have refused it, and these let all primitives pass
        have hentity : ¬ Primitive.isName f.value.type.base = true := by
          rw [elaborateField_result, if_pos hshallow, hinfer] at h
          rcases bind_eq_error.mp h with h | ⟨a, -, h⟩
          · cases h
          · rcases bind_eq_error.mp h with h | ⟨u, -, h⟩
            · exact (checkField_eq_error.mp h).1
            · cases h
        unfold warningFor
        rw [if_neg hentity]
        rfl
  · unfold elaborateField
    rw [FieldType.of?_eq, if_neg hshallow]
    rfl

theorem elaborateField_logs
    (hnames : ∀ n, n ∈ names ↔ ∃ t ∈ baseTypes docs, t.value.name = n) :
    Logs (fun p => Fault options docs (.field p.1 p.2)) (warningFor options)
      [(entity, f)]
      (elaborateField options names (siteOf entity f) f.value) := by
  apply Logs.single
  · intro field hfield
    constructor
    · intro x hx
      rw [← elaborateField_fault hnames, hfield] at hx
      cases hx
    · rw [elaborateField_result] at hfield
      split at hfield
      · next hshallow =>
          rw [bind_eq_ok] at hfield
          obtain ⟨marked, hmarked, -⟩ := hfield
          exact elaborateField_warnings hshallow hmarked
      · cases hfield
  · intro x hx
    exact ⟨(elaborateField_fault hnames).mp hx,
      elaborateField_warnings_of_error hx⟩

/-! ## §3. All fields. -/

theorem elaborateFields_logs {d : Declaration}
    (hnames : ∀ n, n ∈ names ↔ ∃ t ∈ baseTypes docs, t.value.name = n) :
    ∀ fs : List (Placed FieldDefinition),
      Logs (fun p => Fault options docs (.field p.1 p.2))
        (warningFor options) (fs.map fun f => (d.name, f))
        (elaborateFields options names d fs)
  | [] => Logs.ofOk
  | f :: rest => by
      unfold elaborateFields
      rw [List.map_cons]
      exact (elaborateField_logs hnames).bind fun _ _ =>
        (elaborateFields_logs hnames rest).map _

theorem elaborateAll_logs
    (hnames : ∀ n, n ∈ names ↔ ∃ t ∈ baseTypes docs, t.value.name = n)
    {types : List (Placed ObjectType)} {ds : List Declaration}
    (h : List.Forall₂ (Declares (extensions docs)) types ds) :
    Logs (fun p => Fault options docs (.field p.1 p.2)) (warningFor options)
      (types.flatMap fun o =>
        (mergedFields (extensions docs) o).map fun f => (o.value.name, f))
      (elaborateAll options names ds) := by
  induction h with
  | nil => exact Logs.ofOk
  | @cons o d types ds hd _ ih =>
      unfold elaborateAll
      rw [List.flatMap_cons, ← hd.fields, ← hd.name]
      exact (elaborateFields_logs hnames d.fields).bind fun _ _ => ih.map _

end Fields

/-! ## §4. Documents. -/

/-- The error is about declarations: about the names of types and fields,
about extensions or about plurals. -/
def ElaborationError.OfDeclarations : ElaborationError → Prop
  | .duplicateType .. => True
  | .invalidPlural .. => True
  | .extendsUnknownType .. => True
  | .duplicateField .. => True
  | _ => False

section Documents

variable {options : Options} {docs : List Document} {x : ElaborationError}

/-- Errors about declarations are those that are not about a field. -/
theorem Fault.ofDeclarations_iff {c : Check} (h : Fault options docs c x) :
    x.OfDeclarations ↔ ∀ entity f, c ≠ .field entity f := by
  cases h <;> simp [ElaborationError.OfDeclarations]

/-- What is wrong with a field is reported where the field is. -/
theorem Fault.location_of_field {entity : String} {f : Placed FieldDefinition}
    (h : Fault options docs (.field entity f) x) :
    x.location = f.fieldLocation := by
  cases h <;> rfl

/-- Gathering fails with errors about declarations only. -/
theorem ofDeclarations_of_gather (h : gather docs = .error x) :
    x.OfDeclarations := by
  have hreports : Reports (Fault {} docs) (gatherChecks docs) (gather docs) :=
    gather_reports
  obtain ⟨before, c, after, hsplit, -, hfault⟩ := (hreports x).mp h
  have hc : c ∈ gatherChecks docs := by
    rw [hsplit]
    exact List.mem_append_right _ List.mem_cons_self
  exact hfault.ofDeclarations_iff.mpr fun entity f =>
    not_field_of_gatherChecks hc entity f

/-- Documents whose declarations are in order have their fields gone
through. -/
theorem elaborate_logs {ds : List Declaration} (h : gather docs = .ok ds) :
    Logs (fun p => Fault options docs (.field p.1 p.2)) (warningFor options)
      (entityFields docs) (elaborate options docs) := by
  have hdeclares := gather_eq_ok h
  unfold elaborate
  rw [h, ← List.nil_append (entityFields docs)]
  apply Logs.ofOk.bind
  intro ds' hds'
  cases hds'
  exact (elaborateAll_logs (mem_names_iff hdeclares) hdeclares).map Schema.ofList

/-- The warnings are those of all fields if there is a schema, none if a
declaration is at fault, and those of the fields before the first field with
a fault otherwise. -/
theorem elaborate_warnings (options : Options) (docs : List Document) :
    (∀ s, (elaborate options docs).result = .ok s →
      (elaborate options docs).warnings =
        (entityFields docs).filterMap (warningFor options)) ∧
    ∀ x, (elaborate options docs).result = .error x →
      (x.OfDeclarations → (elaborate options docs).warnings = []) ∧
      (¬ x.OfDeclarations → ∃ before entity f after,
        entityFields docs = before ++ (entity, f) :: after ∧
        (∀ p ∈ before, ∀ y, ¬ Fault options docs (.field p.1 p.2) y) ∧
        Fault options docs (.field entity f) x ∧
        x.location = f.fieldLocation ∧
        (elaborate options docs).warnings =
          before.filterMap (warningFor options)) := by
  cases hds : gather docs with
  | error y =>
      have hstop : elaborate options docs = ⟨[], .error y⟩ := by
        unfold elaborate
        rw [hds]
        rfl
      rw [hstop]
      refine ⟨fun s h => (by cases h), ?_⟩
      intro x h
      cases h
      exact ⟨fun _ => rfl, fun hfield =>
        absurd (ofDeclarations_of_gather hds) hfield⟩
  | ok ds =>
      have hlogs : Logs (fun p => Fault options docs (.field p.1 p.2))
          (warningFor options) (entityFields docs) (elaborate options docs) :=
        elaborate_logs hds
      refine ⟨fun s h => (hlogs.ok s h).2, ?_⟩
      intro x h
      obtain ⟨before, ⟨entity, f⟩, after, hsplit, hclean, hfault, hwarnings⟩ :=
        hlogs.error x h
      refine ⟨fun hdeclaration => ?_, fun _ =>
        ⟨before, entity, f, after, hsplit, hclean, hfault,
          hfault.location_of_field, hwarnings⟩⟩
      exact absurd rfl
        (hfault.ofDeclarations_iff.mp hdeclaration entity f)

end Documents

/-- The warning about the title of a shop, whose description has a
keyword. -/
def titleWarning : Warning := ⟨"Shop", "title", .hasMany, "String"⟩

/-- The title comes before the owner, so that its warning is given also where
the owner has two kinds of association.  Where there are two types of one
name, nothing is said about their fields. -/
theorem elaborate_warnings_shops :
    (∃ s, (elaborate {} (shops [⟨"hasOne", []⟩])).result = .ok s ∧
      (elaborate {} (shops [⟨"hasOne", []⟩])).warnings =
        (entityFields (shops [⟨"hasOne", []⟩])).filterMap (warningFor {}) ∧
      (elaborate {} (shops [⟨"hasOne", []⟩])).warnings = [titleWarning]) ∧
    (∃ x, (elaborate {} (shops [⟨"hasOne", []⟩, ⟨"hasMany", []⟩])).result
        = .error x ∧ ¬ x.OfDeclarations ∧
      ∃ before entity f after,
        entityFields (shops [⟨"hasOne", []⟩, ⟨"hasMany", []⟩]) =
          before ++ (entity, f) :: after ∧
        x.location = f.fieldLocation ∧
        before.filterMap (warningFor {}) = [titleWarning]) ∧
    ∃ x, (elaborate {} (shops [] ++ shops [])).result = .error x ∧
      x.OfDeclarations ∧
      (elaborate {} (shops [] ++ shops [])).warnings = [] := by
  refine ⟨?_, ?_, ?_⟩
  · have hsome : (elaborate {} (shops [⟨"hasOne", []⟩])).result.toOption.isSome
        = true := by
      decide +kernel
    obtain ⟨s, hs⟩ := Option.isSome_iff_exists.mp hsome
    rw [toOption_eq_some] at hs
    exact ⟨s, hs, (elaborate_warnings _ _).1 s hs, by decide +kernel⟩
  · have herror : (elaborate {} (shops [⟨"hasOne", []⟩, ⟨"hasMany", []⟩])).result
        = .error (.conflictingMarkers ownerSite .hasOne .hasMany) := by rfl
    obtain ⟨before, entity, f, after, hsplit, -, -, hlocation, hwarnings⟩ :=
      ((elaborate_warnings _ _).2 _ herror).2 id
    refine ⟨_, herror, id, before, entity, f, after, hsplit, hlocation, ?_⟩
    rw [← hwarnings]
    decide +kernel
  · have herror : (elaborate {} (shops [] ++ shops [])).result
        = .error (.duplicateType "Shop" ⟨1, .start⟩) := by rfl
    exact ⟨_, herror, trivial, ((elaborate_warnings _ _).2 _ herror).1 trivial⟩

end SchemaTables.Elaboration
