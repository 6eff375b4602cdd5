/-
  SchemaTables.Proofs.Codec
  ─────────────────────────
  **READING A MODEL UNDOES WRITING IT.**

  A reader undoes a writer if it gives back all that was written:

      Rereads write read   =   ∀ a, read (write a) = some a

  Where this is so of the items of an array or of the entries of a map, it is
  so of the whole (`mapM_rereads`, `map?_ofMap`): their order is kept, and no
  two entries of a map come together.  Optional members need a writer that
  never writes `null`, which is how their absence is written
  (`optional?_rereads`).  Records, links, tables, models and schemas are made
  of these (`Field.rereads` and those after it), so that what a command says
  can be read again (`describe_reread`).
-/
import SchemaTables.CommandLine.Run
import SchemaTables.Proofs.OrderedMap

namespace SchemaTables

/-! ## §1. Members, arrays and maps. -/

namespace OrderedMap

variable {α : Type}

/-- Inserting entries under new keys, one after another, appends them. -/
theorem entries_foldl_insert :
    ∀ (es : List (String × α)) (m : OrderedMap α),
      ((m.entries ++ es).map Prod.fst).Nodup →
      (es.foldl (fun m e => m.insert e.1 e.2) m).entries = m.entries ++ es
  | [], m, _ => (List.append_nil m.entries).symm
  | (k, v) :: es, m, hd => by
      have hfresh : m.get? k = none := by
        cases hget : m.get? k with
        | none => rfl
        | some w =>
            -- the key would stand twice in the list
            have hmem : k ∈ m.entries.map Prod.fst :=
              List.mem_map_of_mem (mem_entries_iff.mpr hget)
            rw [List.map_append, List.nodup_append] at hd
            exact absurd rfl (hd.2.2 k hmem k List.mem_cons_self)
      have hentries := entries_insert_of_fresh (v := v) hfresh
      rw [List.foldl_cons, entries_foldl_insert es, hentries,
        List.append_assoc]
      · rfl
      · rw [hentries, List.append_assoc]
        exact hd

/-- A map is made again from its entries. -/
theorem ofList_entries (m : OrderedMap α) : ofList m.entries = m :=
  ext_entries (entries_foldl_insert m.entries empty m.distinct)

end OrderedMap

namespace Json

variable {α : Type} {write : α → Json} {read : Json → Option α}

/-- What is written is read as what it was. -/
def Rereads (write : α → Json) (read : Json → Option α) : Prop :=
  ∀ a, read (write a) = some a

theorem mapM_rereads (h : Rereads write read) (as : List α) :
    (as.map write).mapM read = some as := by
  induction as with
  | nil => rfl
  | cons a as ih =>
      rw [List.map_cons, List.mapM_cons, h a, ih]
      rfl

theorem map?_ofMap (h : Rereads write read) (m : OrderedMap α) :
    (ofMap write m).map? read = some m := by
  have hentries : ∀ es : List (String × α),
      (es.map fun e => (e.1, write e.2)).mapM
        (fun j => (read j.2).map fun a => (j.1, a)) = some es := by
    intro es
    induction es with
    | nil => rfl
    | cons e es ih =>
        rw [List.map_cons, List.mapM_cons, h e.2, ih]
        rfl
  unfold ofMap map?
  dsimp only
  rw [hentries, Option.map_some, OrderedMap.ofList_entries]

/-- A value that is never written as `null` may be left out. -/
theorem optional?_rereads {writeOption : Option α → Json}
    (h : Rereads write read) (hwrite : ∀ a, write a ≠ .null)
    (hnone : writeOption none = .null)
    (hsome : ∀ a, writeOption (some a) = write a) :
    Rereads writeOption (optional? read) := by
  intro o
  cases o with
  | none =>
      rw [hnone]
      rfl
  | some a =>
      have hread := h a
      rw [hsome]
      cases hj : write a with
      | null => exact absurd hj (hwrite a)
      | bool | number | string | array | object =>
          rw [hj] at hread
          show (read _).map some = _
          rw [hread, Option.map_some]

theorem string?_rereads : Rereads string string? := fun _ => rfl

theorem ofString?_rereads : Rereads ofString? (optional? string?) :=
  optional?_rereads string?_rereads (fun _ => nofun) rfl fun _ => rfl

/-- All members of a record whose members have distinct names. -/
theorem record?_object {members : List (String × Json)}
    (h : (members.map Prod.fst).Nodup) :
    (object members).record? (members.map Prod.fst)
      = some (members.map fun m => some m.2) := by
  show some _ = some _
  rw [List.map_map, Option.some.injEq, List.map_inj_left]
  intro m hm
  exact lookupEntry_of_mem h hm

end Json

/-! ## §2. Schemas. -/

theorem Association.rereads : Json.Rereads Association.toJson ofJson? := by
  intro kind
  exact ofKeyword?_keyword kind

theorem Association.option_rereads :
    Json.Rereads optionToJson (Json.optional? ofJson?) :=
  Json.optional?_rereads rereads (fun _ => nofun) rfl fun _ => rfl

theorem Field.rereads : Json.Rereads Field.toJson Field.ofJson? := by
  intro f
  have hrecord : f.toJson.record?
      ["name", "type", "nullable", "list", "association"] = some _ :=
    Json.record?_object (by simp)
  unfold ofJson?
  rw [hrecord]
  simp [Json.string?, Json.bool?, Association.option_rereads _]

theorem Entity.rereads : Json.Rereads Entity.toJson Entity.ofJson? := by
  intro e
  have hrecord : e.toJson.record? ["name", "pluralName", "fields"]
      = some _ :=
    Json.record?_object (by simp)
  unfold ofJson?
  rw [hrecord]
  simp [Json.string?, Json.map?_ofMap Field.rereads]

theorem Schema.rereads : Json.Rereads Schema.toJson Schema.ofJson? := by
  intro s
  unfold toJson ofJson?
  rw [Json.map?_ofMap Entity.rereads, Option.map_some]

/-! ## §3. Storage models. -/

namespace Storage

theorem ColumnRef.rereads : Json.Rereads ColumnRef.toJson ofJson? := by
  intro r
  have hrecord : r.toJson.record? ["table", "column"] = some _ :=
    Json.record?_object (by simp)
  unfold ofJson?
  rw [hrecord]
  simp [Json.string?]

theorem ColumnRef.option_rereads :
    Json.Rereads optionToJson (Json.optional? ofJson?) :=
  Json.optional?_rereads rereads (fun _ => nofun) rfl fun _ => rfl

theorem Column.rereads : Json.Rereads Column.toJson ofJson? := by
  intro c
  have hrecord : c.toJson.record? ["name", "typ", "is_pk",
      "is_auto_increment", "is_nullable", "references"] = some _ :=
    Json.record?_object (by simp)
  unfold ofJson?
  rw [hrecord]
  simp [Json.string?, Json.bool?, Json.tag?, ColumnType.ofName?_name,
    ColumnRef.option_rereads _]

theorem Table.rereads : Json.Rereads Table.toJson ofJson? := by
  intro t
  have hrecord : t.toJson.record? ["name", "entity", "columns"] = some _ :=
    Json.record?_object (by simp)
  unfold ofJson?
  rw [hrecord]
  simp [Json.string?, Json.array?, Json.ofString?_rereads _,
    Json.mapM_rereads Column.rereads]

/-- A link is told by the name of its one member. -/
theorem Link.rereads : Json.Rereads Link.toJson ofJson? := by
  intro l
  cases l with
  | manyToOne column key =>
      have hrecord : (Json.object [("self_column", column.toJson),
          ("foreign_pk_column", key.toJson)]).record?
            ["self_column", "foreign_pk_column"] = some _ :=
        Json.record?_object (by simp)
      show (Json.record? _ (Json.object _) >>= _) = _
      rw [hrecord]
      simp [ColumnRef.rereads _]
  | oneToMany key column =>
      have hrecord : (Json.object [("self_pk_column", key.toJson),
          ("foreign_column", column.toJson)]).record?
            ["self_pk_column", "foreign_column"] = some _ :=
        Json.record?_object (by simp)
      show (Json.record? _ (Json.object _) >>= _) = _
      rw [hrecord]
      simp [ColumnRef.rereads _]
  | manyToMany table one other =>
      have hrecord : (Json.object [("join_table", .string table),
          ("self_column", one.toJson),
          ("foreign_column", other.toJson)]).record?
            ["join_table", "self_column", "foreign_column"] = some _ :=
        Json.record?_object (by simp)
      show (Json.record? _ (Json.object _) >>= _) = _
      rw [hrecord]
      simp [ColumnRef.rereads _, Json.string?]

theorem Relation.rereads : Json.Rereads Relation.toJson ofJson? := by
  intro r
  have hrecord : r.toJson.record?
      ["entity", "field", "kind", "target", "link"] = some _ :=
    Json.record?_object (by simp)
  unfold ofJson?
  rw [hrecord]
  simp [Json.string?, Association.rereads _, Link.rereads _]

theorem Model.rereads : Json.Rereads Model.toJson ofJson? := by
  intro m
  have hrecord : m.toJson.record? ["tables", "relations"] = some _ :=
    Json.record?_object (by simp)
  unfold ofJson?
  rw [hrecord]
  simp [Json.array?, Json.map?_ofMap Table.rereads,
    Json.mapM_rereads Relation.rereads]

end Storage

/-! ## §4. What a command says. -/

namespace CommandLine

/-- A schema is read from its description as what it was, under whatever keys
its entities and fields stand, and so is a storage model.  So the schema that
is read is stored as the one that was described is, or fails for the same
reason. -/
theorem describe_reread (s : Schema) (m : Storage.Model) :
    Schema.ofJson? s.toJson = some s ∧
      Storage.Model.ofJson? m.toJson = some m ∧
      (describe .model s).toOption.bind Schema.ofJson? = some s ∧
      (describe .storage s).toOption.bind Storage.Model.ofJson?
        = (Storage.build s).toOption ∧
      ((describe .model s).toOption.bind Schema.ofJson?).map Storage.build
        = some (Storage.build s) := by
  have hmodel : (describe .model s).toOption.bind Schema.ofJson? = some s :=
    Schema.rereads s
  refine ⟨Schema.rereads s, Storage.Model.rereads m, hmodel, ?_, ?_⟩
  · unfold describe
    dsimp only
    cases Storage.build s with
    | error x => rfl
    | ok m => exact Storage.Model.rereads m
  · rw [hmodel, Option.map_some]

end CommandLine

end SchemaTables
