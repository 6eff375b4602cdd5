/-
  SchemaTables.Storage.Linking
  ────────────────────────────
  **HOW AN ASSOCIATION IS STORED.**

  Three rules, one per kind of link:

      belongsTo          a foreign key in the table of the entity
      hasOne, hasMany    a foreign key in the table of the target
      belongsToMany      two foreign keys in a join table

  The second side of an association has to arrive at the columns of the
  first.  A `hasOne` or `hasMany` takes the name of the one `belongsTo` that
  leads back, two `belongsToMany` share the join table of their two tables.
  Where several associations could be meant the schema is refused.
-/
import SchemaTables.Storage.Layout

namespace SchemaTables.Storage

/-! ## §1. Foreign keys. -/

/-- A foreign key outside the primary key of its table. -/
def foreignKey (name : String) (type : ColumnType) (nullable : Bool)
    (target : ColumnRef) : Column where
  name := foreignKeyName name
  type := type
  isPrimaryKey := false
  isAutoIncrement := false
  isNullable := nullable
  references := some target

/-- A column of a join table: all of them make up its primary key. -/
def joinColumn (name : String) (type : ColumnType) (target : ColumnRef) :
    Column :=
  { foreignKey name type false target with isPrimaryKey := true }

/-- The primary key of an entity, which the field `f` of `e` needs. -/
def requireKey (d : Draft) (e : Entity) (f : Field) (entity : String) :
    Except StorageError (ColumnRef × ColumnType) :=
  match d.primaryKey? entity with
  | some key => .ok key
  | none => .error (.unknownEntity e.name f.name entity)

/-- The table of an entity, which the field `f` of `e` needs. -/
def requireTable (d : Draft) (e : Entity) (f : Field) (entity : String) :
    Except StorageError Table :=
  match d.entityTable? entity with
  | some t => .ok t
  | none => .error (.unknownEntity e.name f.name entity)

/-! ## §2. The other side. -/

/-- The associations of the target of `f` that lead back to `e`, of a kind
that passes the test. -/
def inverses (s : Schema) (e : Entity) (f : Field)
    (test : Association → Bool) : List Field :=
  match s.get? f.baseType with
  | some target => target.associationsTo e.name test
  | none => []

/-- The name for the foreign key of a `hasOne` or `hasMany`: that of the one
`belongsTo` leading back, else that of the entity, followed by the field if
there are several fields to the target. -/
def foreignName (s : Schema) (e : Entity) (f : Field) :
    Except StorageError String :=
  match e.associationsTo f.baseType Association.isHas,
      inverses s e f (· = .belongsTo) with
  | [_], [inverse] => .ok inverse.name
  | [_], [] => .ok e.name
  | _, [] => .ok (e.name ++ "_" ++ f.name)
  | _, _ => .error (.ambiguous e.name f.name f.baseType)

/-- Does a `belongsToMany` share the join table of its two tables?  If it
does not, the table is its own. -/
def sharesJoinTable (s : Schema) (e : Entity) (f : Field) :
    Except StorageError Bool :=
  let siblings := (e.associationsTo f.baseType (· = .belongsToMany)).length
  if f.baseType = e.name then .ok (siblings = 1)
  else
    let others := (inverses s e f (· = .belongsToMany)).length
    if siblings = 1 && others ≤ 1 then .ok true
    else if others = 0 then .ok false
    else .error (.ambiguous e.name f.name f.baseType)

/-! ## §3. Links. -/

/-- Store a `belongsTo`. -/
def linkBelongsTo (d : Draft) (e : Entity) (f : Field) :
    Except StorageError (Draft × Link) := do
  let (target, type) ← requireKey d e f f.baseType
  let t ← requireTable d e f e.name
  let column := foreignKey f.name type f.nullable target
  let t ← t.addColumn column
  return (d.replace t, .manyToOne (t.ref column.name) target)

/-- Store a `hasOne` or `hasMany`. -/
def linkHas (s : Schema) (d : Draft) (e : Entity) (f : Field) :
    Except StorageError (Draft × Link) := do
  let (key, type) ← requireKey d e f e.name
  let name ← foreignName s e f
  let t ← requireTable d e f f.baseType
  let column := foreignKey name type true key
  let t ← t.addColumn column
  return (d.replace t, .oneToMany key (t.ref column.name))

/-- The join table of this name: only a shared one may be there already. -/
def joinTable (d : Draft) (name : String) (shared : Bool) :
    Except StorageError Table :=
  match d.tables.get? name with
  | none => .ok { name := name, entity := none, columns := [] }
  | some t =>
      if shared && t.isJoinTable then .ok t
      else .error (.duplicateTable name)

/-- Store a `belongsToMany`. -/
def linkBelongsToMany (s : Schema) (d : Draft) (e : Entity) (f : Field) :
    Except StorageError (Draft × Link) := do
  let (key, type) ← requireKey d e f e.name
  let (target, targetType) ← requireKey d e f f.baseType
  let shared ← sharesJoinTable s e f
  let name :=
    if shared then joinTableName key.table target.table
    else key.table ++ "_" ++ columnName f.name
  let t ← joinTable d name shared
  -- an entity that relates to itself would name both columns alike
  let otherName := if f.baseType = e.name then f.name else f.baseType
  let one := joinColumn e.name type key
  let other := joinColumn otherName targetType target
  let t ← t.addColumn one
  let t ← t.addColumn other
  return (d.replace t, .manyToMany name (t.ref one.name) (t.ref other.name))

/-- Store an association. -/
def link (s : Schema) (d : Draft) (e : Entity) (f : Field) :
    Association → Except StorageError (Draft × Link)
  | .belongsTo => linkBelongsTo d e f
  | .hasOne => linkHas s d e f
  | .hasMany => linkHas s d e f
  | .belongsToMany => linkBelongsToMany s d e f

end SchemaTables.Storage
