/-
  SchemaTables.Storage.Build
  ──────────────────────────
  **THE STORAGE MODEL OF A SCHEMA.**

  The tables of all entities are laid out first; then the association fields
  are stored one by one, in the order of the entities and of their fields,
  each adding its columns and its relation.
-/
import SchemaTables.Storage.Linking

namespace SchemaTables.Storage

/-- Store one association field and record its relation. -/
def linkStep (s : Schema) (state : Draft × List Relation)
    (a : Entity × Field × Association) :
    Except StorageError (Draft × List Relation) := do
  let (d, l) ← link s state.1 a.1 a.2.1 a.2.2
  let relation : Relation := {
    entity := a.1.name
    field := a.2.1.name
    kind := a.2.2
    target := a.2.1.baseType
    link := l }
  return (d, state.2 ++ [relation])

/-- The storage model of a schema, or the first reason against one. -/
def build (s : Schema) : Except StorageError Model := do
  let d ← layOut s
  let (d, relations) ← s.associations.foldlM (linkStep s) (d, [])
  return { tables := d.tables, relations := relations }

end SchemaTables.Storage
