/-
  SchemaTables.Association
  ────────────────────────
  **THE FOUR KINDS OF ASSOCIATION.**

  A field whose type is another entity is an association, of one of four
  kinds.  Each kind has a keyword, which marks a field either as a directive
  or by standing anywhere in its description.  Since `belongsTo` stands in
  `belongsToMany`, a description is searched for the longer keyword first.
-/
import SchemaTables.Text.Substring

namespace SchemaTables

open Text

/-- How a field refers to the entity that is its type. -/
inductive Association where
  | hasOne
  | hasMany
  | belongsTo
  | belongsToMany
  deriving DecidableEq, Repr

namespace Association

/-- The word that names the kind. -/
def keyword : Association → String
  | .hasOne => "hasOne"
  | .hasMany => "hasMany"
  | .belongsTo => "belongsTo"
  | .belongsToMany => "belongsToMany"

/-- All kinds, in the order in which messages list them. -/
def all : List Association := [.belongsTo, .hasOne, .hasMany, .belongsToMany]

/-- All kinds, in the order in which a description is searched for them. -/
def searchOrder : List Association :=
  [.belongsToMany, .belongsTo, .hasMany, .hasOne]

/-- The kind with this keyword. -/
def ofKeyword? (word : String) : Option Association :=
  all.find? fun kind => kind.keyword = word

/-- Does a field of this kind hold a list? -/
def isMany : Association → Bool
  | .hasMany => true
  | .belongsToMany => true
  | _ => false

/-- Is this one of the two kinds whose foreign key lies with the target? -/
def isHas : Association → Bool
  | .hasOne => true
  | .hasMany => true
  | _ => false

/-- The keywords, separated by commas. -/
def keywords : String := ", ".intercalate (all.map keyword)

/-- The kind whose keyword stands in a text. -/
def inText? (text : String) : Option Association :=
  searchOrder.find? fun kind => occursIn kind.keyword.toList text.toList

theorem ofKeyword?_keyword (kind : Association) :
    ofKeyword? kind.keyword = some kind := by
  cases kind <;> decide

end Association

end SchemaTables
