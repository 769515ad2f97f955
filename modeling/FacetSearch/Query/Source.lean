import FacetSearch.Criteria.GroupKind
/-!
# Sources of identifiers

Where the identifiers of a search are selected from. The tags and attributes of entities live in
tables of their own, of the same names in every database; identifiers of rows are taken from the
searched table itself.
-/

namespace FacetSearch

namespace GroupKind

/-- The statement that selects the entities that have values of the kind. -/
def select : GroupKind → String
  | tags => "SELECT tag_entities.tag_entity_uuid FROM tag_entities" ++
      " INNER JOIN tags ON tag_entities.tag_entity_tag_uuid = tags.tag_uuid"
  | attributes => "SELECT attributes.attribute_entity_uuid FROM attributes"

/-- The column that holds the values of the kind. -/
def valueColumn : GroupKind → String
  | tags => "tags.tag_name"
  | attributes => "attributes.attribute_value"

/-- The column that holds the table of the entity. -/
def classColumn : GroupKind → String
  | tags => "tag_entities.tag_entity_class"
  | attributes => "attributes.attribute_entity_class"

/-- The columns, each after its table, without which there is nothing to select from. -/
def requiredColumns : GroupKind → List (String × String)
  | tags => [("tags", "tag_uuid"), ("tags", "tag_name"), ("tag_entities", "tag_entity_uuid"),
      ("tag_entities", "tag_entity_tag_uuid"), ("tag_entities", "tag_entity_class")]
  | attributes => [("attributes", "attribute_entity_uuid"), ("attributes", "attribute_entity_class"),
      ("attributes", "attribute_value")]

end GroupKind

/-- What identifiers are selected from: the entities with values of a kind, or the rows of a table by
their key column. -/
inductive Source where
  | group (kind : GroupKind)
  | rows (table key : String)
  deriving DecidableEq

/-- The statement that selects all identifiers of a source, up to its condition. -/
def Source.head : Source → String
  | .group kind => kind.select ++ " WHERE "
  | .rows table key => "SELECT " ++ key ++ " FROM " ++ table ++ " WHERE "

end FacetSearch
