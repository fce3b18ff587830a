import RecordSchema.Declaration.Token

/-!
# Items

A declaration that a record may be derived for: a struct, an enum or a union with its attributes. Of
a struct with named fields the fields are kept, each with its attributes and its type; of other
items only their kind matters. An attribute keeps the inside of its list for those who know its
path.
-/

namespace RecordSchema.Declaration

/-- What is said of an attribute's path. -/
inductive AttributeBody where
  /-- Nothing. -/
  | none
  /-- Something in parentheses, brackets or braces. -/
  | list (content : List Tree)
  /-- A value after `=`. -/
  | value

/-- An attribute of an item or a field. -/
structure Attribute where
  path : List Tree
  body : AttributeBody

/-- A named field as it is declared. -/
structure FieldDeclaration where
  attributes : List Attribute
  name : String
  type : List Tree

/-- The kind of an item. -/
inductive ItemBody where
  | named (fields : List FieldDeclaration)
  | tuple
  | unit
  | enum
  | union

/-- A declaration. -/
structure Item where
  attributes : List Attribute
  name : String
  /-- Whether there are parameters between angle brackets. -/
  isGeneric : Bool
  body : ItemBody

end RecordSchema.Declaration
