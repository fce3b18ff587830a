import RecordSchema.Declaration.Entry

/-!
# Definitions of records

What a struct says about its record: its own entries and those of its fields, each checked. A
definition is built by adding entries in the order in which they are written, so a flag that is set
stays set and of several values for one key the last one counts.

The checks come in a fixed order: generic parameters, the kind of the item, the fields in their
order, and last the attributes of the struct itself.
-/

namespace RecordSchema.Declaration

/-- An entry for a field. -/
inductive FieldEntry where
  | ignored
  /-- The schema is to know nothing about the field's type. -/
  | foreign
  | list (element : String)
  | column (name : String)
  | sqlType (text : String)
deriving DecidableEq, Repr

/-- The keys of entries for fields. -/
def FieldEntry.vocabulary : Vocabulary FieldEntry :=
  [("ignore", .flag .ignored),
    ("opaque", .flag .foreign),
    ("list", .text .elementType .list),
    ("column", .text .columnName .column),
    ("sql_type", .text .sqlType .sqlType)]

/-- An entry for a struct. -/
inductive StructEntry where
  | table (name : String)
  | name (path : String)
  | parent (path : List Tree)

/-- The keys of entries for structs. -/
def StructEntry.vocabulary : Vocabulary StructEntry :=
  [("table", .text .tableName .table),
    ("name", .text .typeName .name),
    ("extends", .path .parent)]

/-- What is said about a field. -/
structure FieldDefinition where
  name : String
  type : List Tree
  ignored : Bool := false
  foreign : Bool := false
  list : Option String := none
  column : Option String := none
  sqlType : Option String := none

namespace FieldDefinition

/-- Adds what an entry says. -/
def add (f : FieldDefinition) : FieldEntry → FieldDefinition
  | .ignored => { f with ignored := true }
  | .foreign => { f with foreign := true }
  | .list e => { f with list := some e }
  | .column n => { f with column := some n }
  | .sqlType t => { f with sqlType := some t }

/-- What the attributes of a field say. -/
def ofDeclaration (d : FieldDeclaration) : Except DefinitionError FieldDefinition :=
  (Attribute.allEntries FieldEntry.vocabulary d.attributes).map fun es =>
    es.foldl add { name := d.name, type := d.type }

@[simp] theorem name_add (f : FieldDefinition) (e : FieldEntry) : (f.add e).name = f.name := by
  cases e <;> rfl

@[simp] theorem type_add (f : FieldDefinition) (e : FieldEntry) : (f.add e).type = f.type := by
  cases e <;> rfl

end FieldDefinition

/-- What is said about a struct. -/
structure Definition where
  name : String
  /-- The full name of the record, if it is given. -/
  typeName : Option String := none
  table : Option String := none
  parent : Option (List Tree) := none
  fields : List FieldDefinition

namespace Definition

/-- Adds what an entry says. -/
def add (d : Definition) : StructEntry → Definition
  | .table t => { d with table := some t }
  | .name n => { d with typeName := some n }
  | .parent p => { d with parent := some p }

/-- The fields of an item that records can be derived for. A struct may have none. -/
def fieldsOf : ItemBody → Except DefinitionError (List FieldDeclaration)
  | .named fields => .ok fields
  | .unit => .ok []
  | .tuple => .error .unnamedFields
  | .enum => .error (.notAStruct "enums")
  | .union => .error (.notAStruct "unions")

/-- The definitions of several fields. -/
def fieldDefinitions : List FieldDeclaration → Except DefinitionError (List FieldDefinition)
  | [] => .ok []
  | d :: ds => do return (← FieldDefinition.ofDeclaration d) :: (← fieldDefinitions ds)

/-- The definition that an item makes. -/
def ofItem (item : Item) : Except DefinitionError Definition := do
  if item.isGeneric then throw .generic
  let declarations ← fieldsOf item.body
  let fields ← fieldDefinitions declarations
  let entries ← Attribute.allEntries StructEntry.vocabulary item.attributes
  return entries.foldl add { name := item.name, fields }

@[simp] theorem name_add (d : Definition) (e : StructEntry) : (d.add e).name = d.name := by
  cases e <;> rfl

@[simp] theorem fields_add (d : Definition) (e : StructEntry) : (d.add e).fields = d.fields := by
  cases e <;> rfl

end Definition

end RecordSchema.Declaration
