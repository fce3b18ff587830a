import RecordSchema.SqlType
import RecordSchema.Text.Identifier
import RecordSchema.Text.Quoted

/-!
# Records and their fields

A record is a persistable type: a name, fields in order, possibly a table name of its own and a
parent whose fields it inherits. Records refer to one another, in cycles too, so a reference is an
element of some type `ρ` and a `Catalog ρ` says which record it stands for. Two references are the
same to the library when their records have one name.

`allFields` is what a record holds with all it inherits, the oldest ancestor first. The walk towards
the ancestors is cut when it meets the name it started from, and in any case after
`maxAncestors` ancestors, so it ends on every catalog; `inheritanceIsCut` says when it was cut.
-/

namespace RecordSchema

/-- What a field holds, as far as a schema is concerned. -/
inductive FieldType (ρ : Type) where
  /-- A plain value. -/
  | scalar (type : SqlType)
  /-- Another record. -/
  | record (ref : ρ)
  /-- A container, whose element type only a `listOf` marker can tell. -/
  | collection
  /-- A value that the schema knows nothing about, by the name of its type. -/
  | foreign (name : String)
deriving DecidableEq

/-- A field of a record. -/
structure Field (ρ : Type) where
  name : String
  type : FieldType ρ
  /-- Its name as a column. -/
  column : String := name
  /-- Left out of the schema altogether. -/
  ignored : Bool := false
  /-- The name of the element type, if the field is a list relation. -/
  listOf : Option String := none
  /-- The text of the column's type, in place of the policy's choice. -/
  sqlType : Option String := none
deriving DecidableEq

/-- A persistable type. -/
structure Record (ρ : Type) where
  /-- The full name, a path. -/
  name : String
  /-- The name of the table, in place of the naming policy's choice. -/
  table : Option String := none
  fields : List (Field ρ) := []
  parent : Option ρ := none

/-- Which record each reference stands for. -/
abbrev Catalog (ρ : Type) := ρ → Record ρ

variable {ρ : Type}

namespace FieldType

/-- A field's type as messages show it. -/
def shown (catalog : Catalog ρ) : FieldType ρ → String
  | scalar t => "Scalar(" ++ t.name ++ ")"
  | record r => "Record(" ++ Text.quoted (catalog r).name ++ ")"
  | collection => "Collection"
  | foreign name => "Opaque(" ++ Text.quoted name ++ ")"

/-- Whether two types are the same. Records are when their names are. -/
def same (catalog : Catalog ρ) : FieldType ρ → FieldType ρ → Bool
  | scalar s, scalar t => s == t
  | record r, record s => (catalog r).name == (catalog s).name
  | collection, collection => true
  | foreign a, foreign b => a == b
  | _, _ => false

end FieldType

namespace Field

/-- A field of a given name and type, with no markers. -/
def plain (name : String) (type : FieldType ρ) : Field ρ := { name, type }

def withColumn (f : Field ρ) (column : String) : Field ρ := { f with column }

def ignore (f : Field ρ) : Field ρ := { f with ignored := true }

def withListOf (f : Field ρ) (element : String) : Field ρ := { f with listOf := some element }

def withSqlType (f : Field ρ) (text : String) : Field ρ := { f with sqlType := some text }

end Field

namespace Record

/-- The last part of a record's name. -/
def shortName (r : Record ρ) : String := Text.lastSegment r.name

/-- How many ancestors a record inherits from at most. -/
def maxAncestors : Nat := 64

/-- The ancestors met from `next` on, nearest first, and whether the walk was cut. It is cut at a
record called `start` and when `room` for further ancestors has run out. -/
def walk (catalog : Catalog ρ) (start : String) : Nat → Option ρ → List (Record ρ) × Bool
  | _, none => ([], false)
  | 0, some _ => ([], true)
  | room + 1, some r =>
    if (catalog r).name == start then ([], true)
    else
      let rest := walk catalog start room (catalog r).parent
      (catalog r :: rest.1, rest.2)

/-- The ancestors a record inherits from, nearest first. -/
def ancestors (catalog : Catalog ρ) (r : Record ρ) : List (Record ρ) :=
  (walk catalog r.name maxAncestors r.parent).1

/-- Whether the walk to the ancestors was cut before a record without a parent. -/
def inheritanceIsCut (catalog : Catalog ρ) (r : Record ρ) : Bool :=
  (walk catalog r.name maxAncestors r.parent).2

/-- All fields of a record, those of the oldest ancestor first, each record's in its order. -/
def allFields (catalog : Catalog ρ) (r : Record ρ) : List (Field ρ) :=
  (r :: r.ancestors catalog).reverse.flatMap Record.fields

/-- A record with all its fields declared on itself. -/
def flattened (catalog : Catalog ρ) (r : Record ρ) : Record ρ :=
  { r with fields := r.allFields catalog, parent := none }

theorem length_walk_le (catalog : Catalog ρ) (start : String) (room : Nat) (next : Option ρ) :
    (walk catalog start room next).1.length ≤ room := by
  induction room generalizing next with
  | zero => cases next <;> simp [walk]
  | succ n ih =>
    cases next with
    | none => simp [walk]
    | some r =>
      by_cases h : (catalog r).name = start
      · simp [walk, h]
      · simpa [walk, h] using ih (catalog r).parent

theorem length_ancestors_le (catalog : Catalog ρ) (r : Record ρ) :
    (r.ancestors catalog).length ≤ maxAncestors :=
  length_walk_le ..

theorem allFields_eq (catalog : Catalog ρ) (r : Record ρ) :
    r.allFields catalog = (r.ancestors catalog).reverse.flatMap Record.fields ++ r.fields := by
  simp [allFields]

/-- A record without a parent has its own fields only. -/
theorem allFields_of_parent_none {catalog : Catalog ρ} {r : Record ρ} (h : r.parent = none) :
    r.allFields catalog = r.fields := by
  simp [allFields, ancestors, h, walk]

@[simp] theorem allFields_flattened (catalog catalog' : Catalog ρ) (r : Record ρ) :
    (r.flattened catalog).allFields catalog' = r.allFields catalog :=
  allFields_of_parent_none rfl

end Record

end RecordSchema
