/-!
# Semantic types

What a scalar field holds, apart from how any database spells it. `SqlType.sqlName` is the generic
spelling; a dialect with a spelling of its own gives it in `Dialect.typeName`.
-/

namespace RecordSchema

/-- What a scalar field holds. -/
inductive SqlType where
  | boolean
  | smallInt
  | integer
  | bigInt
  | real
  | double
  | text
  | timestamp
deriving DecidableEq, Repr

namespace SqlType

/-- The name of the type itself, as messages show it. -/
def name : SqlType → String
  | boolean => "Boolean"
  | smallInt => "SmallInt"
  | integer => "Integer"
  | bigInt => "BigInt"
  | real => "Real"
  | double => "Double"
  | text => "Text"
  | timestamp => "Timestamp"

/-- The generic spelling in a column definition. -/
def sqlName : SqlType → String
  | boolean => "BOOLEAN"
  | smallInt => "SMALLINT"
  | integer => "INTEGER"
  | bigInt => "BIGINT"
  | real => "REAL"
  | double => "DOUBLE"
  | text => "TEXT"
  | timestamp => "TIMESTAMP"

/-- Integers of any width and floating-point numbers. -/
def isNumeric : SqlType → Bool
  | smallInt | integer | bigInt | real | double => true
  | boolean | text | timestamp => false

/-- All types, in the order of their declaration. -/
def all : List SqlType := [boolean, smallInt, integer, bigInt, real, double, text, timestamp]

theorem mem_all (t : SqlType) : t ∈ all := by cases t <;> decide

/-- The type of a given name. -/
def ofName? (s : String) : Option SqlType := all.find? fun t => t.name == s

end SqlType

end RecordSchema
