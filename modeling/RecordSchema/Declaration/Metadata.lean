import RecordSchema.Declaration.Implementation
import RecordSchema.Record

/-!
# What an implementation means

An implementation describes a record: evaluating its expressions where the struct is declared gives
the record's name, table, fields and parent. What a declared type stands for, and which record a
path names, is up to the place (`Scope`). `fieldType?` is the usual reading of types: scalars by
their names, containers as collections, and `Option` and `Box` as what they hold.
-/

namespace RecordSchema.Declaration

variable {ρ : Type}

/-- What names stand for where a struct is declared. -/
structure Scope (ρ : Type) where
  /-- The path of the module. -/
  module : String
  fieldType : List Tree → FieldType ρ
  record : List Tree → ρ

namespace Scope

/-- The type that an expression stands for. -/
def type (s : Scope ρ) : TypeExpr → FieldType ρ
  | .declared type => s.fieldType type
  | .foreign name => .foreign name

/-- The field that an expression describes. -/
def field (s : Scope ρ) : FieldExpr → Field ρ
  | .new name type => .plain name (s.type type)
  | .column e name => (s.field e).withColumn name
  | .ignore e => (s.field e).ignore
  | .listOf e element => (s.field e).withListOf element
  | .sqlType e text => (s.field e).withSqlType text

/-- The name that an expression stands for. -/
def name (s : Scope ρ) : NameExpr → String
  | .given name => name
  | .inModule name => s.module ++ "::" ++ name

/-- The record that an implementation describes. -/
def info (s : Scope ρ) (i : Implementation) : Record ρ where
  name := s.name i.name
  table := i.table
  fields := i.fields.map s.field
  parent := i.parent.map s.record

end Scope

/-- The types that are scalars, by their names. -/
def scalarNames : List (String × SqlType) :=
  [("bool", .boolean), ("i8", .smallInt), ("i16", .smallInt), ("u8", .smallInt), ("i32", .integer),
    ("u16", .integer), ("i64", .bigInt), ("u32", .bigInt), ("u64", .bigInt), ("f32", .real),
    ("f64", .double), ("char", .text), ("String", .text), ("SystemTime", .timestamp)]

/-- The types that hold any number of values. -/
def containerNames : List String :=
  ["Vec", "VecDeque", "HashSet", "BTreeSet", "HashMap", "BTreeMap"]

/-- The types that stand for what they hold. -/
def wrapperNames : List String := ["Option", "Box"]

/-- What a type stands for, if it is known; `record?` finds records by their structs' names. A
container stands for a collection whatever it holds. -/
def fieldType? (record? : String → Option ρ) : List Tree → Option (FieldType ρ)
  | .mark '&' _ :: .mark '\x27' _ :: [.word "static", .word "str"] => some (.scalar .text)
  | [.word w] =>
    match scalarNames.find? fun e => e.1 == w with
    | some e => some (.scalar e.2)
    | none => (record? w).map .record
  | .word w :: .mark '<' _ :: ts =>
    if containerNames.contains w then some .collection
    else if wrapperNames.contains w then fieldType? record? ts.dropLast
    else none
  | _ => none
termination_by ts => ts.length
decreasing_by simp only [List.length_dropLast, List.length_cons]; omega

end RecordSchema.Declaration
