import RecordSchema.Record

/-!
# Naming policies

A naming policy names the tables of records and the join tables of relations. The usual join table
name is made of the two table names and the field's name. The standard policy puts a prefix in front
of short names and of join-table names, and leaves an explicit table name as it is; it forms a
join-table name from the unprefixed names, so the prefix stands there once.
-/

namespace RecordSchema

/-- How tables and join tables are named. -/
structure Naming (ρ : Type) where
  table : Record ρ → String
  /-- The join table from an owner to a child through a field. -/
  joinTable : Record ρ → Record ρ → Field ρ → String

namespace Naming

variable {ρ : Type}

/-- Owner, child and field, joined by underscores. -/
def joined (owner child field : String) : String := owner ++ "_" ++ child ++ "_" ++ field

/-- The policy that names join tables after the tables they join. -/
def ofTable (table : Record ρ → String) : Naming ρ where
  table := table
  joinTable owner child field := joined (table owner) (table child) field.name

/-- A record's name in a schema before any prefix: its table name, else its short name. -/
def baseName (r : Record ρ) : String := r.table.getD r.shortName

/-- The standard policy with a table prefix. -/
def standard (tablePrefix : String) : Naming ρ where
  table r := r.table.getD (tablePrefix ++ r.shortName)
  joinTable owner child field :=
    tablePrefix ++ joined (baseName owner) (baseName child) field.name

theorem table_standard_of_some {p t : String} {r : Record ρ} (h : r.table = some t) :
    (standard p).table r = t := by
  simp [standard, h]

theorem table_standard_of_none {p : String} {r : Record ρ} (h : r.table = none) :
    (standard p).table r = p ++ r.shortName := by
  simp [standard, h]

end Naming

end RecordSchema
