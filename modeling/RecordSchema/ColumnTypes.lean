import RecordSchema.Dialect
import RecordSchema.Record

/-!
# Column policies

A column policy says which fields become columns and what type each gets. The two answers are
independent: a field becomes a column only if the policy both supports it and gives it a type. The
standard policy of a dialect takes a field's own type text where it has one and else the dialect's
spelling of a scalar.
-/

namespace RecordSchema

/-- Which fields become columns, and the text of their types. -/
structure ColumnTypes (ρ : Type) where
  sqlType : Field ρ → Option String
  supports : Field ρ → Bool

namespace ColumnTypes

variable {ρ : Type}

/-- The policy that supports the fields it gives a type. -/
def ofSqlType (sqlType : Field ρ → Option String) : ColumnTypes ρ :=
  ⟨sqlType, fun f => (sqlType f).isSome⟩

/-- The type of a scalar field in a dialect. -/
def scalarType (d : Dialect) : FieldType ρ → Option String
  | .scalar t => some (d.typeName t)
  | .record _ | .collection | .foreign _ => none

/-- The standard policy of a dialect. -/
def standard (d : Dialect) : ColumnTypes ρ :=
  ofSqlType fun f => f.sqlType <|> scalarType d f.type

/-- The column a field becomes under a policy. -/
def column? (p : ColumnTypes ρ) (f : Field ρ) : Option Column :=
  if p.supports f then (p.sqlType f).map (⟨f.column, ·⟩) else none

@[simp] theorem supports_standard (d : Dialect) (f : Field ρ) :
    (standard d).supports f = ((standard d).sqlType f).isSome := rfl

/-- A type text of the field's own wins. -/
theorem sqlType_standard_of_some {d : Dialect} {f : Field ρ} {text : String}
    (h : f.sqlType = some text) : (standard d).sqlType f = some text := by
  simp [standard, ofSqlType, h]

theorem sqlType_standard_of_none {d : Dialect} {f : Field ρ} (h : f.sqlType = none) :
    (standard d).sqlType f = scalarType d f.type := by
  simp [standard, ofSqlType, h]

end ColumnTypes

end RecordSchema
