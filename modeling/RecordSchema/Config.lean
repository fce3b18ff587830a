import RecordSchema.Dialect
import RecordSchema.Error
import RecordSchema.Text.Identifier

/-!
# Configurations

A configuration chooses the dialect of a schema and a prefix for its table names. The prefix is part
of every table name, so it has to be empty or an identifier of its own.
-/

namespace RecordSchema

/-- The choices for a schema. -/
structure Config where
  dialect : Dialect := .sqlite
  tablePrefix : String := ""
deriving DecidableEq

namespace Config

instance : Inhabited Config := ⟨{}⟩

/-- A prefix that names can start with. -/
def isValidPrefix (p : String) : Bool := p.isEmpty || Text.isIdentifier p

/-- Checks a configuration. -/
def validate (c : Config) : Except SchemaError Unit :=
  if isValidPrefix c.tablePrefix then .ok ()
  else .error (.invalidConfig (.tablePrefix c.tablePrefix))

theorem validate_eq_ok_iff (c : Config) :
    c.validate = .ok () ↔ isValidPrefix c.tablePrefix = true := by
  unfold validate
  split <;> simp_all

theorem validate_eq_error_iff (c : Config) (e : SchemaError) :
    c.validate = .error e ↔
      isValidPrefix c.tablePrefix = false ∧ e = .invalidConfig (.tablePrefix c.tablePrefix) := by
  unfold validate
  split
  · next h => simp [h]
  · next h => simp only [Except.error.injEq, h, true_and]; exact eq_comm

end Config

end RecordSchema
