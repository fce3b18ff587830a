import RecordSchema.ColumnTypes
import RecordSchema.Event
import RecordSchema.Registry

/-!
# The role of a field

Each field of a record has one role in its schema, found in a fixed order: an ignored field has
none; a field that holds a record is a single relation, whatever markers it has; a `listOf` marker
makes a list relation, and an error if its name does not stand for a record; a field that the column
policy supports and gives a type is a column; any other is unsupported, which is reported.
-/

namespace RecordSchema

/-- What a field contributes to a schema. -/
inductive Role (ρ : Type) where
  | ignored
  | single (child : Record ρ)
  | list (child : Record ρ)
  | column (column : Column)
  | unsupported

variable {ρ : Type}

/-- What the schema of a record depends on besides the record. -/
structure Surroundings (ρ : Type) where
  catalog : Catalog ρ
  resolve : Resolver ρ
  columnTypes : ColumnTypes ρ

namespace Role

/-- The relation a role stands for. -/
def relation? : Role ρ → Option (RelationKind × Record ρ)
  | single child => some (.oneToOne, child)
  | list child => some (.oneToMany, child)
  | ignored | column _ | unsupported => none

/-- The column a role stands for. -/
def column? : Role ρ → Option Column
  | column c => some c
  | ignored | single _ | list _ | unsupported => none

/-- The role of a list relation's field, by what its element name stands for. -/
def ofElement (s : Surroundings ρ) (owner field element : String) : Except SchemaError (Role ρ) :=
  match s.resolve element with
  | some (.record r) => .ok (list (s.catalog r))
  | some (.plain _) => .error (.notARecord owner field element)
  | none => .error (.unknownElement owner field element)

/-- The role of a field in the schema of the record named `owner`. -/
def of (s : Surroundings ρ) (owner : String) (f : Field ρ) : Except SchemaError (Role ρ) :=
  if f.ignored then .ok ignored
  else match f.type, f.listOf with
    | .record r, _ => .ok (single (s.catalog r))
    | _, some element => ofElement s owner f.name element
    | _, none =>
      match s.columnTypes.column? f with
      | some c => .ok (column c)
      | none => .ok unsupported

/-- What is reported of a role: a field without a place in the schema. -/
def events (catalog : Catalog ρ) (owner : String) (f : Field ρ) : Role ρ → List Event
  | unsupported => [.fieldSkipped owner f.name (f.type.shown catalog)]
  | ignored | single _ | list _ | column _ => []

/-- Finds the role of a field and reports it if the field has no place. -/
def classify (s : Surroundings ρ) (owner : String) (f : Field ρ) : Logged (Role ρ) := do
  let role ← Logged.ofExcept (of s owner f)
  Logged.report (role.events s.catalog owner f)
  return role

@[simp] theorem result_classify (s : Surroundings ρ) (owner : String) (f : Field ρ) :
    (classify s owner f).result = of s owner f := by
  cases h : of s owner f <;> simp [classify, h, Except.bind, Except.map]

theorem of_ignored {s : Surroundings ρ} {owner : String} {f : Field ρ} (h : f.ignored = true) :
    of s owner f = .ok ignored := by
  simp [of, h]

/-- A field that holds a record is a single relation, whatever its markers. -/
theorem of_record {s : Surroundings ρ} {owner : String} {f : Field ρ} {r : ρ}
    (hi : f.ignored = false) (ht : f.type = .record r) :
    of s owner f = .ok (single (s.catalog r)) := by
  simp [of, hi, ht]

end Role

end RecordSchema
