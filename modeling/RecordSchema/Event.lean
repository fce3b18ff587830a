import RecordSchema.Dialect
import RecordSchema.Error
import RecordSchema.Relation

/-!
# Events

What the library reports while it works. An event is data: its level, its words and its fields are
functions of it. A `Logged` computation gives its events together with a result or the error it
stopped with; the events before an error stay.
-/

namespace RecordSchema

/-- How important an event is. -/
inductive Level where
  | trace
  | debug
  | info
  | warn
deriving DecidableEq

/-- Something that is reported. -/
inductive Event where
  | typeRegistered (name : String)
  | typeReplaced (name : String)
  /-- The walk to a record's ancestors was cut. -/
  | inheritanceCut (record : String)
  /-- A field has no place in the schema. -/
  | fieldSkipped (record field type : String)
  | joinRegistered (owner field child : String) (kind : RelationKind)
  /-- A pass over records begins. -/
  | passStarted (records : Nat) (dialect : Dialect)
  | tableCompiled (record table : String) (columns joins : Nat)
  | joinCompiled (joinTable owner child : String) (kind : RelationKind)
  | schemaCompiled (tables joinStatements : Nat)
  | statementGenerated (sql : String)
  | schemaCreated (statements records : Nat)
deriving DecidableEq

namespace Event

/-- The value of a field of an event. -/
inductive Value where
  | text (s : String)
  | count (n : Nat)
deriving DecidableEq

def level : Event → Level
  | typeRegistered _ | joinRegistered .. | statementGenerated _ => .trace
  | typeReplaced _ | passStarted .. | tableCompiled .. | joinCompiled .. | schemaCompiled .. =>
    .debug
  | schemaCreated .. => .info
  | inheritanceCut _ | fieldSkipped .. => .warn

/-- Whether the event opens a span, whose name is then its message. -/
def isSpan : Event → Bool
  | passStarted .. => true
  | _ => false

def message : Event → String
  | typeRegistered _ => "Registered type"
  | typeReplaced _ => "Replacing registered type"
  | inheritanceCut _ => "Inheritance cycle detected; truncating"
  | fieldSkipped .. => "Field is neither relation nor column; skipping"
  | joinRegistered .. => "Registered join"
  | passStarted .. => "compile"
  | tableCompiled .. => "Compiling table"
  | joinCompiled .. => "Compiling join table"
  | schemaCompiled .. => "Schema compiled"
  | statementGenerated _ => "Generated DDL statement"
  | schemaCreated .. => "Created schema"

def fields : Event → List (String × Value)
  | typeRegistered n | typeReplaced n => [("type_name", .text n)]
  | inheritanceCut r => [("record", .text r)]
  | fieldSkipped r f t => [("record", .text r), ("field", .text f), ("field_type", .text t)]
  | joinRegistered o f c k =>
    [("owner", .text o), ("field", .text f), ("child", .text c), ("kind", .text k.label)]
  | passStarted n d => [("records", .count n), ("dialect", .text d.name)]
  | tableCompiled r t c j =>
    [("record", .text r), ("table", .text t), ("columns", .count c), ("joins", .count j)]
  | joinCompiled j o c k =>
    [("join_table", .text j), ("owner", .text o), ("child", .text c), ("kind", .text k.label)]
  | schemaCompiled t j => [("tables", .count t), ("join_statements", .count j)]
  | statementGenerated s => [("sql", .text s)]
  | schemaCreated s r => [("statements", .count s), ("records", .count r)]

end Event

/-- Events, and a result or the error that stopped the work. -/
structure Logged (α : Type) where
  events : List Event
  result : Except SchemaError α

namespace Logged

variable {α β : Type}

/-- A result without events. -/
def done (a : α) : Logged α := ⟨[], .ok a⟩

/-- Reports events. -/
def report (es : List Event) : Logged Unit := ⟨es, .ok ()⟩

/-- A result or an error, without events. -/
def ofExcept (r : Except SchemaError α) : Logged α := ⟨[], r⟩

/-- Goes on with a result; an error ends the work. -/
def andThen (x : Logged α) (f : α → Logged β) : Logged β :=
  match x.result with
  | .error e => ⟨x.events, .error e⟩
  | .ok a => ⟨x.events ++ (f a).events, (f a).result⟩

instance : Monad Logged where
  pure := done
  bind := andThen

theorem andThen_eq_of_ok {x : Logged α} {f : α → Logged β} {a : α} (h : x.result = .ok a) :
    x.andThen f = ⟨x.events ++ (f a).events, (f a).result⟩ := by
  simp [andThen, h]

theorem andThen_eq_of_error {x : Logged α} {f : α → Logged β} {e : SchemaError}
    (h : x.result = .error e) : x.andThen f = ⟨x.events, .error e⟩ := by
  simp [andThen, h]

@[simp] theorem result_bind (x : Logged α) (f : α → Logged β) :
    (x >>= f).result = x.result.bind fun a => (f a).result := by
  show (x.andThen f).result = _
  cases h : x.result <;> simp [andThen, h, Except.bind]

@[simp] theorem events_bind (x : Logged α) (f : α → Logged β) :
    (x >>= f).events = x.events ++ match x.result with
      | .ok a => (f a).events
      | .error _ => [] := by
  show (x.andThen f).events = _
  cases h : x.result <;> simp [andThen, h]

@[simp] theorem result_pure (a : α) : (pure a : Logged α).result = .ok a := rfl

@[simp] theorem events_pure (a : α) : (pure a : Logged α).events = [] := rfl

@[simp] theorem result_report (es : List Event) : (report es).result = .ok () := rfl

@[simp] theorem events_report (es : List Event) : (report es).events = es := rfl

@[simp] theorem result_ofExcept (r : Except SchemaError α) : (ofExcept r).result = r := rfl

@[simp] theorem events_ofExcept (r : Except SchemaError α) : (ofExcept r).events = [] := rfl

theorem andThen_done (x : Logged α) : (x.andThen fun a => done a) = x := by
  cases x with
  | mk es r => cases r <;> simp [andThen, done]

theorem done_andThen (a : α) (f : α → Logged β) : (done a).andThen f = f a := by
  simp [andThen, done]

theorem andThen_assoc {γ : Type} (x : Logged α) (f : α → Logged β) (g : β → Logged γ) :
    (x.andThen f).andThen g = x.andThen fun a => (f a).andThen g := by
  cases x with
  | mk es r =>
    cases r with
    | error e => rfl
    | ok a => cases h : (f a).result <;> simp [andThen, h]

instance : LawfulMonad Logged :=
  LawfulMonad.mk' Logged andThen_done done_andThen andThen_assoc

@[simp] theorem result_map (f : α → β) (x : Logged α) : (f <$> x).result = x.result.map f := by
  show (x.andThen fun a => done (f a)).result = _
  cases h : x.result <;> simp [andThen, done, h, Except.map]

@[simp] theorem events_map (f : α → β) (x : Logged α) : (f <$> x).events = x.events := by
  show (x.andThen fun a => done (f a)).events = _
  cases h : x.result <;> simp [andThen, done, h]

end Logged

end RecordSchema
