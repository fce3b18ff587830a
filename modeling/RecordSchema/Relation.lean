import RecordSchema.Record

/-!
# Relations and the queue of joins

A relation leads from a field of an owning record to a child record. Both kinds are kept in a join
table of one shape; they differ in how many children an owner has. A pass finds relations while it
writes tables and writes their join tables afterwards, so it keeps them in a queue in the order of
discovery, with repetitions.
-/

namespace RecordSchema

/-- How many children an owner has through one field. -/
inductive RelationKind where
  | oneToOne
  | oneToMany
deriving DecidableEq, Repr

namespace RelationKind

instance : Inhabited RelationKind := ⟨oneToOne⟩

/-- The kind's name in messages. -/
def label : RelationKind → String
  | oneToOne => "one-to-one"
  | oneToMany => "one-to-many"

/-- The kind of a given name. -/
def ofLabel? (s : String) : Option RelationKind :=
  [oneToOne, oneToMany].find? fun k => k.label == s

/-- Whether the owner holds a collection. -/
def isCollection (k : RelationKind) : Bool := k == oneToMany

theorem ofLabel?_label (k : RelationKind) : ofLabel? k.label = some k := by cases k <;> decide

end RelationKind

/-- A relation from a field of its owner to a child. -/
structure Join (ρ : Type) where
  owner : Record ρ
  field : Field ρ
  child : Record ρ
  kind : RelationKind

/-- The relations found and not yet taken out, in the order of discovery. -/
structure JoinQueue (ρ : Type) where
  joins : List (Join ρ) := []

namespace JoinQueue

variable {ρ : Type}

def empty : JoinQueue ρ := {}

/-- Puts a relation at the end. -/
def push (q : JoinQueue ρ) (j : Join ρ) : JoinQueue ρ := ⟨q.joins ++ [j]⟩

/-- Takes all relations out: what was in the queue, and the queue without it. -/
def drain (q : JoinQueue ρ) : List (Join ρ) × JoinQueue ρ := (q.joins, empty)

def size (q : JoinQueue ρ) : Nat := q.joins.length

def isEmpty (q : JoinQueue ρ) : Bool := q.joins.isEmpty

@[simp] theorem joins_empty : (empty : JoinQueue ρ).joins = [] := rfl

@[simp] theorem joins_push (q : JoinQueue ρ) (j : Join ρ) : (q.push j).joins = q.joins ++ [j] := rfl

@[simp] theorem size_push (q : JoinQueue ρ) (j : Join ρ) : (q.push j).size = q.size + 1 := by
  simp [size]

@[simp] theorem isEmpty_drain (q : JoinQueue ρ) : q.drain.2.isEmpty = true := rfl

theorem isEmpty_iff (q : JoinQueue ρ) : q.isEmpty = true ↔ q.size = 0 := by
  simp [isEmpty, size, List.isEmpty_iff]

end JoinQueue

end RecordSchema
