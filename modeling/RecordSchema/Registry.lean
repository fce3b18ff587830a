import RecordSchema.Record
import Std.Data.HashMap

/-!
# Registries

A registry knows types by name: records, and plain types that are known not to be records. The first
registration of a name fixes its place in the order, the last one fixes what it stands for. The two
views are `resolve`, by name, and `records`, in order. A registry keeps a map for the one and a list
of names for the other, and every registration keeps the two in step.
-/

namespace RecordSchema

/-- A type known to a registry. -/
inductive Registered (ρ : Type) where
  | record (ref : ρ)
  | plain (name : String)
deriving DecidableEq

/-- How the element type of a list relation is found by its name. -/
abbrev Resolver (ρ : Type) := String → Option (Registered ρ)

variable {ρ : Type}

namespace Registered

/-- Whether the type is a record. -/
def isPersistable : Registered ρ → Bool
  | record _ => true
  | plain _ => false

/-- The record, if the type is one. -/
def record? : Registered ρ → Option ρ
  | record r => some r
  | plain _ => none

/-- The name a type is registered under. -/
def name (catalog : Catalog ρ) : Registered ρ → String
  | record r => (catalog r).name
  | plain n => n

theorem bind_record?_eq_some_iff {type? : Option (Registered ρ)} {r : ρ} :
    type?.bind record? = some r ↔ type? = some (.record r) := by
  rcases type? with - | ⟨r' | name⟩ <;> simp [record?]

end Registered

/-- Types by name, and the names in the order in which they were first registered. -/
structure Registry (ρ : Type) where
  types : Std.HashMap String (Registered ρ) := ∅
  order : List String := []

namespace Registry

def empty : Registry ρ := {}

/-- What a name stands for. -/
def resolve (g : Registry ρ) : Resolver ρ := fun name => g.types[name]?

def contains (g : Registry ρ) (name : String) : Bool := g.types.contains name

/-- Registers a type under a name. Only a new name is added to the order. -/
def insert (g : Registry ρ) (name : String) (type : Registered ρ) : Registry ρ where
  types := g.types.insert name type
  order := if g.contains name then g.order else g.order ++ [name]

/-- Registers a record under its name. -/
def insertRecord (catalog : Catalog ρ) (g : Registry ρ) (ref : ρ) : Registry ρ :=
  g.insert (catalog ref).name (.record ref)

/-- Registers a name as that of a type that is not a record. -/
def insertPlain (g : Registry ρ) (name : String) : Registry ρ := g.insert name (.plain name)

/-- How many names are registered. -/
def size (g : Registry ρ) : Nat := g.types.size

def isEmpty (g : Registry ρ) : Bool := g.types.isEmpty

/-- Whether a name stands for a record. -/
def isPersistable (g : Registry ρ) (name : String) : Bool :=
  (g.resolve name).any Registered.isPersistable

/-- The registered records, in order. -/
def records (g : Registry ρ) : List ρ :=
  g.order.filterMap fun name => (g.resolve name).bind Registered.record?

@[simp] theorem resolve_empty (name : String) : (empty : Registry ρ).resolve name = none := by
  simp [resolve, empty]

@[simp] theorem order_empty : (empty : Registry ρ).order = [] := rfl

@[simp] theorem contains_empty (name : String) : (empty : Registry ρ).contains name = false := by
  simp [contains, empty]

@[simp] theorem size_empty : (empty : Registry ρ).size = 0 := by
  simp [size, empty]

@[simp] theorem resolve_insert (g : Registry ρ) (name other : String) (type : Registered ρ) :
    (g.insert name type).resolve other = if name == other then some type else g.resolve other :=
  Std.HashMap.getElem?_insert

@[simp] theorem contains_insert (g : Registry ρ) (name other : String) (type : Registered ρ) :
    (g.insert name type).contains other = (name == other || g.contains other) :=
  Std.HashMap.contains_insert

theorem order_insert (g : Registry ρ) (name : String) (type : Registered ρ) :
    (g.insert name type).order = if g.contains name then g.order else g.order ++ [name] :=
  rfl

theorem size_insert (g : Registry ρ) (name : String) (type : Registered ρ) :
    (g.insert name type).size = if g.contains name then g.size else g.size + 1 := by
  simp [size, insert, contains, Std.HashMap.size_insert]

/-- A registry knows a name if the name stands for something. -/
theorem contains_eq_isSome_resolve (g : Registry ρ) (name : String) :
    g.contains name = (g.resolve name).isSome :=
  Std.HashMap.contains_eq_isSome_getElem?

end Registry

end RecordSchema
