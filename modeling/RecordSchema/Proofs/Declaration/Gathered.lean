import RecordSchema.Proofs.Declaration.Definitions

/-!
# What several entries say together

A definition is built entry by entry. What an entry sets stays set until another entry of its key is
added, so in the end a flag is set if it is among the entries at all, and a value is the last one
that is given for its key (`FieldDefinition.Gathers`, `Definition.Gathers`). Which entries stand
between those of one key makes no difference.
-/

namespace RecordSchema.Declaration

section foldl

variable {σ ε β : Type} {add : σ → ε → σ}

/-- What every entry either overwrites or leaves alone is what the last entry writes that writes
anything. -/
theorem foldl_last (get : σ → Option β) (write : ε → Option β)
    (h : ∀ s e, get (add s e) = (write e).or (get s)) (s : σ) (es : List ε) :
    get (es.foldl add s) = (es.filterMap write).getLast?.or (get s) := by
  induction es generalizing s with
  | nil => rfl
  | cons e es ih =>
    rw [List.foldl_cons, ih, h]
    cases hw : write e with
    | none => rw [List.filterMap_cons_none hw, Option.none_or]
    | some b =>
      rw [List.filterMap_cons_some hw, List.getLast?_cons]
      cases (es.filterMap write).getLast? <;> rfl

/-- What one entry sets and no other takes back is set if that entry is there. -/
theorem foldl_flag (get : σ → Bool) (flag : ε)
    (h : ∀ s e, get (add s e) = true ↔ e = flag ∨ get s = true) (s : σ) (es : List ε) :
    get (es.foldl add s) = true ↔ flag ∈ es ∨ get s = true := by
  induction es generalizing s with
  | nil => simp
  | cons e es ih => rw [List.foldl_cons, ih, h, List.mem_cons, eq_comm (a := e), or_left_comm,
      or_assoc]

end foldl

/-! ## Fields -/

namespace FieldEntry

def list? : FieldEntry → Option String
  | list element => some element
  | ignored | foreign | column _ | sqlType _ => none

def column? : FieldEntry → Option String
  | column name => some name
  | ignored | foreign | list _ | sqlType _ => none

def sqlType? : FieldEntry → Option String
  | sqlType text => some text
  | ignored | foreign | list _ | column _ => none

end FieldEntry

namespace FieldDefinition

/-- A definition has the flags that are among the entries and of each value the last one. -/
structure Gathers (d : FieldDefinition) (es : List FieldEntry) : Prop where
  ignored : d.ignored = true ↔ .ignored ∈ es
  foreign : d.foreign = true ↔ .foreign ∈ es
  list : d.list = (es.filterMap FieldEntry.list?).getLast?
  column : d.column = (es.filterMap FieldEntry.column?).getLast?
  sqlType : d.sqlType = (es.filterMap FieldEntry.sqlType?).getLast?

theorem gathers_foldl_add (name : String) (type : List Tree) (es : List FieldEntry) :
    (es.foldl add { name, type }).Gathers es where
  ignored := by
    rw [foldl_flag FieldDefinition.ignored .ignored]
    · simp
    · intro d e
      cases e <;> simp [add]
  foreign := by
    rw [foldl_flag FieldDefinition.foreign .foreign]
    · simp
    · intro d e
      cases e <;> simp [add]
  list := by
    rw [foldl_last FieldDefinition.list FieldEntry.list?, Option.or_none]
    intro d e
    cases e <;> rfl
  column := by
    rw [foldl_last FieldDefinition.column FieldEntry.column?, Option.or_none]
    intro d e
    cases e <;> rfl
  sqlType := by
    rw [foldl_last FieldDefinition.sqlType FieldEntry.sqlType?, Option.or_none]
    intro d e
    cases e <;> rfl

variable {d : FieldDefinition} {es : List FieldEntry}

end FieldDefinition

theorem FieldDeclaration.Makes.gathers {f : FieldDeclaration} {d : FieldDefinition}
    (h : f.Makes d) :
    ∃ es, Attribute.SayAll FieldEntry.vocabulary f.attributes es ∧ d.Gathers es := by
  obtain ⟨es, hes, rfl⟩ := h
  exact ⟨es, hes, FieldDefinition.gathers_foldl_add f.name f.type es⟩

/-! ## Structs -/

namespace StructEntry

def table? : StructEntry → Option String
  | table s => some s
  | name _ | parent _ => none

def name? : StructEntry → Option String
  | name s => some s
  | table _ | parent _ => none

def parent? : StructEntry → Option (List Tree)
  | parent p => some p
  | table _ | name _ => none

end StructEntry

namespace Definition

/-- A definition has of each value the last one that is among the entries. -/
structure Gathers (d : Definition) (es : List StructEntry) : Prop where
  table : d.table = (es.filterMap StructEntry.table?).getLast?
  typeName : d.typeName = (es.filterMap StructEntry.name?).getLast?
  parent : d.parent = (es.filterMap StructEntry.parent?).getLast?

theorem gathers_foldl_add (name : String) (fields : List FieldDefinition)
    (es : List StructEntry) : (es.foldl add { name, fields }).Gathers es where
  table := by
    rw [foldl_last Definition.table StructEntry.table?, Option.or_none]
    intro d e
    cases e <;> rfl
  typeName := by
    rw [foldl_last Definition.typeName StructEntry.name?, Option.or_none]
    intro d e
    cases e <;> rfl
  parent := by
    rw [foldl_last Definition.parent StructEntry.parent?, Option.or_none]
    intro d e
    cases e <;> rfl

end Definition

end RecordSchema.Declaration
