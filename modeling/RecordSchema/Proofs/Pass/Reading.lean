import RecordSchema.Pass

/-!
# A batch read field by field

A pass works a batch off with a queue. Here the same batch is read without one: each field by itself
stands for a relation (`Field.relation?`), for a column (`Field.column?`), or for an error
(`Field.error?`), and the schema of a batch (`Compiler.schema`) lists what its fields stand for.

`result_compile` says that a pass gives the first error of the batch, or else its schema. It rests
on one invariant of the walk over the fields: after any number of them without an error, the scan
holds what it started with followed by what these fields stand for (`result_foldlM_addField`).
-/

namespace RecordSchema

variable {ρ : Type}

/-! ## What a field stands for -/

namespace Field

/-- A field's marker is looked up if the field is neither ignored nor holds a record. -/
def LooksUp (f : Field ρ) (element : String) : Prop :=
  f.ignored = false ∧ (∀ r, f.type ≠ .record r) ∧ f.listOf = some element

/-- The relation a field stands for: to the record it holds, else to the record its marker names. -/
inductive LeadsTo (s : Surroundings ρ) (f : Field ρ) : RelationKind → Record ρ → Prop
  | single {r : ρ} (hi : f.ignored = false) (ht : f.type = .record r) :
    LeadsTo s f .oneToOne (s.catalog r)
  | list {element : String} {r : ρ} (h : f.LooksUp element)
    (hr : s.resolve element = some (.record r)) : LeadsTo s f .oneToMany (s.catalog r)

/-- The column a field stands for. The policy has to support the field and to give it a type. -/
structure BecomesColumn (s : Surroundings ρ) (f : Field ρ) (column : Column) : Prop where
  not_ignored : f.ignored = false
  not_record : ∀ r, f.type ≠ .record r
  not_list : f.listOf = none
  supported : s.columnTypes.supports f = true
  typed : s.columnTypes.sqlType f = some column.sqlType
  named : column.name = f.column

/-- The error a field is refused with in the schema of the record named `owner`. -/
inductive Refused (s : Surroundings ρ) (owner : String) (f : Field ρ) : SchemaError → Prop
  | unknown {element : String} (h : f.LooksUp element) (hr : s.resolve element = none) :
    Refused s owner f (.unknownElement owner f.name element)
  | plain {element name : String} (h : f.LooksUp element)
    (hr : s.resolve element = some (.plain name)) :
    Refused s owner f (.notARecord owner f.name element)

/-! These readings are computed as follows. -/

/-- The element name that is looked up for a field. -/
def element? (f : Field ρ) : Option String :=
  if f.ignored then none
  else match f.type with
    | .record _ => none
    | .scalar _ | .collection | .foreign _ => f.listOf

/-- The relation of a field. -/
def relation? (s : Surroundings ρ) (f : Field ρ) : Option (RelationKind × Record ρ) :=
  if f.ignored then none
  else match f.type with
    | .record r => some (.oneToOne, s.catalog r)
    | .scalar _ | .collection | .foreign _ =>
      match f.listOf.bind s.resolve with
      | some (.record r) => some (.oneToMany, s.catalog r)
      | some (.plain _) | none => none

/-- The column of a field. -/
def column? (s : Surroundings ρ) (f : Field ρ) : Option Column :=
  if f.ignored then none
  else match f.type with
    | .record _ => none
    | .scalar _ | .collection | .foreign _ =>
      if f.listOf = none ∧ s.columnTypes.supports f = true then
        (s.columnTypes.sqlType f).map fun type => { name := f.column, sqlType := type }
      else none

/-- The error of a field. -/
def error? (s : Surroundings ρ) (owner : String) (f : Field ρ) : Option SchemaError :=
  f.element?.bind fun element =>
    match s.resolve element with
    | some (.record _) => none
    | some (.plain _) => some (.notARecord owner f.name element)
    | none => some (.unknownElement owner f.name element)

/-- The relation of a field as a join of its owner. -/
def join? (s : Surroundings ρ) (owner : Record ρ) (f : Field ρ) : Option (Join ρ) :=
  (f.relation? s).map fun p => { owner, field := f, child := p.2, kind := p.1 }

theorem element?_eq_some_iff {f : Field ρ} {element : String} :
    f.element? = some element ↔ f.LooksUp element := by
  unfold element? LooksUp
  cases f.ignored <;> cases f.type <;> simp

theorem relation?_eq_some_iff {s : Surroundings ρ} {f : Field ρ} {kind : RelationKind}
    {child : Record ρ} : f.relation? s = some (kind, child) ↔ f.LeadsTo s kind child := by
  constructor
  · intro h
    unfold relation? at h
    split at h
    · cases h
    · next hi =>
      rw [Bool.not_eq_true] at hi
      split at h
      · next ht => cases h; exact .single hi ht
      all_goals
        next ht =>
        split at h
        · next hl =>
          cases h
          obtain ⟨element, hl, hr⟩ := Option.bind_eq_some_iff.1 hl
          exact .list ⟨hi, by simp [ht], hl⟩ hr
        all_goals cases h
  · rintro (⟨hi, ht⟩ | ⟨⟨hi, ht, hl⟩, hr⟩)
    · simp [relation?, hi, ht]
    · cases hf : f.type with
      | record r => exact absurd hf (ht r)
      | scalar _ | collection | foreign _ => simp [relation?, hi, hf, hl, hr]

theorem column?_eq_some_iff {s : Surroundings ρ} {f : Field ρ} {column : Column} :
    f.column? s = some column ↔ f.BecomesColumn s column := by
  constructor
  · intro h
    unfold column? at h
    split at h
    · cases h
    · next hi =>
      rw [Bool.not_eq_true] at hi
      split at h
      · cases h
      all_goals
        next ht =>
        split at h
        · next hl =>
          obtain ⟨type, hs, rfl⟩ := Option.map_eq_some_iff.1 h
          exact ⟨hi, by simp [ht], hl.1, hl.2, hs, rfl⟩
        · cases h
  · rintro ⟨hi, ht, hl, hs, htype, hname⟩
    cases hf : f.type with
    | record r => exact absurd hf (ht r)
    | scalar _ | collection | foreign _ => simp [column?, hi, hf, hl, hs, htype, ← hname]

theorem error?_eq_some_iff {s : Surroundings ρ} {owner : String} {f : Field ρ} {e : SchemaError} :
    f.error? s owner = some e ↔ f.Refused s owner e := by
  constructor
  · intro h
    obtain ⟨element, he, h⟩ := Option.bind_eq_some_iff.1 h
    rw [element?_eq_some_iff] at he
    split at h
    · cases h
    · next hr => cases h; exact .plain he hr
    · next hr => cases h; exact .unknown he hr
  · rintro (⟨he, hr⟩ | ⟨he, hr⟩) <;>
      simp [error?, element?_eq_some_iff.2 he, hr]

end Field

/-! ## The schema of a batch -/

namespace Compiler

/-- All fields of a batch, each with its record: in the order of the batch, and for each record in
the order of its fields. -/
def fieldsOf (c : Compiler ρ) (records : List (Record ρ)) : List (Record ρ × Field ρ) :=
  records.flatMap fun r => (r.allFields c.catalog).map fun f => (r, f)

/-- The columns of a record's table. -/
def columns (c : Compiler ρ) (r : Record ρ) : List Column :=
  (r.allFields c.catalog).filterMap (Field.column? c.toSurroundings)

/-- The relations of a batch. -/
def joins (c : Compiler ρ) (records : List (Record ρ)) : List (Join ρ) :=
  (c.fieldsOf records).filterMap fun p => p.2.join? c.toSurroundings p.1

/-- The first error of a batch. -/
def error? (c : Compiler ρ) (records : List (Record ρ)) : Option SchemaError :=
  (c.fieldsOf records).findSome? fun p => p.2.error? c.toSurroundings p.1.name

/-- The statement that creates the table of a record. -/
def table (c : Compiler ρ) (r : Record ρ) : String :=
  c.templates.tableStatement (c.naming.table r) (c.columns r)

/-- The statements of a batch: its tables, then what its relations need. -/
def schema (c : Compiler ρ) (records : List (Record ρ)) : List String :=
  records.map c.table ++ (c.joins records).flatMap c.joinStatements

@[simp] theorem error?_nil (c : Compiler ρ) : c.error? [] = none := rfl

@[simp] theorem joins_nil (c : Compiler ρ) : c.joins [] = [] := rfl

theorem error?_append (c : Compiler ρ) (rs rs' : List (Record ρ)) :
    c.error? (rs ++ rs') = (c.error? rs).or (c.error? rs') := by
  simp [error?, fieldsOf, List.findSome?_append]

theorem joins_append (c : Compiler ρ) (rs rs' : List (Record ρ)) :
    c.joins (rs ++ rs') = c.joins rs ++ c.joins rs' := by
  simp [joins, fieldsOf]

theorem error?_singleton (c : Compiler ρ) (r : Record ρ) :
    c.error? [r] =
      (r.allFields c.catalog).findSome? fun f => f.error? c.toSurroundings r.name := by
  rw [error?, fieldsOf, List.flatMap_singleton, List.findSome?_map]
  rfl

theorem joins_singleton (c : Compiler ρ) (r : Record ρ) :
    c.joins [r] = (r.allFields c.catalog).filterMap fun f => f.join? c.toSurroundings r := by
  rw [joins, fieldsOf, List.flatMap_singleton, List.filterMap_map]
  rfl

end Compiler

/-! ## Results that an error takes precedence over -/

/-- A result that stands unless there is an error. -/
def unlessError {α : Type} (e : Option SchemaError) (a : α) : Except SchemaError α :=
  match e with
  | some e => .error e
  | none => .ok a

section unlessError

variable {α β : Type}

theorem unlessError_eq_error_iff {e : Option SchemaError} {a : α} {e' : SchemaError} :
    unlessError e a = .error e' ↔ e = some e' := by
  cases e <;> simp [unlessError]

theorem unlessError_eq_ok_iff {e : Option SchemaError} {a b : α} :
    unlessError e a = .ok b ↔ e = none ∧ a = b := by
  cases e <;> simp [unlessError]

/-- Of two steps in a row the first one's error comes first. -/
theorem bind_unlessError (e : Option SchemaError) {e' : Option SchemaError} {a : α} {b : β}
    (f : α → Except SchemaError β) (h : f a = unlessError e' b) :
    (unlessError e a).bind f = unlessError (e.or e') b := by
  cases e with
  | none => exact h
  | some e => rfl

/-- A last step without errors keeps the error there is. -/
theorem bind_unlessError_ok (e : Option SchemaError) {a : α} {b : β}
    (f : α → Except SchemaError β) (h : f a = .ok b) :
    (unlessError e a).bind f = unlessError e b := by
  cases e with
  | none => exact h
  | some e => rfl

end unlessError

/-! ## A pass gives the first error or the schema -/

open Role in
/-- The role of a field agrees with the three readings of it. -/
theorem Role.of_eq_unlessError (s : Surroundings ρ) (owner : String) (f : Field ρ) :
    ∃ role, Role.of s owner f = unlessError (f.error? s owner) role ∧
      role.relation? = f.relation? s ∧ role.column? = f.column? s := by
  unfold Role.of Field.error? Field.element? Field.relation? Field.column?
  cases hi : f.ignored with
  | true => exact ⟨.ignored, rfl, rfl, rfl⟩
  | false =>
    cases ht : f.type with
    | record r => exact ⟨.single (s.catalog r), by cases f.listOf <;> rfl, rfl, rfl⟩
    | scalar _ | collection | foreign _ =>
      cases hl : f.listOf with
      | none =>
        cases hc : s.columnTypes.column? f with
        | none =>
          refine ⟨.unsupported, rfl, rfl, ?_⟩
          simpa [column?, ColumnTypes.column?] using hc.symm
        | some column =>
          refine ⟨.column column, rfl, rfl, ?_⟩
          simpa [column?, ColumnTypes.column?] using hc.symm
      | some element =>
        cases hr : s.resolve element with
        | none =>
          exact ⟨.unsupported, by simp [ofElement, hr, unlessError], by simp [hr, relation?], rfl⟩
        | some type =>
          cases type with
          | record r =>
            exact ⟨.list (s.catalog r), by simp [ofElement, hr, unlessError],
              by simp [hr, relation?], rfl⟩
          | plain name =>
            exact ⟨.unsupported, by simp [ofElement, hr, unlessError], by simp [hr, relation?], rfl⟩

namespace Compiler

/-- One field, on its own: an error, or what it stands for at the end of the scan. -/
theorem result_addField (c : Compiler ρ) (r : Record ρ) (scan : Scan ρ) (f : Field ρ) :
    (c.addField r scan f).result = unlessError (f.error? c.toSurroundings r.name)
      ⟨scan.columns ++ (f.column? c.toSurroundings).toList,
        ⟨scan.joins.joins ++ (f.join? c.toSurroundings r).toList⟩⟩ := by
  obtain ⟨role, hof, hrel, hcol⟩ := Role.of_eq_unlessError c.toSurroundings r.name f
  unfold addField
  rw [Logged.result_bind, Role.result_classify, hof]
  apply bind_unlessError_ok
  rw [← hcol, Field.join?, ← hrel]
  cases role <;>
    simp [Role.relation?, Role.column?, JoinQueue.push, Except.map]

/-- The walk over the fields of a record: the first error, or what the scan started with followed by
what the fields stand for, in their order. -/
theorem result_foldlM_addField (c : Compiler ρ) (r : Record ρ) (fields : List (Field ρ))
    (scan : Scan ρ) :
    (fields.foldlM (c.addField r) scan).result =
      unlessError (fields.findSome? fun f => f.error? c.toSurroundings r.name)
        ⟨scan.columns ++ fields.filterMap (Field.column? c.toSurroundings),
          ⟨scan.joins.joins ++ fields.filterMap fun f => f.join? c.toSurroundings r⟩⟩ := by
  induction fields generalizing scan with
  | nil => simp [unlessError]
  | cons f fields ih =>
    rw [List.foldlM_cons, Logged.result_bind, result_addField]
    rw [bind_unlessError _ (fun scan => (fields.foldlM (c.addField r) scan).result) (ih _)]
    congr 1
    · cases h : f.error? c.toSurroundings r.name <;> simp [h]
    · cases hc : f.column? c.toSurroundings <;> cases hj : f.join? c.toSurroundings r <;>
        simp [hc, hj]

theorem result_tableStatement (c : Compiler ρ) (queue : JoinQueue ρ) (r : Record ρ) :
    (c.tableStatement queue r).result =
      unlessError (c.error? [r]) (c.table r, ⟨queue.joins ++ c.joins [r]⟩) := by
  unfold tableStatement
  rw [Logged.result_bind, Logged.result_report, error?_singleton, joins_singleton]
  show ((r.allFields c.catalog).foldlM (c.addField r) ⟨[], queue⟩ >>= _).result = _
  rw [Logged.result_bind, result_foldlM_addField, List.nil_append]
  exact bind_unlessError_ok _ _ rfl

/-- The tables of a batch: the first error, or all tables and the queue they were started with
followed by the relations of the batch. -/
theorem result_tableStatements (c : Compiler ρ) (queue : JoinQueue ρ) (records : List (Record ρ)) :
    (c.tableStatements queue records).result =
      unlessError (c.error? records) (records.map c.table, ⟨queue.joins ++ c.joins records⟩) := by
  induction records generalizing queue with
  | nil => simp [tableStatements, unlessError]
  | cons r rs ih =>
    unfold tableStatements
    rw [← List.singleton_append, error?_append, joins_append, Logged.result_bind,
      result_tableStatement]
    apply bind_unlessError
    rw [Logged.result_bind, ih]
    apply bind_unlessError_ok
    simp

theorem result_plan (c : Compiler ρ) (records : List (Record ρ)) :
    (c.plan records).result = unlessError (c.error? records) (c.schema records) := by
  unfold plan
  rw [Logged.result_bind, result_tableStatements]
  apply bind_unlessError_ok
  rfl

/-- A pass gives the first error of the batch, or else its schema. -/
theorem result_compile (c : Compiler ρ) (records : List (Record ρ)) :
    (c.compile records).result = unlessError (c.error? records) (c.schema records) := by
  unfold compile
  rw [Logged.result_bind, Logged.result_report]
  show (c.plan records >>= _).result = _
  rw [Logged.result_bind, result_plan]
  apply bind_unlessError_ok
  rfl

end Compiler

end RecordSchema
