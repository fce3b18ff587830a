import RecordSchema.Proofs.Pass.Reading

/-!
# What a pass hands out

A pass without an error hands a store the schema of its batch: one table for each record, then the
statements of each relation, all in the order of the batch and of the fields. Nothing else reaches
the store, and the count it returns is that of the statements (`compileInto_of_resolved`).
-/

namespace RecordSchema

variable {ρ : Type}

/-- A field has no error if its marker, should it be looked up, names a record. -/
theorem Field.error?_eq_none_iff {s : Surroundings ρ} {owner : String} {f : Field ρ} :
    f.error? s owner = none ↔
      ∀ element, f.LooksUp element → ∃ child, s.resolve element = some (.record child) := by
  constructor
  · intro h element he
    have hne : ∀ e, ¬ f.Refused s owner e := fun e hr => by
      rw [← error?_eq_some_iff, h] at hr
      cases hr
    cases hr : s.resolve element with
    | none => exact absurd (.unknown he hr) (hne _)
    | some type =>
      cases type with
      | record child => exact ⟨child, rfl⟩
      | plain name => exact absurd (.plain he hr) (hne _)
  · intro h
    cases he : f.error? s owner with
    | none => rfl
    | some e =>
      rcases error?_eq_some_iff.1 he with ⟨hl, hr⟩ | ⟨hl, hr⟩ <;>
        obtain ⟨child, hc⟩ := h _ hl <;> rw [hr] at hc <;> cases hc

namespace Compiler

theorem mem_fieldsOf {c : Compiler ρ} {records : List (Record ρ)} {p : Record ρ × Field ρ} :
    p ∈ c.fieldsOf records ↔ p.1 ∈ records ∧ p.2 ∈ p.1.allFields c.catalog := by
  simp only [fieldsOf, List.mem_flatMap, List.mem_map]
  constructor
  · rintro ⟨r, hr, f, hf, rfl⟩
    exact ⟨hr, hf⟩
  · rintro ⟨hr, hf⟩
    exact ⟨p.1, hr, p.2, hf, rfl⟩

/-- A batch has no error if every marker that is looked up names a record. -/
theorem error?_eq_none_iff {c : Compiler ρ} {records : List (Record ρ)} :
    c.error? records = none ↔ ∀ r ∈ records, ∀ f ∈ r.allFields c.catalog, ∀ element,
      f.LooksUp element → ∃ child, c.resolve element = some (.record child) := by
  simp only [error?, List.findSome?_eq_none_iff, mem_fieldsOf, Field.error?_eq_none_iff]
  constructor
  · intro h r hr f hf
    exact h (r, f) ⟨hr, hf⟩
  · rintro h ⟨r, f⟩ ⟨hr, hf⟩
    exact h r hr f hf

/-- The join statements of a batch, record by record and field by field. -/
theorem flatMap_joins_joinStatements (c : Compiler ρ) (records : List (Record ρ)) :
    (c.joins records).flatMap c.joinStatements =
      records.flatMap fun r => (r.allFields c.catalog).flatMap fun f =>
        (f.relation? c.toSurroundings).toList.flatMap fun relation =>
          c.templates.joinStatements (c.naming.joinTable r relation.2 f)
            (c.naming.table r) (c.naming.table relation.2) := by
  have hfield : ∀ (r : Record ρ) (fields : List (Field ρ)),
      (fields.filterMap fun f => f.join? c.toSurroundings r).flatMap c.joinStatements =
        fields.flatMap fun f => (f.relation? c.toSurroundings).toList.flatMap fun relation =>
          c.templates.joinStatements (c.naming.joinTable r relation.2 f)
            (c.naming.table r) (c.naming.table relation.2) := by
    intro r fields
    induction fields with
    | nil => rfl
    | cons f fields ih =>
      rw [List.flatMap_cons, ← ih]
      cases h : f.relation? c.toSurroundings <;>
        simp [Field.join?, h, joinStatements, joinTable]
  induction records with
  | nil => rfl
  | cons r rs ih =>
    rw [← List.singleton_append, joins_append, joins_singleton, List.flatMap_append,
      List.flatMap_append, ih, hfield]
    simp

theorem result_compileInto {σ : Type} (c : Compiler ρ) (records : List (Record ρ)) (sink : Sink σ)
    (store : σ) :
    (c.compileInto records sink store).1.result =
      unlessError (c.error? records) (c.schema records).length := by
  have h := result_compile c records
  cases he : c.error? records with
  | none => rw [he] at h; rw [compileInto_of_ok h]; rfl
  | some e => rw [he] at h; rw [compileInto_of_error h]; rfl

/-- A store after a pass: untouched if there was an error, else with the schema handed out to it. -/
theorem store_compileInto {σ : Type} (c : Compiler ρ) (records : List (Record ρ)) (sink : Sink σ)
    (store : σ) :
    (c.compileInto records sink store).2 =
      if (c.error? records).isSome then store else (c.schema records).foldl sink store := by
  have h := result_compile c records
  cases he : c.error? records with
  | none => rw [he] at h; rw [compileInto_of_ok h]; rfl
  | some e => rw [he] at h; rw [compileInto_of_error h]; rfl

end Compiler

/-! ## A small library -/

/-- The records of a library: named things, books, authors of them, and authors who edit. -/
inductive Shelf where
  | named
  | book
  | author
  | editor
deriving DecidableEq

namespace Shelf

/-- An author is a named thing with a table name of its own, a list of books and a favourite. -/
def catalog : Catalog Shelf
  | named => { name := "library::Named", fields := [.plain "name" (.scalar .text)] }
  | book => { name := "library::Book", fields := [.plain "title" (.scalar .text)] }
  | author =>
    { name := "library::Author"
      table := some "authors"
      fields :=
        [(Field.plain "books" .collection).withListOf "library::Book",
          .plain "favourite" (.record book),
          ((Field.plain "cache" .collection).withListOf "library::Missing").ignore]
      parent := some named }
  | editor => { name := "library::Editor", parent := some author }

/-- A compiler whose column policy supports more fields than it gives a type. -/
def compiler : Compiler Shelf where
  catalog := catalog
  resolve name := if name == "library::Book" then some (.record book) else none
  columnTypes := { sqlType := fun f => f.sqlType, supports := fun _ => true }
  config := { dialect := .mysql }
  naming := .standard "app_"

/-- A batch that lists a record twice and another one with inherited relations. -/
def batch : List (Record Shelf) := [catalog author, catalog book, catalog author, catalog editor]

end Shelf

/-! ## The schema is handed out -/

namespace Compiler

/-- If every marker that is looked up names a record, a pass succeeds. It hands out the table of
each record, with the columns its fields become, then the statements of each relation its fields
lead to, and returns how many these are. -/
theorem compileInto_of_resolved {σ : Type} (c : Compiler ρ) (records : List (Record ρ))
    (sink : Sink σ) (store : σ)
    (h : ∀ r ∈ records, ∀ f ∈ r.allFields c.catalog, ∀ element, f.LooksUp element →
      ∃ child, c.resolve element = some (.record child)) :
    ∃ (relation : Field ρ → Option (RelationKind × Record ρ)) (column : Field ρ → Option Column)
      (statements : List String),
      (∀ f kind child, relation f = some (kind, child) ↔ f.LeadsTo c.toSurroundings kind child) ∧
      (∀ f k, column f = some k ↔ f.BecomesColumn c.toSurroundings k) ∧
      statements =
        (records.map fun r => c.templates.tableStatement (c.naming.table r)
          ((r.allFields c.catalog).filterMap column)) ++
        (records.flatMap fun r => (r.allFields c.catalog).flatMap fun f =>
          (relation f).toList.flatMap fun (_, child) =>
            c.templates.joinStatements (c.naming.joinTable r child f)
              (c.naming.table r) (c.naming.table child)) ∧
      (c.compileInto records sink store).1.result = .ok statements.length ∧
      (c.compileInto records sink store).2 = statements.foldl sink store := by
  have he : c.error? records = none := error?_eq_none_iff.2 h
  refine ⟨Field.relation? c.toSurroundings, Field.column? c.toSurroundings, c.schema records,
    fun f kind child => Field.relation?_eq_some_iff, fun f k => Field.column?_eq_some_iff,
    ?_, ?_, ?_⟩
  · rw [← flatMap_joins_joinStatements]
    rfl
  · rw [result_compileInto, he]
    rfl
  · rw [store_compileInto, he]
    rfl

/-- The library's batch: two relations of each author, and of an editor by inheritance. -/
theorem compileInto_of_resolved_shelf :
    (∀ r ∈ Shelf.batch, ∀ f ∈ r.allFields Shelf.compiler.catalog, ∀ element, f.LooksUp element →
      ∃ child, Shelf.compiler.resolve element = some (.record child)) ∧
    ∃ statements : List String, statements.length = 10 ∧
      (Shelf.compiler.compileInto Shelf.batch (fun n _ => n + 1) 0).2 =
        statements.foldl (fun n _ => n + 1) 0 := by
  have h := error?_eq_none_iff.1 (show Shelf.compiler.error? Shelf.batch = none by decide)
  obtain ⟨-, -, statements, -, -, -, hn, hs⟩ :=
    compileInto_of_resolved Shelf.compiler Shelf.batch (fun n _ => n + 1) 0 h
  have hlen : (Shelf.compiler.compileInto Shelf.batch (fun n _ => n + 1) 0).1.result = .ok 10 := by
    rfl
  rw [hlen] at hn
  exact ⟨h, statements, (Except.ok.inj hn).symm, hs⟩

end Compiler

end RecordSchema
