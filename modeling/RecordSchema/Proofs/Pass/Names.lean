import RecordSchema.Proofs.Pass.Dialects
import RecordSchema.Proofs.Registry.Closure
import RecordSchema.Proofs.Text.Identifier

/-!
# Names in the output

The names of a schema are put together from the names of records and fields, explicit table names
and the prefix, by the naming policy, and an index is named after its join table. If the parts are
names as SQL takes them unquoted, or for records paths of such names, then so is all that is put
together from them (`Naming.standard_table_identifier`, `Naming.standard_joinTable_identifier`).
The text of each statement is written here by its names, those of columns and of indices too, so
that no name in the output is left out (`Compiler.names_are_identifiers`).
-/

namespace RecordSchema

open Text (Identifier TypePath)

variable {ρ : Type}

/-! ## Where names stand in a join table -/

namespace Dialect

/-- The columns that every join table has. -/
def joinColumns : Dialect → List Column
  | sqlite => [⟨"join_id", "integer primary key autoincrement"⟩,
      ⟨"parent_id", "varchar(255) NOT NULL"⟩, ⟨"child_id", "varchar(255) NOT NULL"⟩]
  | mysql => [⟨"join_id", "INT PRIMARY KEY AUTO_INCREMENT"⟩,
      ⟨"parent_id", "VARCHAR(255) NOT NULL"⟩, ⟨"child_id", "VARCHAR(255) NOT NULL"⟩]

/-- The name of a join table's index. -/
def indexName (joinTable : String) : String := joinTable ++ "_idx"

/-- The clause of a foreign key. -/
def foreignKey (column table : String) : String :=
  "FOREIGN KEY (" ++ column ++ ") REFERENCES " ++ table ++ "(record_id) ON DELETE CASCADE"

/-- The clause of an index inside a table, in the dialect that has it there. -/
def indexClause? (joinTable : String) : Dialect → Option String
  | sqlite => none
  | mysql => some ("INDEX " ++ indexName joinTable ++ " (parent_id)")

/-- The statement that creates a join table: its columns, its index and its references. -/
def createJoinTable (d : Dialect) (joinTable owner child : String) : String :=
  "CREATE TABLE " ++ joinTable ++ " (\n" ++
    ",\n".intercalate (d.joinColumns.map Column.sql ++ (d.indexClause? joinTable).toList ++
      [foreignKey "parent_id" owner, foreignKey "child_id" child]) ++ "\n)"

/-- The statement that creates the index of a join table, in the dialect that needs one. -/
def createIndex? (joinTable : String) : Dialect → Option String
  | sqlite => some ("CREATE INDEX " ++ indexName joinTable ++ " ON " ++ joinTable ++ "(parent_id)")
  | mysql => none

theorem joinTableText_eq_createJoinTable (d : Dialect) (joinTable owner child : String) :
    d.joinTableText joinTable owner child = d.createJoinTable joinTable owner child := by
  -- the two sides are one text, cut in different places
  have hbetween : "(record_id) ON DELETE CASCADE,\nFOREIGN KEY (child_id) REFERENCES " =
      "(record_id) ON DELETE CASCADE" ++ ",\n" ++ "FOREIGN KEY (" ++ "child_id" ++
        ") REFERENCES " := by
    repeat rw [← String.ofList_append]
    rfl
  have hend : "(record_id) ON DELETE CASCADE\n)" = "(record_id) ON DELETE CASCADE" ++ "\n)" := by
    repeat rw [← String.ofList_append]
    rfl
  cases d with
  | sqlite =>
    have hfirst :
        " (\njoin_id integer primary key autoincrement,\nparent_id varchar(255) NOT NULL,\n" =
          " (\n" ++ "join_id" ++ " " ++ "integer primary key autoincrement" ++ ",\n" ++
            "parent_id" ++ " " ++ "varchar(255) NOT NULL" ++ ",\n" := by
      repeat rw [← String.ofList_append]
      rfl
    have hlast : "child_id varchar(255) NOT NULL,\nFOREIGN KEY (parent_id) REFERENCES " =
        "child_id" ++ " " ++ "varchar(255) NOT NULL" ++ ",\n" ++ "FOREIGN KEY (" ++ "parent_id" ++
          ") REFERENCES " := by
      repeat rw [← String.ofList_append]
      rfl
    unfold joinTableText createJoinTable foreignKey
    rw [hfirst, hlast, hbetween, hend]
    simp only [joinColumns, indexClause?, Column.sql,
      Option.toList_none, List.map_cons, List.map_nil, List.cons_append, List.nil_append,
      String.intercalate_cons_cons, String.intercalate_singleton, String.append_assoc]
  | mysql =>
    have hfirst :
        " (\njoin_id INT PRIMARY KEY AUTO_INCREMENT,\nparent_id VARCHAR(255) NOT NULL,\n" =
          " (\n" ++ "join_id" ++ " " ++ "INT PRIMARY KEY AUTO_INCREMENT" ++ ",\n" ++
            "parent_id" ++ " " ++ "VARCHAR(255) NOT NULL" ++ ",\n" := by
      repeat rw [← String.ofList_append]
      rfl
    have hlast : "child_id VARCHAR(255) NOT NULL,\nINDEX " =
        "child_id" ++ " " ++ "VARCHAR(255) NOT NULL" ++ ",\n" ++ "INDEX " := by
      repeat rw [← String.ofList_append]
      rfl
    have hindex : "_idx (parent_id),\nFOREIGN KEY (parent_id) REFERENCES " =
        "_idx" ++ " (parent_id)" ++ ",\n" ++ "FOREIGN KEY (" ++ "parent_id" ++ ") REFERENCES " := by
      repeat rw [← String.ofList_append]
      rfl
    unfold joinTableText createJoinTable foreignKey
    rw [hfirst, hlast, hindex, hbetween, hend]
    simp only [joinColumns, indexClause?, indexName, Column.sql,
      Option.toList_some, List.map_cons, List.map_nil, List.cons_append, List.nil_append,
      String.intercalate_cons_cons, String.intercalate_singleton, String.append_assoc]

theorem joinIndexText?_eq_createIndex? (d : Dialect) (joinTable : String) :
    d.joinIndexText? joinTable = d.createIndex? joinTable := by
  cases d with
  | sqlite =>
    have hsplit : "_idx ON " = "_idx" ++ " ON " := by decide
    simp only [joinIndexText?, createIndex?, indexName, hsplit, String.append_assoc]
  | mysql => rfl

end Dialect

/-! ## Names put together -/

/-- The names that a record has of its own. -/
structure Record.Named (r : Record ρ) : Prop where
  name : TypePath r.name
  table : ∀ t, r.table = some t → Identifier t

/-- A record whose fields are named too, those it inherits as well as its own, and the records that
these hold. -/
structure Record.FullyNamed (catalog : Catalog ρ) (r : Record ρ) : Prop extends r.Named where
  field : ∀ f ∈ r.allFields catalog, Identifier f.name ∧ Identifier f.column
  child : ∀ f ∈ r.allFields catalog, ∀ c, f.type = .record c → (catalog c).Named

namespace Naming

theorem standard_table_of_path {p : String} {r : Record ρ} (names : List String) {last : String}
    (hlast : Identifier last) (hname : r.name = "::".intercalate (names ++ [last]))
    (htable : r.table = none) : (standard p).table r = p ++ last := by
  rw [table_standard_of_none htable, Record.shortName, hname,
    Text.lastSegment_intercalate names hlast]

theorem baseName_identifier {r : Record ρ} (h : r.Named) : Identifier (baseName r) := by
  unfold baseName
  cases ht : r.table with
  | some t => exact h.table t ht
  | none => exact h.name.lastSegment

/-- A valid prefix in front of a name makes a name. -/
theorem prefixed_identifier {p name : String} (hp : Config.isValidPrefix p = true)
    (h : Identifier name) : Identifier (p ++ name) := by
  rcases Config.isValidPrefix_iff.1 hp with rfl | hp
  · rwa [String.empty_append]
  · exact hp.append h.namePart

section

variable {p : String} (hp : Config.isValidPrefix p = true)

include hp

theorem standard_table_identifier {r : Record ρ} (h : r.Named) :
    Identifier ((standard p).table r) := by
  cases ht : r.table with
  | some t =>
    rw [table_standard_of_some ht]
    exact h.table t ht
  | none =>
    rw [table_standard_of_none ht]
    exact prefixed_identifier hp h.name.lastSegment

theorem standard_joinTable_identifier {owner child : Record ρ} {f : Field ρ} (ho : owner.Named)
    (hc : child.Named) (hf : Identifier f.name) :
    Identifier ((standard p).joinTable owner child f) := by
  refine prefixed_identifier hp ?_
  exact ((baseName_identifier ho).underscore (baseName_identifier hc)).underscore hf

end

end Naming

theorem Dialect.indexName_identifier {joinTable : String} (h : Identifier joinTable) :
    Identifier (indexName joinTable) :=
  h.append (by simp [Text.NamePart, Text.NameStart])

/-! ## Names in the statements of a pass -/

namespace Compiler

section

variable {c : Compiler ρ} {records : List (Record ρ)}

theorem schema_eq_create (c : Compiler ρ) (records : List (Record ρ)) :
    c.schema records =
      (records.map fun r => Dialect.createTable (c.naming.table r)
        (c.config.dialect.ownColumns ++ c.columns r)) ++
      (c.joins records).flatMap fun j =>
        c.config.dialect.createJoinTable (c.joinTable j) (c.naming.table j.owner)
          (c.naming.table j.child) :: (c.config.dialect.createIndex? (c.joinTable j)).toList := by
  have htable : c.table = fun r => Dialect.createTable (c.naming.table r)
      (c.config.dialect.ownColumns ++ c.columns r) :=
    funext fun r => Dialect.tableStatement_eq_createTable ..
  have hjoin : c.joinStatements = fun j =>
      c.config.dialect.createJoinTable (c.joinTable j) (c.naming.table j.owner)
        (c.naming.table j.child) :: (c.config.dialect.createIndex? (c.joinTable j)).toList := by
    funext j
    rw [← Dialect.joinTableText_eq_createJoinTable, ← Dialect.joinIndexText?_eq_createIndex?]
    exact Dialect.joinStatements_eq ..
  rw [schema, htable, hjoin]

theorem column_identifier {r : Record ρ} (h : r.FullyNamed c.catalog) {k : Column}
    (hk : k ∈ c.config.dialect.ownColumns ++ c.columns r) : Identifier k.name := by
  rcases List.mem_append.1 hk with hk | hk
  · have hname := List.mem_map_of_mem (f := Column.name) hk
    rw [Dialect.map_name_ownColumns] at hname
    have hown : ∀ n ∈ ["record_id", "record_created", "record_updated", "record_version"],
        Identifier n := by decide
    exact hown _ hname
  · obtain ⟨f, hf, hcolumn⟩ := List.mem_filterMap.1 hk
    rw [(Field.column?_eq_some_iff.1 hcolumn).named]
    exact (h.field f hf).2

theorem child_named (hrecords : ∀ r ∈ records, r.FullyNamed c.catalog)
    (hresolve : ∀ element child, c.resolve element = some (.record child) →
      (c.catalog child).Named) {j : Join ρ} (hj : j ∈ c.joins records) : j.child.Named := by
  obtain ⟨ho, hf, hleads⟩ := mem_joins_iff.1 hj
  obtain ⟨owner, field, child, kind⟩ := j
  cases hleads with
  | single hi ht => exact (hrecords _ ho).child _ hf _ ht
  | list hl hr => exact hresolve _ _ hr

end

/-- Where all names that a schema is made from are names as SQL takes them unquoted, or paths of
such names, and the prefix is valid, the standard policy makes no others. A record without a table
name of its own has the last name of its path behind the prefix. -/
theorem names_are_identifiers (c : Compiler ρ) (records : List (Record ρ))
    (hconfig : c.config.validate = .ok ()) (hnaming : c.naming = .standard c.config.tablePrefix)
    (hrecords : ∀ r ∈ records, r.FullyNamed c.catalog)
    (hresolve : ∀ element child, c.resolve element = some (.record child) →
      (c.catalog child).Named) :
    -- the output, by the names in it
    (∀ statements, (c.compile records).result = .ok statements →
      statements =
        (records.map fun r => Dialect.createTable (c.naming.table r)
          (c.config.dialect.ownColumns ++ c.columns r)) ++
        (c.joins records).flatMap fun j =>
          c.config.dialect.createJoinTable (c.joinTable j) (c.naming.table j.owner)
            (c.naming.table j.child) :: (c.config.dialect.createIndex? (c.joinTable j)).toList) ∧
    -- tables of records and their columns
    (∀ r ∈ records, Identifier (c.naming.table r) ∧
      ∀ k ∈ c.config.dialect.ownColumns ++ c.columns r, Identifier k.name) ∧
    -- join tables, their columns, their indices, and the tables they refer to
    (∀ k ∈ c.config.dialect.joinColumns, Identifier k.name) ∧
    (∀ j ∈ c.joins records, Identifier (c.joinTable j) ∧
      Identifier (Dialect.indexName (c.joinTable j)) ∧
      Identifier (c.naming.table j.owner) ∧ Identifier (c.naming.table j.child)) ∧
    -- tables without a name of their own
    (∀ (r : Record ρ) (names : List String) (last : String), Identifier last →
      r.name = "::".intercalate (names ++ [last]) → r.table = none →
      c.naming.table r = c.config.tablePrefix ++ last) := by
  have hp := (Config.validate_eq_ok_iff c.config).1 hconfig
  refine ⟨?_, ?_, ?_, ?_, ?_⟩
  · intro statements h
    rw [result_compile] at h
    obtain ⟨-, rfl⟩ := unlessError_eq_ok_iff.1 h
    exact c.schema_eq_create records
  · intro r hr
    refine ⟨?_, fun k hk => column_identifier (hrecords r hr) hk⟩
    rw [hnaming]
    exact Naming.standard_table_identifier hp (hrecords r hr).toNamed
  · cases c.config.dialect <;> decide
  · intro j hj
    obtain ⟨ho, hf, -⟩ := mem_joins_iff.1 hj
    have howner := (hrecords _ ho).toNamed
    have hchild := child_named hrecords hresolve hj
    have hjoin : Identifier (c.joinTable j) := by
      rw [joinTable, hnaming]
      exact Naming.standard_joinTable_identifier hp howner hchild ((hrecords _ ho).field _ hf).1
    rw [hnaming]
    exact ⟨hjoin, Dialect.indexName_identifier hjoin,
      Naming.standard_table_identifier hp howner, Naming.standard_table_identifier hp hchild⟩
  · intro r names last hlast hname htable
    rw [hnaming]
    exact Naming.standard_table_of_path names hlast hname htable

/-- The library with a prefix: an editor's table is called by the last name of its path, and the
join table of the books it inherits has an index of its own name. -/
theorem names_are_identifiers_shelf :
    let c := Compiler.standard { dialect := .mysql, tablePrefix := "app_" } Shelf.catalog
      Shelf.compiler.resolve
    (c.config.validate = .ok () ∧ (∀ r ∈ Shelf.batch, r.FullyNamed c.catalog) ∧
      ∀ element child, c.resolve element = some (.record child) → (c.catalog child).Named) ∧
    c.naming.table (Shelf.catalog .editor) = "app_" ++ "Editor" ∧
    Identifier "app_Editor_Book_books_idx" := by
  intro c
  have hnamed : ∀ s : Shelf, (Shelf.catalog s).Named := by
    intro s
    refine ⟨?_, ?_⟩
    · cases s <;> decide
    · cases s <;> decide
  have hfields : ∀ r ∈ Shelf.batch, ∀ f ∈ r.allFields Shelf.catalog,
      Identifier f.name ∧ Identifier f.column := by decide
  have hbatch : Shelf.batch = [.author, .book, .author, .editor].map Shelf.catalog := rfl
  have hrecords : ∀ r ∈ Shelf.batch, r.FullyNamed c.catalog := by
    intro r hr
    obtain ⟨s, -, rfl⟩ := List.mem_map.1 (hbatch ▸ hr)
    exact ⟨hnamed s, hfields _ hr, fun f hf child ht => hnamed child⟩
  have hconfig : c.config.validate = .ok () := (Config.validate_eq_ok_iff _).2 (by decide)
  have hresolve : ∀ element child, c.resolve element = some (.record child) →
      (c.catalog child).Named := fun element child h => hnamed child
  obtain ⟨-, -, -, hjoins, htable⟩ :=
    names_are_identifiers c Shelf.batch hconfig rfl hrecords hresolve
  refine ⟨⟨hconfig, hrecords, hresolve⟩, ?_, ?_⟩
  · exact htable (Shelf.catalog .editor) ["library"] "Editor" (by decide) (by decide) rfl
  · have hjoin := (hjoins
      { owner := Shelf.catalog .editor
        field := (Field.plain "books" .collection).withListOf "library::Book"
        child := Shelf.catalog .book
        kind := .oneToMany } ?_).2.1
    · exact hjoin
    · have heditor : Shelf.catalog .editor ∈ Shelf.batch :=
        hbatch ▸ List.mem_map_of_mem (by decide)
      exact mem_joins_iff.2 ⟨heditor, by decide, .list ⟨rfl, nofun, rfl⟩ rfl⟩

end Compiler

end RecordSchema
