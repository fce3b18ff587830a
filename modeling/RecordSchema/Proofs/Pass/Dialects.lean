import RecordSchema.Proofs.Pass.Batch
import RecordSchema.Proofs.Pass.Failure
import RecordSchema.Proofs.Template.Filling

/-!
# One schema in two dialects

Of what a compiler is made of only the catalog and the resolver decide which fields are relations
and which are refused; dialect, names and column types come in when statements are written. So the
passes for the two dialects fail together or find the same relations, in the same order
(`Compiler.error?_congr`, `Compiler.joins_congr`). With the standard policies they also find the
same columns, for a field has a column type in one dialect if it has one in the other. The two
schemas then correspond statement by statement, but that SQLite writes two statements for a relation
and MySQL one (`Compiler.getElem?_schema_join`).
-/

namespace RecordSchema

variable {ρ : Type}

/-! ## What decides on relations and errors -/

section Congr

variable {s s' : Surroundings ρ} (hr : s'.resolve = s.resolve)

include hr

theorem Field.error?_congr (owner : String) (f : Field ρ) :
    f.error? s' owner = f.error? s owner := by
  unfold error?
  rw [hr]

theorem Field.join?_congr (hc : s'.catalog = s.catalog) (r : Record ρ) (f : Field ρ) :
    f.join? s' r = f.join? s r := by
  unfold join? relation?
  rw [hr, hc]

end Congr

namespace Compiler

section Congr

variable {c c' : Compiler ρ} (hc : c'.catalog = c.catalog) (hr : c'.resolve = c.resolve)

include hc hr

/-- Compilers with one catalog and one resolver refuse the same batches, with the same error. -/
theorem error?_congr (records : List (Record ρ)) : c'.error? records = c.error? records := by
  unfold error? fieldsOf
  rw [hc]
  simp only [Field.error?_congr hr]

/-- And they find the same relations, in the same order. -/
theorem joins_congr (records : List (Record ρ)) : c'.joins records = c.joins records := by
  unfold joins fieldsOf
  rw [hc]
  simp only [Field.join?_congr hr hc]

end Congr

end Compiler

/-! ## Where the statements of a schema stand -/

/-- A list made of parts of one length is read part by part. -/
theorem getElem?_flatMap_of_length {α β : Type} {f : α → List β} {k : Nat}
    (hk : ∀ x, (f x).length = k) (xs : List α) (i : Nat) {o : Nat} (ho : o < k) :
    (xs.flatMap f)[k * i + o]? = xs[i]?.bind fun x => (f x)[o]? := by
  induction xs generalizing i with
  | nil => simp
  | cons x xs ih =>
    rw [List.flatMap_cons]
    cases i with
    | zero =>
      rw [Nat.mul_zero, Nat.zero_add, List.getElem?_append_left (by rw [hk]; exact ho)]
      rfl
    | succ i =>
      have hplace : k * (i + 1) + o = (f x).length + (k * i + o) := by
        rw [hk, Nat.mul_succ]
        omega
      rw [hplace, List.getElem?_append_right (Nat.le_add_right ..), Nat.add_sub_cancel_left, ih,
        List.getElem?_cons_succ]

theorem length_flatMap_of_length {α β : Type} {f : α → List β} {k : Nat}
    (hk : ∀ x, (f x).length = k) (xs : List α) : (xs.flatMap f).length = k * xs.length := by
  induction xs with
  | nil => rfl
  | cons x xs ih =>
    rw [List.flatMap_cons, List.length_append, hk, ih, List.length_cons, Nat.mul_succ, Nat.add_comm]

namespace Compiler

theorem length_joinStatements (c : Compiler ρ) (j : Join ρ) :
    (c.joinStatements j).length = c.templates.statementsPerJoin :=
  Templates.length_joinStatements ..

theorem length_schema (c : Compiler ρ) (records : List (Record ρ)) :
    (c.schema records).length =
      records.length + c.templates.statementsPerJoin * (c.joins records).length := by
  rw [schema, List.length_append, List.length_map, length_flatMap_of_length c.length_joinStatements]

/-- After the tables each relation has as many statements as the dialect needs. -/
theorem getElem?_schema_join (c : Compiler ρ) (records : List (Record ρ)) (i : Nat) {o : Nat}
    (ho : o < c.templates.statementsPerJoin) :
    (c.schema records)[records.length + (c.templates.statementsPerJoin * i + o)]? =
      (c.joins records)[i]?.bind fun j => (c.joinStatements j)[o]? := by
  have hlen : (records.map c.table).length ≤
      records.length + (c.templates.statementsPerJoin * i + o) := by
    rw [List.length_map]
    exact Nat.le_add_right ..
  rw [schema, List.getElem?_append_right hlen, List.length_map, Nat.add_sub_cancel_left,
    getElem?_flatMap_of_length c.length_joinStatements _ _ ho]

end Compiler

/-! ## Columns in two dialects -/

/-- The types of a field's column in SQLite and in MySQL: a type text of the field's own in both,
or else the two spellings of one semantic type. -/
inductive Field.TypedAs (f : Field ρ) : String → String → Prop
  | own {text : String} (h : f.sqlType = some text) : TypedAs f text text
  | spelled {t : SqlType} (h : f.sqlType = none) (ht : f.type = .scalar t) :
    TypedAs f (Dialect.sqlite.typeName t) (Dialect.mysql.typeName t)

/-- A field has a column type in both dialects or in none. -/
theorem ColumnTypes.sqlType_standard_cases (f : Field ρ) :
    (∀ d, (standard d).sqlType f = none) ∨
      ∃ type : Dialect → String, (∀ d, (standard d).sqlType f = some (type d)) ∧
        f.TypedAs (type .sqlite) (type .mysql) := by
  cases ho : f.sqlType with
  | some text => exact .inr ⟨fun _ => text, fun _ => sqlType_standard_of_some ho, .own ho⟩
  | none =>
    cases ht : f.type with
    | scalar t =>
      refine .inr ⟨fun d => d.typeName t, fun d => ?_, .spelled ho ht⟩
      rw [sqlType_standard_of_none ho, ht]
      rfl
    | record _ | collection | foreign _ =>
      refine .inl fun d => ?_
      rw [sqlType_standard_of_none ho, ht]
      rfl

namespace Compiler

section Standard

variable (tablePrefix : String) (catalog : Catalog ρ) (resolve : Resolver ρ)

theorem column?_standard_cases (f : Field ρ) :
    (∀ d, f.column? (standard { dialect := d, tablePrefix } catalog resolve).toSurroundings =
      none) ∨
    ∃ type : Dialect → String,
      (∀ d, f.column? (standard { dialect := d, tablePrefix } catalog resolve).toSurroundings =
        some ⟨f.column, type d⟩) ∧
      f.TypedAs (type .sqlite) (type .mysql) := by
  have hcolumn : ∀ d, (standard { dialect := d, tablePrefix } catalog resolve).columnTypes =
      .standard d := fun _ => rfl
  unfold Field.column?
  simp only [hcolumn, ColumnTypes.supports_standard]
  cases hi : f.ignored with
  | true => exact .inl fun _ => rfl
  | false =>
    cases ht : f.type with
    | record _ => exact .inl fun _ => rfl
    | scalar _ | collection | foreign _ =>
      rcases ColumnTypes.sqlType_standard_cases f with hnone | ⟨type, htype, hty⟩
      · exact .inl fun d => by simp [hnone]
      · cases hl : f.listOf with
        | some element => exact .inl fun _ => by simp
        | none => exact .inr ⟨type, fun d => by simp [htype], hty⟩

/-- The columns of a record in both dialects: some of its fields, each with its two types. -/
theorem columns_standard (fields : List (Field ρ)) :
    ∃ columns : List (Field ρ × (Dialect → String)),
      (columns.map Prod.fst).Sublist fields ∧
      (∀ k ∈ columns, k.1.TypedAs (k.2 .sqlite) (k.2 .mysql)) ∧
      ∀ d, fields.filterMap (Field.column?
          (standard { dialect := d, tablePrefix } catalog resolve).toSurroundings) =
        columns.map fun k => ⟨k.1.column, k.2 d⟩ := by
  induction fields with
  | nil => exact ⟨[], .slnil, List.forall_mem_nil _, fun _ => List.filterMap_nil⟩
  | cons f fields ih =>
    obtain ⟨columns, hsub, hty, hcolumns⟩ := ih
    rcases column?_standard_cases tablePrefix catalog resolve f with hnone | ⟨type, hf, hft⟩
    · refine ⟨columns, hsub.cons f, hty, fun d => ?_⟩
      rw [List.filterMap_cons_none (hnone d), hcolumns]
    · refine ⟨(f, type) :: columns, hsub.cons_cons f, ?_, fun d => ?_⟩
      · rw [List.forall_mem_cons]
        exact ⟨hft, hty⟩
      · rw [List.filterMap_cons_some (hf d), hcolumns, List.map_cons]

end Standard

end Compiler

/-! ## Statements in two dialects -/

/-- What follows the first of several texts with a separator between them. -/
theorem intercalate_cons_eq_join (sep text : String) (texts : List String) :
    sep.intercalate (text :: texts) = text ++ String.join (texts.map (sep ++ ·)) := by
  induction texts generalizing text with
  | nil => simp
  | cons next texts ih =>
    rw [String.intercalate_cons_cons, ih, List.map_cons, String.join_cons]
    simp only [String.append_assoc]

/-- What follows more texts, each with a separator in front of it. -/
theorem intercalate_append_eq_join (sep : String) {texts : List String} (h : texts ≠ [])
    (more : List String) :
    sep.intercalate (texts ++ more) = sep.intercalate texts ++ String.join (more.map (sep ++ ·)) := by
  obtain ⟨text, texts, rfl⟩ := List.exists_cons_of_ne_nil h
  rw [List.cons_append, intercalate_cons_eq_join, intercalate_cons_eq_join, List.map_append,
    String.join_append, String.append_assoc]

namespace Dialect

/-- The columns that every table has. -/
def ownColumns : Dialect → List Column
  | sqlite => [⟨"record_id", "varchar(255) primary key"⟩, ⟨"record_created", "long"⟩,
      ⟨"record_updated", "long"⟩, ⟨"record_version", "long"⟩]
  | mysql => [⟨"record_id", "VARCHAR(255) PRIMARY KEY"⟩, ⟨"record_created", "BIGINT"⟩,
      ⟨"record_updated", "BIGINT"⟩, ⟨"record_version", "BIGINT"⟩]

/-- They have the same names in both dialects. -/
theorem map_name_ownColumns (d : Dialect) : d.ownColumns.map Column.name =
    ["record_id", "record_created", "record_updated", "record_version"] := by
  cases d <;> rfl

/-- The statement that creates a table with the given columns. -/
def createTable (table : String) (columns : List Column) : String :=
  "CREATE TABLE " ++ table ++ " (\n" ++ ",\n".intercalate (columns.map Column.sql) ++ "\n)"

/-- A table has the columns of every table and then its own. -/
theorem tableStatement_eq_createTable (d : Dialect) (table : String) (columns : List Column) :
    d.templates.tableStatement table columns = createTable table (d.ownColumns ++ columns) := by
  have hhead : d.tableHead = " (\n" ++ ",\n".intercalate (d.ownColumns.map Column.sql) := by
    unfold tableHead ownColumns Column.sql
    cases d
    all_goals
      simp only [List.map_cons, List.map_nil, String.intercalate_cons_cons,
        String.intercalate_singleton]
      repeat rw [← String.ofList_append]
      rfl
  have hne : d.ownColumns.map Column.sql ≠ [] := by
    cases d <;> exact nofun
  rw [tableStatement_eq]
  unfold tableText createTable
  rw [hhead, List.map_append, intercalate_append_eq_join _ hne, List.map_map]
  simp only [Column.sql, Function.comp_def, String.append_assoc]

/-- The table of a relation declares its index in MySQL. -/
theorem exists_index_joinTableText (joinTable owner child : String) :
    ∃ before after, joinTableText joinTable owner child .mysql =
      before ++ "INDEX " ++ joinTable ++ "_idx (parent_id)" ++ after := by
  have hbefore : "child_id VARCHAR(255) NOT NULL,\nINDEX " =
      "child_id VARCHAR(255) NOT NULL,\n" ++ "INDEX " := by
    rw [← String.ofList_append]
    rfl
  have hafter : "_idx (parent_id),\nFOREIGN KEY (parent_id) REFERENCES " =
      "_idx (parent_id)" ++ ",\nFOREIGN KEY (parent_id) REFERENCES " := by
    rw [← String.ofList_append]
    rfl
  refine ⟨"CREATE TABLE " ++ joinTable ++
      " (\njoin_id INT PRIMARY KEY AUTO_INCREMENT,\nparent_id VARCHAR(255) NOT NULL,\n" ++
      "child_id VARCHAR(255) NOT NULL,\n",
    ",\nFOREIGN KEY (parent_id) REFERENCES " ++ owner ++
      "(record_id) ON DELETE CASCADE,\nFOREIGN KEY (child_id) REFERENCES " ++ child ++
      "(record_id) ON DELETE CASCADE\n)", ?_⟩
  unfold joinTableText
  rw [hbefore, hafter]
  simp only [String.append_assoc]

/-- A statement that creates a table does not start like one that creates an index. -/
theorem startsWith_index_of_table (rest : String) :
    ("CREATE TABLE " ++ rest).startsWith "CREATE INDEX" = false := by
  rw [Bool.eq_false_iff, ne_eq, String.startsWith_string_iff, String.toList_append]
  intro h
  have hshort := List.prefix_of_prefix_length_le h (List.prefix_append ..) (by decide)
  exact absurd hshort (by decide)

end Dialect

namespace Compiler

section Standard

variable (tablePrefix : String) (catalog : Catalog ρ) (resolve : Resolver ρ)

/-- A table in both dialects: one name, and the same columns up to their types. -/
theorem table_standard (r : Record ρ) :
    ∃ columns : List (Field ρ × (Dialect → String)),
      (columns.map Prod.fst).Sublist (r.allFields catalog) ∧
      (∀ k ∈ columns, k.1.TypedAs (k.2 .sqlite) (k.2 .mysql)) ∧
      ∀ d, (standard { dialect := d, tablePrefix } catalog resolve).table r =
        Dialect.createTable ((Naming.standard tablePrefix).table r)
          (d.ownColumns ++ columns.map fun k => ⟨k.1.column, k.2 d⟩) := by
  obtain ⟨columns, hsub, hty, hcolumns⟩ :=
    columns_standard tablePrefix catalog resolve (r.allFields catalog)
  refine ⟨columns, hsub, hty, fun d => ?_⟩
  rw [← hcolumns, ← Dialect.tableStatement_eq_createTable]
  rfl

/-- The statements of a relation in a dialect: its table, and an index where there has to be one. -/
theorem joinStatements_standard (d : Dialect) (j : Join ρ) :
    (standard { dialect := d, tablePrefix } catalog resolve).joinStatements j =
      d.joinTableText ((Naming.standard tablePrefix).joinTable j.owner j.child j.field)
          ((Naming.standard tablePrefix).table j.owner)
          ((Naming.standard tablePrefix).table j.child) ::
        (d.joinIndexText? ((Naming.standard tablePrefix).joinTable j.owner j.child j.field)).toList :=
  Dialect.joinStatements_eq ..

/-- No statement for MySQL creates an index. -/
theorem startsWith_index_schema_mysql (records : List (Record ρ)) :
    ∀ s ∈ (standard { dialect := .mysql, tablePrefix } catalog resolve).schema records,
      s.startsWith "CREATE INDEX" = false := by
  intro s hs
  rw [schema, List.mem_append, List.mem_map, List.mem_flatMap] at hs
  rcases hs with ⟨r, -, rfl⟩ | ⟨j, -, hs⟩
  · obtain ⟨columns, -, -, htable⟩ := table_standard tablePrefix catalog resolve r
    rw [htable]
    unfold Dialect.createTable
    simp only [String.append_assoc, Dialect.startsWith_index_of_table]
  · rw [joinStatements_standard, Dialect.joinIndexText?, Option.toList_none, List.mem_singleton]
      at hs
    rw [hs]
    unfold Dialect.joinTableText
    simp only [String.append_assoc, Dialect.startsWith_index_of_table]

end Standard

end Compiler

/-- Statements in the two dialects create the same tables for the records of a batch and for the
relations that lead from them. -/
structure SameSchema (catalog : Catalog ρ) (naming : Naming ρ) (records : List (Record ρ))
    (joins : List (Join ρ)) (out : Dialect → List String) : Prop where
  /-- A relation has two statements in SQLite. -/
  length_sqlite : (out .sqlite).length = records.length + 2 * joins.length
  /-- And one in MySQL. -/
  length_mysql : (out .mysql).length = records.length + joins.length
  /-- A record has one table, with the same columns but for the spelling of their types. -/
  table {i : Nat} {r : Record ρ} (h : records[i]? = some r) :
    ∃ columns : List (Field ρ × (Dialect → String)),
      (columns.map Prod.fst).Sublist (r.allFields catalog) ∧
      (∀ k ∈ columns, k.1.TypedAs (k.2 .sqlite) (k.2 .mysql)) ∧
      ∀ d, (out d)[i]? = some (Dialect.createTable (naming.table r)
        (d.ownColumns ++ columns.map fun k => ⟨k.1.column, k.2 d⟩))
  /-- A relation has one join table in SQLite. -/
  joinTable_sqlite {i : Nat} {j : Join ρ} (h : joins[i]? = some j) :
    (out .sqlite)[records.length + 2 * i]? =
      some (Dialect.joinTableText (naming.joinTable j.owner j.child j.field)
        (naming.table j.owner) (naming.table j.child) .sqlite)
  /-- And the same in MySQL. -/
  joinTable_mysql {i : Nat} {j : Join ρ} (h : joins[i]? = some j) :
    (out .mysql)[records.length + i]? =
      some (Dialect.joinTableText (naming.joinTable j.owner j.child j.field)
        (naming.table j.owner) (naming.table j.child) .mysql)
  /-- In SQLite its index is a statement of its own. -/
  index_sqlite {i : Nat} {j : Join ρ} (h : joins[i]? = some j) :
    (out .sqlite)[records.length + 2 * i + 1]? =
      some ("CREATE INDEX " ++ naming.joinTable j.owner j.child j.field ++ "_idx ON " ++
        naming.joinTable j.owner j.child j.field ++ "(parent_id)")
  /-- In MySQL it stands within the table. -/
  index_mysql {i : Nat} {j : Join ρ} (h : joins[i]? = some j) :
    ∃ before after, (out .mysql)[records.length + i]? =
      some (before ++ "INDEX " ++ naming.joinTable j.owner j.child j.field ++
        "_idx (parent_id)" ++ after)
  not_index {s : String} (h : s ∈ out .mysql) : s.startsWith "CREATE INDEX" = false

namespace Compiler

/-- The schemas of a batch with the standard policies. -/
theorem sameSchema_standard (tablePrefix : String) (catalog : Catalog ρ) (resolve : Resolver ρ)
    (records : List (Record ρ)) :
    SameSchema catalog (.standard tablePrefix) records
      ((standard { dialect := .sqlite, tablePrefix } catalog resolve).joins records)
      fun d => (standard { dialect := d, tablePrefix } catalog resolve).schema records := by
  let c (d : Dialect) : Compiler ρ := standard { dialect := d, tablePrefix } catalog resolve
  have hsqlite : (c .sqlite).templates.statementsPerJoin = 2 := rfl
  have hmysql : (c .mysql).templates.statementsPerJoin = 1 := rfl
  have hjoins : (c .mysql).joins records = (c .sqlite).joins records :=
    joins_congr rfl rfl records
  have hmysqlTable : ∀ {i : Nat} {j : Join ρ}, ((c .sqlite).joins records)[i]? = some j →
      ((c .mysql).schema records)[records.length + i]? = ((c .mysql).joinStatements j)[0]? := by
    intro i j hj
    have h := getElem?_schema_join (c .mysql) records i (o := 0) (by rw [hmysql]; decide)
    rwa [hmysql, hjoins, hj, Nat.one_mul] at h
  refine
    { length_sqlite := ?_, length_mysql := ?_, table := ?_, joinTable_sqlite := ?_,
      joinTable_mysql := ?_, index_sqlite := ?_, index_mysql := ?_, not_index := ?_ }
  · exact length_schema (c .sqlite) records
  · have h := length_schema (c .mysql) records
    rwa [hmysql, hjoins, Nat.one_mul] at h
  · intro i r hr
    obtain ⟨columns, hsub, hty, htable⟩ := table_standard tablePrefix catalog resolve r
    refine ⟨columns, hsub, hty, fun d => ?_⟩
    rw [← htable]
    exact getElem?_schema_table (c d) hr
  · intro i j hj
    have h := getElem?_schema_join (c .sqlite) records i (o := 0) (by rw [hsqlite]; decide)
    rwa [hsqlite, hj, Option.bind_some, joinStatements_standard] at h
  · intro i j hj
    rw [hmysqlTable hj, joinStatements_standard]
    rfl
  · intro i j hj
    have h := getElem?_schema_join (c .sqlite) records i (o := 1) (by rw [hsqlite]; decide)
    rwa [hsqlite, hj, Option.bind_some, joinStatements_standard] at h
  · intro i j hj
    obtain ⟨before, after, htext⟩ := Dialect.exists_index_joinTableText
      ((Naming.standard tablePrefix).joinTable j.owner j.child j.field)
      ((Naming.standard tablePrefix).table j.owner) ((Naming.standard tablePrefix).table j.child)
    refine ⟨before, after, ?_⟩
    rw [hmysqlTable hj, joinStatements_standard, htext]
    rfl
  · intro s hs
    exact startsWith_index_schema_mysql tablePrefix catalog resolve records s hs

/-- The passes of the two dialects, with the standard policies, fail with one error or describe one
schema: the same tables with the same columns, and the same relations between them. That they fail,
and which relations they find, depends on the catalog and the resolver alone. -/
theorem dialects_describe_one_schema :
    (∀ (catalog : Catalog ρ) (resolve : Resolver ρ) (tablePrefix : String)
      (records : List (Record ρ)),
      let config (d : Dialect) : Config := { dialect := d, tablePrefix }
      let pass (d : Dialect) : Except SchemaError (List String) :=
        Request.statements { config := config d, catalog, resolve, records }
      -- both fail, with the same error, or both succeed
      (∃ e, ∀ d, pass d = .error e) ∨
      ∃ (out : Dialect → List String) (joins : List (Join ρ)),
        (∀ d, pass d = .ok (out d)) ∧
        -- after finding the same relations
        (∀ d, ((standard (config d) catalog resolve).tableStatements .empty records).result.map
          (fun tables => tables.2.joins) = .ok joins) ∧
        SameSchema catalog (.standard tablePrefix) records joins out) ∧
    -- the columns of every table included
    (∀ d : Dialect, d.ownColumns.map Column.name =
      ["record_id", "record_created", "record_updated", "record_version"]) ∧
    -- with any policies in place of the standard ones
    (∀ (c : Compiler ρ) (columnTypes : ColumnTypes ρ) (naming : Naming ρ) (config : Config)
      (records : List (Record ρ)),
      let c' : Compiler ρ := { c with columnTypes, naming, config }
      (∀ e, (c'.compile records).result = .error e ↔ (c.compile records).result = .error e) ∧
      (c'.tableStatements .empty records).result.map (fun tables => tables.2.joins) =
        (c.tableStatements .empty records).result.map fun tables => tables.2.joins) := by
  refine ⟨?_, Dialect.map_name_ownColumns, ?_⟩
  · intro catalog resolve tablePrefix records config pass
    cases hp : Config.isValidPrefix tablePrefix with
    | false =>
      exact .inl ⟨.invalidConfig (.tablePrefix tablePrefix),
        fun d => Request.statements_of_invalid hp⟩
    | true =>
      let c (d : Dialect) : Compiler ρ := standard (config d) catalog resolve
      have herror : ∀ d, (c d).error? records = (c .sqlite).error? records :=
        fun d => error?_congr rfl rfl records
      have hjoins : ∀ d, (c d).joins records = (c .sqlite).joins records :=
        fun d => joins_congr rfl rfl records
      have hpass : ∀ d, pass d =
          unlessError ((c .sqlite).error? records) ((c d).schema records) := fun d => by
        rw [← herror]
        exact Request.statements_of_valid hp
      cases he : (c .sqlite).error? records with
      | some e =>
        rw [he] at hpass
        exact .inl ⟨e, hpass⟩
      | none =>
        rw [he] at hpass
        refine .inr ⟨_, _, hpass, fun d => ?_,
          sameSchema_standard tablePrefix catalog resolve records⟩
        rw [result_tableStatements, herror, he, hjoins]
        rfl
  · intro c columnTypes naming config records c'
    have herror : c'.error? records = c.error? records := error?_congr rfl rfl records
    have hjoins : c'.joins records = c.joins records := joins_congr rfl rfl records
    refine ⟨fun e => ?_, ?_⟩
    · rw [result_compile, result_compile, unlessError_eq_error_iff, unlessError_eq_error_iff, herror]
    · rw [result_tableStatements, result_tableStatements, herror, hjoins]
      cases c.error? records <;> rfl

/-- The library's batch has four records and six relations: 16 statements for SQLite, 10 for
MySQL. -/
theorem dialects_describe_one_schema_shelf :
    ∃ (out : Dialect → List String) (joins : List (Join Shelf)),
      SameSchema Shelf.catalog (.standard "app_") Shelf.batch joins out ∧
      joins.length = 6 ∧ (out .sqlite).length = 16 ∧ (out .mysql).length = 10 := by
  let pass (d : Dialect) : Except SchemaError (List String) := Request.statements
    { config := { dialect := d, tablePrefix := "app_" }
      catalog := Shelf.catalog
      resolve := Shelf.compiler.resolve
      records := Shelf.batch }
  have hcount : (pass .sqlite).map List.length = .ok 16 := rfl
  obtain ⟨e, herror⟩ | ⟨out, joins, hpass, -, hsame⟩ := dialects_describe_one_schema.1
    Shelf.catalog Shelf.compiler.resolve "app_" Shelf.batch
  · rw [show pass .sqlite = _ from herror .sqlite] at hcount
    cases hcount
  · rw [show pass .sqlite = _ from hpass .sqlite] at hcount
    have hsqlite : (out .sqlite).length = 16 := Except.ok.inj hcount
    have hjoins : joins.length = 6 := by
      have h : 4 + 2 * joins.length = 16 := hsame.length_sqlite.symm.trans hsqlite
      omega
    refine ⟨out, joins, hsame, hjoins, hsqlite, ?_⟩
    rw [hsame.length_mysql, hjoins]
    rfl

end Compiler

end RecordSchema
