import RecordSchema.Proofs.Pass.Names

/-!
# Passes with a table prefix

A prefix changes names and nothing else. What a pass writes is settled before any name is looked
up: which records get a table with which columns, and which relations get a join table and an index
(`Compiler.sketches`). The naming policy then names the records and the join tables wherever they
are mentioned (`Compiler.schema_eq_map_statement`). The standard policy reads the prefix in two
places. A record without a table name of its own has the prefix in front of its short name, and
every join table has it in front of the name it has without a prefix. So two passes with different
prefixes fail alike, and their statements are the same sketches under two policies
(`Compiler.prefix_renames`).
-/

namespace RecordSchema

variable {ρ : Type}

/-! ## Statements without names -/

/-- What a statement is made from: a record with its columns, or a relation. -/
inductive Sketch (ρ : Type) where
  | table (r : Record ρ) (columns : List Column)
  | joinTable (j : Join ρ)
  | joinIndex (j : Join ρ)

/-- The statement that creates the index of a join table. -/
def Dialect.createIndex (joinTable : String) : String :=
  "CREATE INDEX " ++ indexName joinTable ++ " ON " ++ joinTable ++ "(parent_id)"

namespace Sketch

/-- The statement of a sketch with the names of a policy. -/
def statement (d : Dialect) (n : Naming ρ) : Sketch ρ → String
  | table r columns => Dialect.createTable (n.table r) (d.ownColumns ++ columns)
  | joinTable j =>
    d.createJoinTable (n.joinTable j.owner j.child j.field) (n.table j.owner) (n.table j.child)
  | joinIndex j => Dialect.createIndex (n.joinTable j.owner j.child j.field)

/-- What there is to write for a relation: an index only where a join table cannot declare it. -/
def ofJoin (d : Dialect) (j : Join ρ) : List (Sketch ρ) :=
  joinTable j :: if d.isMysql then [] else [joinIndex j]

theorem map_statement_ofJoin (d : Dialect) (n : Naming ρ) (j : Join ρ) :
    (ofJoin d j).map (statement d n) =
      d.createJoinTable (n.joinTable j.owner j.child j.field) (n.table j.owner)
          (n.table j.child) ::
        (d.createIndex? (n.joinTable j.owner j.child j.field)).toList := by
  cases d <;> rfl

end Sketch

namespace Compiler

/-- What a pass writes, before there are names. -/
def sketches (c : Compiler ρ) (records : List (Record ρ)) : List (Sketch ρ) :=
  (records.map fun r => .table r (c.columns r)) ++
    (c.joins records).flatMap (Sketch.ofJoin c.config.dialect)

/-- The statements of a pass are its sketches, named by its policy. -/
theorem schema_eq_map_statement (c : Compiler ρ) (records : List (Record ρ)) :
    c.schema records = (c.sketches records).map (Sketch.statement c.config.dialect c.naming) := by
  have htables : (records.map fun r => Sketch.table r (c.columns r)).map
      (Sketch.statement c.config.dialect c.naming) =
        records.map fun r => Dialect.createTable (c.naming.table r)
          (c.config.dialect.ownColumns ++ c.columns r) := by
    rw [List.map_map]
    rfl
  rw [schema_eq_create, sketches, List.map_append, List.map_flatMap, htables]
  simp only [Sketch.map_statement_ofJoin]
  rfl

/-- Compilers that differ in their naming policies and prefixes make the same sketches. -/
theorem sketches_congr {c c' : Compiler ρ} (hc : c'.catalog = c.catalog)
    (hr : c'.resolve = c.resolve) (ht : c'.columnTypes = c.columnTypes)
    (hd : c'.config.dialect = c.config.dialect) (records : List (Record ρ)) :
    c'.sketches records = c.sketches records := by
  have hs : c'.toSurroundings = c.toSurroundings := by
    rcases c with ⟨⟨_, _, _⟩, _, _⟩
    rcases c' with ⟨⟨_, _, _⟩, _, _⟩
    simp_all
  have hcolumns : c'.columns = c.columns := by
    funext r
    rw [columns, columns, hs]
  rw [sketches, sketches, hcolumns, joins_congr hc hr, hd]

end Compiler

/-! ## Names with a prefix -/

namespace Naming

theorem standard_table_eq_append {r : Record ρ} (h : r.table = none) (p : String) :
    (standard p).table r = p ++ (standard "").table r := by
  rw [table_standard_of_none h, table_standard_of_none h, String.empty_append]

/-- The prefix stands once in front of the whole name. -/
theorem standard_joinTable_eq_append (p : String) (owner child : Record ρ) (f : Field ρ) :
    (standard p).joinTable owner child f = p ++ (standard "").joinTable owner child f := by
  simp only [standard, String.empty_append]

theorem standard_empty_table (r : Record ρ) : (standard "").table r = baseName r := by
  simp only [standard, baseName, String.empty_append]

/-- Without a prefix the standard policy names join tables after the tables they join. -/
theorem standard_empty : (standard "" : Naming ρ) = ofTable (standard "").table := by
  have hjoin : (standard "" : Naming ρ).joinTable =
      (ofTable (standard "" : Naming ρ).table).joinTable := by
    funext owner child f
    simp only [ofTable, standard_empty_table]
    simp only [standard, String.empty_append]
  exact congrArg (Naming.mk (standard "").table) hjoin

end Naming

/-! ## Passes with a prefix -/

namespace Compiler

section

variable (d : Dialect) (columnTypes : ColumnTypes ρ) (catalog : Catalog ρ) (resolve : Resolver ρ)

/-- The standard names with a table prefix, and any column policy. -/
def prefixed (p : String) : Compiler ρ :=
  { standard { dialect := d, tablePrefix := p } catalog resolve with columnTypes }

/-- A pass with a table prefix, which has to be a valid one. -/
def prefixedPass (records : List (Record ρ)) (p : String) : Except SchemaError (List String) :=
  (ofConfig { dialect := d, tablePrefix := p } catalog resolve).bind fun c =>
    ({ c with columnTypes }.compile records).result

/-- The error and the sketches of a pass do not depend on the prefix. -/
theorem prefixedPass_eq (records : List (Record ρ)) {p : String}
    (hp : Config.isValidPrefix p = true) :
    prefixedPass d columnTypes catalog resolve records p =
      unlessError ((prefixed d columnTypes catalog resolve "").error? records)
        (((prefixed d columnTypes catalog resolve "").sketches records).map
          (Sketch.statement d (.standard p))) := by
  have hvalid : ofConfig { dialect := d, tablePrefix := p } catalog resolve =
      .ok (standard { dialect := d, tablePrefix := p } catalog resolve) := by
    rw [ofConfig, (Config.validate_eq_ok_iff _).2 hp]
    rfl
  have hpass : prefixedPass d columnTypes catalog resolve records p =
      ((prefixed d columnTypes catalog resolve p).compile records).result := by
    rw [prefixedPass, hvalid]
    rfl
  have herror : (prefixed d columnTypes catalog resolve p).error? records =
      (prefixed d columnTypes catalog resolve "").error? records :=
    error?_congr rfl rfl records
  have hsketches : (prefixed d columnTypes catalog resolve p).sketches records =
      (prefixed d columnTypes catalog resolve "").sketches records :=
    sketches_congr rfl rfl rfl rfl records
  rw [hpass, result_compile, herror, schema_eq_map_statement, hsketches]
  rfl

/-- A valid prefix renames a schema. The pass with it fails with the error of the pass without one,
or both succeed and write the same sketches, each under its own names: a record's table has the
prefix in front unless the record has a table name of its own, and a join table has it in front of
the name it has without one. That name is made of the names of the two tables. -/
theorem prefix_renames (records : List (Record ρ)) {p : String}
    (hp : Config.isValidPrefix p = true) :
    let pass := prefixedPass d columnTypes catalog resolve records
    -- errors
    (∀ e, pass p = .error e ↔ pass "" = .error e) ∧
    ((∃ out, pass p = .ok out) ↔ ∃ out, pass "" = .ok out) ∧
    -- statements
    (∀ out renamed, pass "" = .ok out → pass p = .ok renamed →
      renamed.length = out.length ∧
      ∃ sketches : List (Sketch ρ),
        sketches = (prefixed d columnTypes catalog resolve "").sketches records ∧
        out = sketches.map (Sketch.statement d (.standard "")) ∧
        renamed = sketches.map (Sketch.statement d (.standard p))) ∧
    -- names
    (∀ r : Record ρ, r.table = none →
      (Naming.standard p).table r = p ++ (Naming.standard "").table r) ∧
    (∀ (r : Record ρ) (t : String), r.table = some t →
      (Naming.standard p).table r = t ∧ (Naming.standard "").table r = t) ∧
    (∀ (owner child : Record ρ) (f : Field ρ), (Naming.standard p).joinTable owner child f =
      p ++ (Naming.standard "").joinTable owner child f) ∧
    ∀ (owner child : Record ρ) (f : Field ρ), (Naming.standard "").joinTable owner child f =
      (Naming.ofTable (Naming.standard "").table).joinTable owner child f := by
  intro pass
  have hpass : pass p = _ := prefixedPass_eq d columnTypes catalog resolve records hp
  have hempty : pass "" = _ := prefixedPass_eq d columnTypes catalog resolve records (by decide)
  refine ⟨fun e => ?_, ?_, fun out renamed hout hrenamed => ?_,
    fun r h => Naming.standard_table_eq_append h p,
    fun r t h => ⟨Naming.table_standard_of_some h, Naming.table_standard_of_some h⟩,
    Naming.standard_joinTable_eq_append p, fun owner child f => ?_⟩
  · rw [hpass, hempty, unlessError_eq_error_iff, unlessError_eq_error_iff]
  · simp only [hpass, hempty, unlessError_eq_ok_iff, exists_and_left, exists_eq']
  · rw [hempty, unlessError_eq_ok_iff] at hout
    rw [hpass, unlessError_eq_ok_iff] at hrenamed
    obtain ⟨-, rfl⟩ := hout
    obtain ⟨-, rfl⟩ := hrenamed
    exact ⟨by rw [List.length_map, List.length_map], _, rfl, rfl, rfl⟩
  · exact congrFun (congrFun (congrFun (congrArg Naming.joinTable Naming.standard_empty) _) _) _

end

/-- The library with a prefix and a column policy of its own: an editor's table is renamed, an
author keeps the name of its table, and the join tables of both have the prefix once. -/
theorem prefix_renames_shelf :
    let pass := prefixedPass .sqlite Shelf.compiler.columnTypes Shelf.catalog
      Shelf.compiler.resolve Shelf.batch
    Config.isValidPrefix "app_" = true ∧
      (∃ out renamed, pass "" = .ok out ∧ pass "app_" = .ok renamed ∧
        renamed.length = out.length) ∧
      (Naming.standard "app_").table (Shelf.catalog .editor) = "app_" ++ "Editor" ∧
      (Naming.standard "app_").table (Shelf.catalog .author) = "authors" ∧
      (Naming.standard "app_").joinTable (Shelf.catalog .editor) (Shelf.catalog .author)
        (.plain "mentor" (.record .author)) = "app_" ++ "Editor_authors_mentor" := by
  intro pass
  have hp : Config.isValidPrefix "app_" = true := by decide
  obtain ⟨-, hok, hstatements, hnone, hsome, hjoin, -⟩ := prefix_renames .sqlite
    Shelf.compiler.columnTypes Shelf.catalog Shelf.compiler.resolve Shelf.batch hp
  refine ⟨hp, ?_, hnone _ rfl, (hsome _ _ rfl).1, hjoin _ _ _⟩
  have hempty : pass "" = _ := prefixedPass_eq .sqlite Shelf.compiler.columnTypes Shelf.catalog
    Shelf.compiler.resolve Shelf.batch (by decide)
  have hnoerror : (prefixed .sqlite Shelf.compiler.columnTypes Shelf.catalog
      Shelf.compiler.resolve "").error? Shelf.batch = none := by decide
  rw [hnoerror] at hempty
  obtain ⟨renamed, hrenamed⟩ := hok.2 ⟨_, hempty⟩
  exact ⟨_, renamed, hempty, hrenamed, (hstatements _ _ hempty hrenamed).1⟩

end Compiler

end RecordSchema
