import RecordSchema.Config
import RecordSchema.Naming
import RecordSchema.Role

/-!
# Passes

A pass turns a batch of records into the statements that create their tables. It first writes the
table of each record, in the order of the batch, and queues the relations it finds on the way; then
it writes the join tables in the order of the queue. So join statements follow all tables, and a
relation may lead to a record later in the batch, or outside of it. Nothing is handed out before the
whole pass has succeeded: a field without a role ends it with an error and no statement.
-/

namespace RecordSchema

/-- A configuration and the policies of a pass. -/
structure Compiler (ρ : Type) extends Surroundings ρ where
  config : Config
  naming : Naming ρ

/-- How a store takes one more statement. -/
abbrev Sink (σ : Type) := σ → String → σ

variable {ρ : Type}

/-- What has been found in the fields of a record so far. -/
structure Scan (ρ : Type) where
  columns : List Column
  joins : JoinQueue ρ

/-- The report of a cut walk to a record's ancestors. -/
def Record.inheritanceEvents (catalog : Catalog ρ) (r : Record ρ) : List Event :=
  if r.inheritanceIsCut catalog then [.inheritanceCut r.name] else []

/-- The report of a queued relation. -/
def Join.event (j : Join ρ) : Event :=
  .joinRegistered j.owner.name j.field.name j.child.name j.kind

/-- The report of a registration. -/
def Registry.insertEvent (g : Registry ρ) (name : String) : Event :=
  if g.contains name then .typeReplaced name else .typeRegistered name

namespace Compiler

/-- The standard policies for a configuration. -/
def standard (config : Config) (catalog : Catalog ρ) (resolve : Resolver ρ) : Compiler ρ where
  catalog := catalog
  resolve := resolve
  columnTypes := .standard config.dialect
  config := config
  naming := .standard config.tablePrefix

/-- The standard policies for a configuration, if it is valid. -/
def ofConfig (config : Config) (catalog : Catalog ρ) (resolve : Resolver ρ) :
    Except SchemaError (Compiler ρ) :=
  config.validate.map fun _ => standard config catalog resolve

/-- The texts of statements in the dialect of the pass. -/
def templates (c : Compiler ρ) : Templates := c.config.dialect.templates

/-- Adds a field to what has been found: a column, a relation, or nothing. -/
def addField (c : Compiler ρ) (owner : Record ρ) (scan : Scan ρ) (f : Field ρ) :
    Logged (Scan ρ) := do
  let role ← Role.classify c.toSurroundings owner.name f
  match role.relation? with
  | some (kind, child) =>
    let join : Join ρ := { owner, field := f, child, kind }
    Logged.report [join.event]
    return { scan with joins := scan.joins.push join }
  | none => return { scan with columns := scan.columns ++ role.column?.toList }

/-- The table of a record, and the queue with its relations. -/
def tableStatement (c : Compiler ρ) (queue : JoinQueue ρ) (r : Record ρ) :
    Logged (String × JoinQueue ρ) := do
  Logged.report (r.inheritanceEvents c.catalog)
  let scan ← (r.allFields c.catalog).foldlM (c.addField r) ⟨[], queue⟩
  let table := c.naming.table r
  Logged.report
    [.tableCompiled r.name table scan.columns.length (scan.joins.size - queue.size)]
  return (c.templates.tableStatement table scan.columns, scan.joins)

/-- The tables of a batch, and the queue with all relations. -/
def tableStatements (c : Compiler ρ) : JoinQueue ρ → List (Record ρ) →
    Logged (List String × JoinQueue ρ)
  | queue, [] => return ([], queue)
  | queue, r :: rs => do
    let (statement, queue) ← c.tableStatement queue r
    let (statements, queue) ← c.tableStatements queue rs
    return (statement :: statements, queue)

/-- The name of a relation's join table. -/
def joinTable (c : Compiler ρ) (j : Join ρ) : String := c.naming.joinTable j.owner j.child j.field

/-- The statements of a relation. -/
def joinStatements (c : Compiler ρ) (j : Join ρ) : List String :=
  c.templates.joinStatements (c.joinTable j) (c.naming.table j.owner) (c.naming.table j.child)

/-- The report of a relation's statements. -/
def joinEvent (c : Compiler ρ) (j : Join ρ) : Event :=
  .joinCompiled (c.joinTable j) (c.naming.table j.owner) (c.naming.table j.child) j.kind

/-- All statements of a batch: the tables, then what the queued relations need. -/
def plan (c : Compiler ρ) (records : List (Record ρ)) : Logged (List String) := do
  let (tables, queue) ← c.tableStatements .empty records
  let joins := queue.drain.1
  Logged.report (joins.map c.joinEvent)
  let statements := tables ++ joins.flatMap c.joinStatements
  Logged.report [.schemaCompiled tables.length (statements.length - tables.length)]
  return statements

/-- The statements of a batch, reported one by one once all are made. -/
def compile (c : Compiler ρ) (records : List (Record ρ)) : Logged (List String) := do
  Logged.report [.passStarted records.length c.config.dialect]
  let statements ← c.plan records
  Logged.report (statements.map .statementGenerated)
  return statements

/-- Hands the statements of a batch to a store and gives their number. A pass that fails leaves the
store as it was. -/
def compileInto {σ : Type} (c : Compiler ρ) (records : List (Record ρ)) (sink : Sink σ)
    (store : σ) : Logged Nat × σ :=
  let pass := c.compile records
  match pass.result with
  | .ok statements => (⟨pass.events, .ok statements.length⟩, statements.foldl sink store)
  | .error e => (⟨pass.events, .error e⟩, store)

theorem compileInto_of_ok {σ : Type} {c : Compiler ρ} {records : List (Record ρ)}
    {statements : List String} (h : (c.compile records).result = .ok statements) (sink : Sink σ)
    (store : σ) :
    c.compileInto records sink store =
      (⟨(c.compile records).events, .ok statements.length⟩, statements.foldl sink store) := by
  simp [compileInto, h]

/-- A pass that fails hands out nothing. -/
theorem compileInto_of_error {σ : Type} {c : Compiler ρ} {records : List (Record ρ)}
    {e : SchemaError} (h : (c.compile records).result = .error e) (sink : Sink σ) (store : σ) :
    c.compileInto records sink store = (⟨(c.compile records).events, .error e⟩, store) := by
  simp [compileInto, h]

end Compiler

namespace Registry

/-- A pass over all records of a registry, with the standard policies. An invalid configuration is
refused before any record is looked at. -/
def compileInto {σ : Type} (catalog : Catalog ρ) (g : Registry ρ) (config : Config)
    (sink : Sink σ) (store : σ) : Logged Nat × σ :=
  match Compiler.ofConfig config catalog g.resolve with
  | .error e => (⟨[], .error e⟩, store)
  | .ok c => c.compileInto (g.records.map catalog) sink store

/-- The schema of a registry: all its statements, reported by their number. -/
def createSchema (catalog : Catalog ρ) (g : Registry ρ) (config : Config) :
    Logged (List String) :=
  let pass := g.compileInto catalog config (fun out s => out ++ [s]) []
  match pass.1.result with
  | .error e => ⟨pass.1.events, .error e⟩
  | .ok count => ⟨pass.1.events ++ [.schemaCreated count g.records.length], .ok pass.2⟩

end Registry

end RecordSchema
