import RecordSchema.Proofs.Pass.Schema

/-!
# How a pass fails

A pass fails for one of two reasons. Its configuration is refused before anything of the batch is
looked at; or a field of the batch is refused, and then the error is that of the first one, in the
order of the batch and of the fields. Either way the store is left as it was, so what a sequence of
passes leaves in a store is what the successful ones have handed out (`store_runAll`).
-/

namespace RecordSchema

variable {ρ σ : Type}

namespace Compiler

/-- An error is that of the first refused field of a batch. -/
def FirstRefused (c : Compiler ρ) (records : List (Record ρ)) (e : SchemaError) : Prop :=
  ∃ before r f after, c.fieldsOf records = before ++ (r, f) :: after ∧
    (∀ p ∈ before, ∀ e', ¬ p.2.Refused c.toSurroundings p.1.name e') ∧
    f.Refused c.toSurroundings r.name e

theorem error?_eq_some_iff {c : Compiler ρ} {records : List (Record ρ)} {e : SchemaError} :
    c.error? records = some e ↔ c.FirstRefused records e := by
  have hnone : ∀ p : Record ρ × Field ρ, p.2.error? c.toSurroundings p.1.name = none ↔
      ∀ e', ¬ p.2.Refused c.toSurroundings p.1.name e' := by
    intro p
    simp only [← Field.error?_eq_some_iff, Option.eq_none_iff_forall_ne_some, ne_eq]
  simp only [error?, List.findSome?_eq_some_iff, Field.error?_eq_some_iff, hnone]
  constructor
  · rintro ⟨before, ⟨r, f⟩, after, heq, hr, hb⟩
    exact ⟨before, r, f, after, heq, hb, hr⟩
  · rintro ⟨before, r, f, after, heq, hb, hr⟩
    exact ⟨before, (r, f), after, heq, hr, hb⟩

/-- A batch has an error if a marker that is looked up does not name a record. -/
theorem exists_error?_eq_some_iff {c : Compiler ρ} {records : List (Record ρ)} :
    (∃ e, c.error? records = some e) ↔ ∃ r ∈ records, ∃ f ∈ r.allFields c.catalog, ∃ element,
      f.LooksUp element ∧ ∀ child, c.resolve element ≠ some (.record child) := by
  rw [← Option.ne_none_iff_exists', ne_eq, error?_eq_none_iff]
  simp only [Classical.not_forall, not_exists, exists_prop, ne_eq]

theorem result_compileInto_eq_error_iff {c : Compiler ρ} {records : List (Record ρ)}
    {sink : Sink σ} {store : σ} {e : SchemaError} :
    (c.compileInto records sink store).1.result = .error e ↔ c.error? records = some e := by
  rw [result_compileInto, unlessError_eq_error_iff]

theorem ofConfig_of_valid {config : Config} (h : Config.isValidPrefix config.tablePrefix = true)
    (catalog : Catalog ρ) (resolve : Resolver ρ) :
    ofConfig config catalog resolve = .ok (standard config catalog resolve) := by
  rw [ofConfig, (Config.validate_eq_ok_iff config).2 h]
  rfl

theorem ofConfig_of_invalid {config : Config}
    (h : Config.isValidPrefix config.tablePrefix = false) (catalog : Catalog ρ)
    (resolve : Resolver ρ) :
    ofConfig config catalog resolve =
      .error (.invalidConfig (.tablePrefix config.tablePrefix)) := by
  rw [ofConfig, (Config.validate_eq_error_iff config _).2 ⟨h, rfl⟩]
  rfl

/-- A configuration is refused for its prefix and for nothing else. -/
theorem ofConfig_eq_error_iff {config : Config} {catalog : Catalog ρ} {resolve : Resolver ρ}
    {e : SchemaError} :
    ofConfig config catalog resolve = .error e ↔
      Config.isValidPrefix config.tablePrefix = false ∧
        e = .invalidConfig (.tablePrefix config.tablePrefix) := by
  cases h : Config.isValidPrefix config.tablePrefix with
  | true => simp [ofConfig_of_valid h]
  | false =>
    rw [ofConfig_of_invalid h, Except.error.injEq]
    exact ⟨fun he => ⟨rfl, he.symm⟩, fun he => he.2.symm⟩

end Compiler

/-! ## Passes as they are asked for -/

/-- A pass as it is asked for: a configuration, policies in place of the standard ones, and a batch
with all that belongs to it. -/
structure Request (ρ : Type) where
  config : Config
  catalog : Catalog ρ
  resolve : Resolver ρ
  columnTypes : Option (ColumnTypes ρ) := none
  naming : Option (Naming ρ) := none
  records : List (Record ρ)

namespace Request

/-- The pass over all records of a registry. -/
def ofRegistry (catalog : Catalog ρ) (g : Registry ρ) (config : Config) : Request ρ where
  config := config
  catalog := catalog
  resolve := g.resolve
  records := g.records.map catalog

/-- A compiler with the policies that are asked for. -/
def adapt (q : Request ρ) (c : Compiler ρ) : Compiler ρ :=
  { c with
    columnTypes := q.columnTypes.getD c.columnTypes
    naming := q.naming.getD c.naming }

/-- The compiler of a pass whose configuration is accepted. -/
def compiler (q : Request ρ) : Compiler ρ :=
  q.adapt (.standard q.config q.catalog q.resolve)

/-- Checks the configuration, then hands the batch out to a store. -/
def run (q : Request ρ) (sink : Sink σ) (store : σ) : Logged Nat × σ :=
  match Compiler.ofConfig q.config q.catalog q.resolve with
  | .error e => (⟨[], .error e⟩, store)
  | .ok c => (q.adapt c).compileInto q.records sink store

/-- The statements of a pass, or why there are none. -/
def statements (q : Request ρ) : Except SchemaError (List String) :=
  match Compiler.ofConfig q.config q.catalog q.resolve with
  | .error e => .error e
  | .ok c => ((q.adapt c).compile q.records).result

/-- What a pass hands out: all its statements if it succeeds, none if it fails. -/
def output (q : Request ρ) : List String :=
  match q.statements with
  | .ok statements => statements
  | .error _ => []

/-- A store after several passes, one after the other. -/
def runAll (sink : Sink σ) (qs : List (Request ρ)) (store : σ) : σ :=
  qs.foldl (fun store q => (q.run sink store).2) store

theorem run_ofRegistry (catalog : Catalog ρ) (g : Registry ρ) (config : Config) (sink : Sink σ)
    (store : σ) :
    (ofRegistry catalog g config).run sink store = g.compileInto catalog config sink store := by
  unfold run Registry.compileInto
  cases h : Config.isValidPrefix config.tablePrefix with
  | true => simp only [ofRegistry, Compiler.ofConfig_of_valid h]; rfl
  | false => simp only [ofRegistry, Compiler.ofConfig_of_invalid h]

/-- An invalid prefix ends a pass at once: nothing is reported and nothing is handed out. -/
theorem run_of_invalid {q : Request ρ} (h : Config.isValidPrefix q.config.tablePrefix = false)
    (sink : Sink σ) (store : σ) :
    q.run sink store =
      (⟨[], .error (.invalidConfig (.tablePrefix q.config.tablePrefix))⟩, store) := by
  rw [run, Compiler.ofConfig_of_invalid h]

theorem run_of_valid {q : Request ρ} (h : Config.isValidPrefix q.config.tablePrefix = true)
    (sink : Sink σ) (store : σ) :
    q.run sink store = q.compiler.compileInto q.records sink store := by
  rw [run, Compiler.ofConfig_of_valid h]
  rfl

theorem statements_of_invalid {q : Request ρ}
    (h : Config.isValidPrefix q.config.tablePrefix = false) :
    q.statements = .error (.invalidConfig (.tablePrefix q.config.tablePrefix)) := by
  rw [statements, Compiler.ofConfig_of_invalid h]

theorem statements_of_valid {q : Request ρ}
    (h : Config.isValidPrefix q.config.tablePrefix = true) :
    q.statements = unlessError (q.compiler.error? q.records) (q.compiler.schema q.records) := by
  rw [statements, Compiler.ofConfig_of_valid h]
  exact Compiler.result_compile q.compiler q.records

/-- Whether a pass fails, and how, does not depend on the store. -/
theorem result_run (q : Request ρ) (sink : Sink σ) (store : σ) :
    (q.run sink store).1.result = q.statements.map List.length := by
  cases h : Config.isValidPrefix q.config.tablePrefix with
  | true =>
    rw [run_of_valid h, statements_of_valid h, Compiler.result_compileInto]
    cases q.compiler.error? q.records <;> rfl
  | false =>
    rw [run_of_invalid h, statements_of_invalid h]
    rfl

/-- A store takes what a pass hands out, be that all of its statements or none. -/
theorem store_run (q : Request ρ) (sink : Sink σ) (store : σ) :
    (q.run sink store).2 = q.output.foldl sink store := by
  unfold output
  cases h : Config.isValidPrefix q.config.tablePrefix with
  | true =>
    rw [run_of_valid h, statements_of_valid h, Compiler.store_compileInto]
    cases q.compiler.error? q.records <;> rfl
  | false =>
    rw [run_of_invalid h, statements_of_invalid h]
    rfl

/-- A store after several passes holds what it held before and what the successful ones handed out,
in their order. -/
theorem store_runAll (sink : Sink σ) (qs : List (Request ρ)) (store : σ) :
    runAll sink qs store = (qs.flatMap output).foldl sink store := by
  induction qs generalizing store with
  | nil => rfl
  | cons q qs ih =>
    rw [List.flatMap_cons, List.foldl_append, ← store_run]
    exact ih _

/-- What a store of statements holds after several passes. -/
theorem list_runAll (qs : List (Request ρ)) (out : List String) :
    runAll (fun out s => out ++ [s]) qs out = out ++ qs.flatMap output := by
  rw [store_runAll, List.foldl_append_eq_append, ← List.flatMap_def, List.flatMap_singleton']

theorem result_run_eq_invalidConfig_iff {q : Request ρ} {sink : Sink σ} {store : σ} :
    (∃ fault, (q.run sink store).1.result = .error (.invalidConfig fault)) ↔
      Config.isValidPrefix q.config.tablePrefix = false := by
  cases h : Config.isValidPrefix q.config.tablePrefix with
  | false => simp [run_of_invalid h]
  | true =>
    simp only [run_of_valid h, Compiler.result_compileInto_eq_error_iff, reduceCtorEq, iff_false,
      Compiler.error?_eq_some_iff]
    rintro ⟨fault, before, r, f, after, heq, hb, hf⟩
    cases hf

/-- A pass fails for an invalid prefix, before anything else, or else at the first refused field of
its batch. A pass that fails leaves its store as it was, so a store that several passes share holds
what the successful ones have handed out. -/
theorem run_fails_at_first_refused (sink : Sink σ) :
    -- the configuration is checked by itself, and a pass checks it before all else
    (∀ (q : Request ρ) (e : SchemaError),
      Compiler.ofConfig q.config q.catalog q.resolve = .error e ↔
        Config.isValidPrefix q.config.tablePrefix = false ∧
          e = .invalidConfig (.tablePrefix q.config.tablePrefix)) ∧
    (∀ (q : Request ρ) (store : σ),
      (∃ fault, (q.run sink store).1.result = .error (.invalidConfig fault)) ↔
        Config.isValidPrefix q.config.tablePrefix = false) ∧
    (∀ (q : Request ρ) (store : σ), Config.isValidPrefix q.config.tablePrefix = false →
      q.run sink store =
        (⟨[], .error (.invalidConfig (.tablePrefix q.config.tablePrefix))⟩, store)) ∧
    -- otherwise it fails if some marker that is looked up names no record
    (∀ (q : Request ρ) (store : σ), Config.isValidPrefix q.config.tablePrefix = true →
      ((∃ e, (q.run sink store).1.result = .error e) ↔
        ∃ r ∈ q.records, ∃ f ∈ r.allFields q.catalog, ∃ element,
          f.LooksUp element ∧ ∀ child, q.resolve element ≠ some (.record child))) ∧
    -- and the error is that of the first such field
    (∀ (q : Request ρ) (store : σ) (e : SchemaError),
      Config.isValidPrefix q.config.tablePrefix = true →
        ((q.run sink store).1.result = .error e ↔ q.compiler.FirstRefused q.records e)) ∧
    -- a failed pass hands out nothing
    (∀ (q : Request ρ) (store : σ) (e : SchemaError),
      (q.run sink store).1.result = .error e → (q.run sink store).2 = store) ∧
    -- and a sequence of passes what the successful ones hand out
    (∀ (q : Request ρ) (store : σ),
      (q.run sink store).1.result = q.statements.map List.length) ∧
    (∀ (qs : List (Request ρ)) (store : σ),
      runAll sink qs store = (qs.flatMap output).foldl sink store) ∧
    (∀ (qs : List (Request ρ)) (out : List String),
      runAll (fun out s => out ++ [s]) qs out = out ++ qs.flatMap output) ∧
    -- a pass over a registry is one of these passes
    (∀ (catalog : Catalog ρ) (g : Registry ρ) (config : Config) (store : σ),
      g.compileInto catalog config sink store = (ofRegistry catalog g config).run sink store) := by
  refine ⟨fun q e => Compiler.ofConfig_eq_error_iff,
    fun q store => result_run_eq_invalidConfig_iff,
    fun q store h => run_of_invalid h sink store, ?_, ?_, ?_,
    fun q store => result_run q sink store, fun qs store => store_runAll sink qs store,
    list_runAll, fun catalog g config store => (run_ofRegistry catalog g config sink store).symm⟩
  · intro q store h
    simp only [run_of_valid h, Compiler.result_compileInto_eq_error_iff]
    exact Compiler.exists_error?_eq_some_iff
  · intro q store e h
    rw [run_of_valid h, Compiler.result_compileInto_eq_error_iff, Compiler.error?_eq_some_iff]
  · intro q store e h
    rw [result_run] at h
    rw [store_run, output]
    cases hs : q.statements with
    | error e' => rfl
    | ok statements => rw [hs] at h; cases h

/-- An editor inherits a list of books that nobody knows: the pass blames the editor and hands out
nothing, not even the table of the book before it. -/
theorem run_fails_at_first_refused_shelf :
    let q : Request Shelf :=
      { config := { tablePrefix := "app_" }
        catalog := Shelf.catalog
        resolve := fun _ => none
        records := [Shelf.catalog .book, Shelf.catalog .editor] }
    (q.run (fun out s => out ++ [s]) ["kept"]).1.result =
        .error (.unknownElement "library::Editor" "books" "library::Book") ∧
      (q.run (fun out s => out ++ [s]) ["kept"]).2 = ["kept"] := by
  intro q
  obtain ⟨-, -, -, -, hfirst, hstore, -⟩ :=
    run_fails_at_first_refused (ρ := Shelf) (fun (out : List String) s => out ++ [s])
  have herror := (hfirst q ["kept"] (.unknownElement "library::Editor" "books" "library::Book")
    (by decide)).2 (Compiler.error?_eq_some_iff.1 (by decide))
  exact ⟨herror, hstore q ["kept"] _ herror⟩

end Request

end RecordSchema
