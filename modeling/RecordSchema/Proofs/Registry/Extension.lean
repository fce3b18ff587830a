import RecordSchema.Proofs.Pass.Batch
import RecordSchema.Proofs.Registry.Closure

/-!
# Registries that grow

A registration under a new name changes the schema of a registry in two ways at once: there may be
one more record to compile, and there is one more name to resolve. The second change does not show
in what was there before. A batch that compiles looks up records only, and it finds the same ones
under any resolver that still knows them (`Compiler.links_withResolver`). The first one adds to the
end of the batch. So a schema grows by the table of the new record, behind the other tables, and by
its relations, behind the other relations (`Registry.createSchema_insert_fresh`).
-/

namespace RecordSchema

variable {ρ : Type}

/-- The record that an error blames, if it blames one. -/
def SchemaError.owner? : SchemaError → Option String
  | unknownElement owner _ _ | notARecord owner _ _ => some owner
  | invalidConfig _ | unreadableConfig _ => none

theorem Field.Refused.owner?_eq {s : Surroundings ρ} {owner : String} {f : Field ρ}
    {e : SchemaError} (h : f.Refused s owner e) : e.owner? = some owner := by
  cases h <;> rfl

/-! ## Resolvers that know more -/

/-- A resolver knows all records that another one knows, under the same names. -/
def KnowsRecordsOf (resolve' resolve : Resolver ρ) : Prop :=
  ∀ element r, resolve element = some (.record r) → resolve' element = some (.record r)

namespace Field

variable {s : Surroundings ρ} {resolve : Resolver ρ} (hk : KnowsRecordsOf resolve s.resolve)
  {f : Field ρ} {owner : String} (h : f.error? s owner = none)

include hk h

theorem error?_eq_none_of_knows : f.error? { s with resolve } owner = none := by
  rw [error?_eq_none_iff] at h ⊢
  intro element hl
  obtain ⟨child, hr⟩ := h element hl
  exact ⟨child, hk element child hr⟩

/-- A field without an error leads where it did: its marker, if it is looked up, named a record. -/
theorem relation?_of_knows : f.relation? { s with resolve } = f.relation? s := by
  rw [error?_eq_none_iff] at h
  unfold relation?
  cases hi : f.ignored with
  | true => rfl
  | false =>
    cases ht : f.type with
    | record r => rfl
    | scalar _ | collection | foreign _ =>
      cases hl : f.listOf with
      | none => rfl
      | some element =>
        obtain ⟨child, hr⟩ := h element ⟨hi, by simp [ht], hl⟩
        simp only [Option.bind_some, hr, hk element child hr]

theorem join?_of_knows (r : Record ρ) : f.join? { s with resolve } r = f.join? s r := by
  rw [join?, join?, relation?_of_knows hk h]

end Field

namespace Compiler

/-- The same policies with another resolver. -/
def withResolver (c : Compiler ρ) (resolve : Resolver ρ) : Compiler ρ := { c with resolve }

section withResolver

variable {c : Compiler ρ} {resolve : Resolver ρ} (hk : KnowsRecordsOf resolve c.resolve)
  {records : List (Record ρ)} (h : c.error? records = none)

include hk h

theorem error?_withResolver : (c.withResolver resolve).error? records = none := by
  rw [error?, List.findSome?_eq_none_iff] at h ⊢
  intro p hp
  exact Field.error?_eq_none_of_knows hk (h p hp)

theorem joins_withResolver : (c.withResolver resolve).joins records = c.joins records := by
  rw [error?, List.findSome?_eq_none_iff] at h
  exact List.filterMap_congr fun p hp => Field.join?_of_knows hk (h p hp) p.1

/-- What compiles under a resolver has the same relations under one that knows more. -/
theorem links_withResolver {r : Record ρ} (hr : r ∈ records) :
    (c.withResolver resolve).links r = c.links r := by
  rw [links, joins_withResolver hk (error?_eq_none_iff_forall.1 h r hr)]
  rfl

end withResolver

end Compiler

namespace Registry

/-! ## Registrations under new names -/

section Fresh

variable {g : Registry ρ} {name : String} (hf : g.contains name = false)

include hf

theorem resolve_insert_of_fresh (type : Registered ρ) {other : String} {type' : Registered ρ}
    (hr : g.resolve other = some type') : (g.insert name type).resolve other = some type' := by
  rw [resolve_insert]
  split
  · next hn =>
    rw [contains_eq_isSome_resolve, eq_of_beq hn, hr] at hf
    cases hf
  · exact hr

theorem knowsRecordsOf_insert_of_fresh (type : Registered ρ) :
    KnowsRecordsOf (g.insert name type).resolve g.resolve :=
  fun _ _ hr => resolve_insert_of_fresh hf type hr

/-- A new record comes last, and a new plain type does not count. -/
theorem InStep.records_insert_of_fresh {catalog : Catalog ρ} (h : g.InStep catalog)
    (type : Registered ρ) :
    (g.insert name type).records = g.records ++ type.record?.toList := by
  have hold : ∀ other ∈ g.order, ((g.insert name type).resolve other).bind Registered.record? =
      (g.resolve other).bind Registered.record? := by
    intro other ho
    have hc := (h.mem_order_iff other).1 ho
    rw [contains_eq_isSome_resolve] at hc
    obtain ⟨type', hr⟩ := Option.isSome_iff_exists.1 hc
    rw [resolve_insert_of_fresh hf type hr, hr]
  rw [records, order_insert, hf, if_neg (by decide), List.filterMap_append,
    List.filterMap_congr hold]
  cases hr : type.record? <;> simp [hr, records]

end Fresh

/-! ## Schemas that grow -/

/-- The schema of a registry is what a pass over it hands out. -/
theorem result_createSchema (catalog : Catalog ρ) (g : Registry ρ) (config : Config) :
    (g.createSchema catalog config).result = (Request.ofRegistry catalog g config).statements := by
  have hresult := (Request.ofRegistry catalog g config).result_run
    (fun (out : List String) s => out ++ [s]) []
  have hstore := Request.list_runAll [Request.ofRegistry catalog g config] []
  rw [Request.run_ofRegistry] at hresult
  simp only [Request.runAll, List.foldl_cons, List.foldl_nil, Request.run_ofRegistry,
    List.flatMap_cons, List.flatMap_nil, List.append_nil, List.nil_append, Request.output] at hstore
  unfold createSchema
  cases hs : (Request.ofRegistry catalog g config).statements with
  | error e =>
    rw [hs] at hresult
    simp [hresult, Except.map]
  | ok statements =>
    rw [hs] at hresult hstore
    simp [hresult, hstore, Except.map]

theorem result_createSchema_of_valid {config : Config}
    (hv : Config.isValidPrefix config.tablePrefix = true) (catalog : Catalog ρ) (g : Registry ρ) :
    let c := Compiler.standard config catalog g.resolve
    (g.createSchema catalog config).result =
      unlessError (c.error? (g.records.map catalog)) (c.schema (g.records.map catalog)) := by
  rw [result_createSchema, Request.statements_of_valid hv]
  rfl

/-- A registry that has a schema has a valid configuration and no error. -/
theorem createSchema_eq_ok_iff {catalog : Catalog ρ} {g : Registry ρ} {config : Config}
    {out : List String} :
    (g.createSchema catalog config).result = .ok out ↔
      Config.isValidPrefix config.tablePrefix = true ∧
      (Compiler.standard config catalog g.resolve).error? (g.records.map catalog) = none ∧
      (Compiler.standard config catalog g.resolve).schema (g.records.map catalog) = out := by
  cases hv : Config.isValidPrefix config.tablePrefix with
  | true => simp only [result_createSchema_of_valid hv, unlessError_eq_ok_iff, true_and]
  | false =>
    rw [result_createSchema, Request.statements_of_invalid hv]
    simp

/-- What becomes of a schema when one more type is registered: the error of the new record, if the
type is a record and has one, or the old schema with its table and relations put in. -/
theorem InStep.result_createSchema_insert {catalog : Catalog ρ} {g : Registry ρ}
    (h : g.InStep catalog) {config : Config} {out : List String}
    (hout : (g.createSchema catalog config).result = .ok out) {name : String}
    (hf : g.contains name = false) (type : Registered ρ) :
    let c := Compiler.standard config catalog g.resolve
    let c' := Compiler.standard config catalog (g.insert name type).resolve
    let added := type.record?.toList.map catalog
    ((g.insert name type).createSchema catalog config).result =
      unlessError (c'.error? added)
        ((g.records.map fun r => c.table (catalog r)) ++ added.map c'.table ++
          ((g.records.flatMap fun r => c.links (catalog r)) ++ added.flatMap c'.links)) := by
  intro c c' added
  obtain ⟨hv, he, -⟩ := createSchema_eq_ok_iff.1 hout
  have hk : KnowsRecordsOf (g.insert name type).resolve c.resolve :=
    knowsRecordsOf_insert_of_fresh hf type
  have herror : c'.error? (g.records.map catalog) = none := Compiler.error?_withResolver hk he
  have hlinks : ∀ r ∈ g.records.map catalog, c'.links r = c.links r :=
    fun r hr => Compiler.links_withResolver hk he hr
  rw [result_createSchema_of_valid hv, h.records_insert_of_fresh hf, List.map_append,
    Compiler.error?_append, Compiler.schema_eq, List.map_append, List.flatMap_append]
  show unlessError (Option.or (c'.error? (g.records.map catalog)) _) _ = _
  rw [herror, Option.none_or, List.flatMap_congr hlinks, List.map_map, List.flatMap_map]
  rfl

/-- A registry with a schema, and a registration under a name that it does not know. A plain type
leaves the schema as it is. A record either has an error, which is then its own, or adds its table
behind the other tables and its relations behind the other relations. -/
theorem createSchema_insert_fresh (catalog : Catalog ρ) (history : List (Registered ρ))
    (config : Config) {out : List String}
    (h : ((ofHistory catalog history).createSchema catalog config).result = .ok out) :
    let g := ofHistory catalog history
    let c := Compiler.standard config catalog g.resolve
    let tables := g.records.map fun r => c.table (catalog r)
    let links := g.records.flatMap fun r => c.links (catalog r)
    out = tables ++ links ∧
    -- a plain type
    (∀ name, g.contains name = false →
      ((g.insertPlain name).createSchema catalog config).result = .ok out) ∧
    -- a record, which can then be looked up itself
    ∀ r, g.contains (catalog r).name = false →
      let g' := g.insertRecord catalog r
      let c' := Compiler.standard config catalog g'.resolve
      g'.resolve (catalog r).name = some (.record r) ∧
      -- it fails for a marker of its own that does not name a record, and for nothing else
      ((∃ e, (g'.createSchema catalog config).result = .error e) ↔
        ∃ f ∈ (catalog r).allFields catalog, ∃ element, f.LooksUp element ∧
          ∀ child, g'.resolve element ≠ some (.record child)) ∧
      (∀ e, (g'.createSchema catalog config).result = .error e →
        e.owner? = some (catalog r).name ∧
          ∃ f ∈ (catalog r).allFields catalog,
            f.Refused c'.toSurroundings (catalog r).name e) ∧
      -- otherwise all old statements stay, in their order
      ((∃ e, (g'.createSchema catalog config).result = .error e) ∨
        (g'.createSchema catalog config).result =
          .ok (tables ++ [c'.table (catalog r)] ++ links ++ c'.links (catalog r))) := by
  intro g c tables links
  have hstep : g.InStep catalog := inStep_ofHistory catalog history
  have hout : out = tables ++ links := by
    obtain ⟨-, -, hschema⟩ := createSchema_eq_ok_iff.1 h
    rw [← hschema, Compiler.schema_eq, List.map_map, List.flatMap_map]
    rfl
  refine ⟨hout, fun name hf => ?_, fun r hf => ?_⟩
  · rw [insertPlain, hstep.result_createSchema_insert h hf, hout]
    simp [Registered.record?, unlessError, tables, links, c]
  · intro g' c'
    have hresult : (g'.createSchema catalog config).result =
        unlessError (c'.error? [catalog r])
          (tables ++ [c'.table (catalog r)] ++ links ++ c'.links (catalog r)) := by
      have hinsert := hstep.result_createSchema_insert h hf (.record r)
      simp only [Registered.record?, Option.toList_some, List.map_cons, List.map_nil,
        List.flatMap_singleton, ← List.append_assoc] at hinsert
      exact hinsert
    refine ⟨?_, ?_, ?_, ?_⟩
    · simp [g', insertRecord]
    · simp only [hresult, unlessError_eq_error_iff, Compiler.exists_error?_eq_some_iff,
        List.mem_singleton, exists_eq_left]
      rfl
    · intro e he
      rw [hresult, unlessError_eq_error_iff, Compiler.error?_singleton] at he
      obtain ⟨f, hmem, hf⟩ := List.exists_of_findSome?_eq_some he
      have hrefused := Field.error?_eq_some_iff.1 hf
      exact ⟨hrefused.owner?_eq, f, hmem, hrefused⟩
    · rw [hresult]
      cases he : c'.error? [catalog r] with
      | none => exact .inr rfl
      | some e => exact .inl ⟨e, rfl⟩

/-- With books and authors registered, the name of a plain type changes nothing, and an editor adds
a table and the two relations of an author. With named things alone an author cannot be added, for
nobody knows its books. -/
theorem createSchema_insert_fresh_shelf :
    let config : Config := { tablePrefix := "app_" }
    let shelf := ofHistory Shelf.catalog [.record .book, .record .author]
    let names := ofHistory Shelf.catalog [.record .named]
    (∃ out, (shelf.createSchema Shelf.catalog config).result = .ok out ∧ out.length = 6 ∧
      ((shelf.insertPlain "i64").createSchema Shelf.catalog config).result = .ok out ∧
      ∃ table links, links.length = 4 ∧
        ((shelf.insertRecord Shelf.catalog .editor).createSchema Shelf.catalog config).result =
          .ok (out.take 2 ++ [table] ++ out.drop 2 ++ links)) ∧
    (∃ out, (names.createSchema Shelf.catalog config).result = .ok out ∧
      ∃ e, ((names.insertRecord Shelf.catalog .author).createSchema Shelf.catalog config).result =
        .error e ∧ e.owner? = some "library::Author") := by
  intro config shelf names
  have hresolve : ∀ history : List (Registered Shelf),
      (ofHistory Shelf.catalog history).resolve = lastNamed Shelf.catalog history :=
    fun history => funext (resolve_ofHistory Shelf.catalog history)
  have hfresh : ∀ (history : List (Registered Shelf)) (name : String),
      lastNamed Shelf.catalog history name = none →
        (ofHistory Shelf.catalog history).contains name = false := by
    intro history name h
    rw [contains_eq_isSome_resolve, hresolve, h]
    rfl
  refine ⟨?_, ?_⟩
  · have hrecords : shelf.records = [.book, .author] := by
      rw [records_ofHistory]
      decide
    have hresolve' : (shelf.insertRecord Shelf.catalog .editor).resolve =
        lastNamed Shelf.catalog [.record .book, .record .author, .record .editor] := by
      rw [← hresolve]
      rfl
    have hok : (shelf.createSchema Shelf.catalog config).result = .ok _ :=
      createSchema_eq_ok_iff.2 ⟨by decide, by rw [hrecords, hresolve]; decide, rfl⟩
    obtain ⟨hout, hplain, hrecord⟩ := createSchema_insert_fresh Shelf.catalog _ config hok
    obtain ⟨-, hiff, -, hor⟩ := hrecord .editor (hfresh _ _ (by decide))
    -- the one marker that is looked up for an editor names a book
    have hnone : ¬ ∃ e, ((shelf.insertRecord Shelf.catalog .editor).createSchema Shelf.catalog
        config).result = .error e := by
      rw [hiff]
      rintro ⟨f, hf, element, hl, hne⟩
      have hbook : ∀ f ∈ (Shelf.catalog .editor).allFields Shelf.catalog,
          ∀ element ∈ f.element?, element = "library::Book" := by decide
      cases hbook f hf element (Field.element?_eq_some_iff.2 hl)
      apply hne .book
      rw [hresolve']
      decide
    let c' := Compiler.standard config Shelf.catalog
      (shelf.insertRecord Shelf.catalog .editor).resolve
    have htables : (shelf.records.map fun r => (Compiler.standard config Shelf.catalog
        shelf.resolve).table (Shelf.catalog r)).length = 2 := by
      rw [List.length_map, hrecords]
      rfl
    refine ⟨_, hok, ?_, hplain "i64" (hfresh _ _ (by decide)), c'.table (Shelf.catalog .editor),
      c'.links (Shelf.catalog .editor), ?_, ?_⟩
    · rw [hrecords, hresolve]
      rfl
    · show ((Compiler.standard config Shelf.catalog
        (shelf.insertRecord Shelf.catalog .editor).resolve).links _).length = 4
      rw [hresolve']
      rfl
    · rw [hout, List.take_left' htables, List.drop_left' htables]
      exact hor.resolve_left hnone
  · have hrecords : names.records = [.named] := by
      rw [records_ofHistory]
      decide
    have hresolve' : (names.insertRecord Shelf.catalog .author).resolve =
        lastNamed Shelf.catalog [.record .named, .record .author] := by
      rw [← hresolve]
      rfl
    have hok : (names.createSchema Shelf.catalog config).result = .ok _ :=
      createSchema_eq_ok_iff.2 ⟨by decide, by rw [hrecords, hresolve]; decide, rfl⟩
    obtain ⟨-, -, hrecord⟩ := createSchema_insert_fresh Shelf.catalog _ config hok
    obtain ⟨-, hiff, herror, -⟩ := hrecord .author (hfresh _ _ (by decide))
    have hunknown : (names.insertRecord Shelf.catalog .author).resolve "library::Book" = none := by
      rw [hresolve']
      decide
    obtain ⟨e, he⟩ := hiff.2 ⟨(Field.plain "books" .collection).withListOf "library::Book",
      by decide, "library::Book", ⟨rfl, nofun, rfl⟩, fun child hr => by cases hunknown.symm.trans hr⟩
    exact ⟨_, hok, e, he, (herror e he).1⟩

end Registry

end RecordSchema
