import RecordSchema.Proofs.Pass.Batch

/-!
# Environments that a pass cannot tell apart

Of a record that a field refers to a pass reads the names only, and only where it writes a join
table; of a field that it leaves out it reads nothing. So two environments give one result if
every reference leads to records of the same names and each record of the batch has the same fields
but for fields left out (`result_compile_withCatalog`). For the records of the batch this counts
inherited fields, whichever ancestors they come from.
-/

namespace RecordSchema

variable {ρ : Type}

/-! ## What a pass reads of other records -/

/-- Two records with one name and one table name. -/
structure Record.SameNames (r r' : Record ρ) : Prop where
  name : r'.name = r.name
  table : r'.table = r.table

/-- A naming policy that reads the names and table names of records and the names of fields, and
nothing else of them. -/
structure Naming.ReadsNames (n : Naming ρ) : Prop where
  table {r r' : Record ρ} (h : r.SameNames r') : n.table r' = n.table r
  joinTable {owner owner' child child' : Record ρ} {f f' : Field ρ} (ho : owner.SameNames owner')
    (hc : child.SameNames child') (hf : f'.name = f.name) :
    n.joinTable owner' child' f' = n.joinTable owner child f

namespace Naming

theorem readsNames_ofTable {table : Record ρ → String}
    (h : ∀ r r', r.SameNames r' → table r' = table r) : (ofTable table).ReadsNames where
  table hr := h _ _ hr
  joinTable ho hc hf := by simp only [ofTable, h _ _ ho, h _ _ hc, hf]

theorem readsNames_standard (tablePrefix : String) :
    (standard tablePrefix : Naming ρ).ReadsNames where
  table h := by simp only [standard, Record.shortName, h.name, h.table]
  joinTable ho hc hf := by
    simp only [standard, baseName, Record.shortName, ho.name, ho.table, hc.name, hc.table, hf]

end Naming

/-- A relation leads to a reference. The catalog only says which record that is. -/
theorem Field.relation?_eq_map_catalog (s : Surroundings ρ) (f : Field ρ) :
    ∃ target : Option (RelationKind × ρ), ∀ catalog : Catalog ρ,
      f.relation? { s with catalog } = target.map fun (kind, ref) => (kind, catalog ref) := by
  unfold relation?
  cases f.ignored with
  | true => exact ⟨none, fun _ => rfl⟩
  | false =>
    cases f.type with
    | record ref => exact ⟨some (.oneToOne, ref), fun _ => rfl⟩
    | scalar _ | collection | foreign _ =>
      simp only [Bool.false_eq_true, if_false]
      match f.listOf.bind s.resolve with
      | some (.record ref) => exact ⟨some (.oneToMany, ref), fun _ => rfl⟩
      | some (.plain _) => exact ⟨none, fun _ => rfl⟩
      | none => exact ⟨none, fun _ => rfl⟩

/-! ## What a pass reads of fields -/

namespace Field

/-- A field that is left out of a schema: it is ignored, or the pass finds it to be unsupported. -/
inductive LeftOut (s : Surroundings ρ) (f : Field ρ) : Prop
  | ignored (h : f.ignored = true)
  | unsupported (owner : String) (h : Role.of s owner f = .ok .unsupported)

/-- What is left out is no error, no relation and no column. -/
theorem LeftOut.readings {s : Surroundings ρ} {f : Field ρ} (h : f.LeftOut s) :
    (∀ owner, f.error? s owner = none) ∧ f.relation? s = none ∧ f.column? s = none := by
  have hrole : ∃ owner role, Role.of s owner f = .ok role ∧
      role.relation? = none ∧ role.column? = none := by
    cases h with
    | ignored h => exact ⟨"", .ignored, Role.of_ignored h, rfl, rfl⟩
    | unsupported owner h => exact ⟨owner, .unsupported, h, rfl, rfl⟩
  obtain ⟨owner, role, hof, hrel, hcol⟩ := hrole
  obtain ⟨role', hof', hrel', hcol'⟩ := Role.of_eq_unlessError s owner f
  obtain ⟨he, rfl⟩ := unlessError_eq_ok_iff.1 (hof'.symm.trans hof)
  refine ⟨fun owner' => ?_, hrel'.symm.trans hrel, hcol'.symm.trans hcol⟩
  -- whether a field has an error does not depend on its owner
  rw [error?_eq_none_iff] at he ⊢
  exact he

/-- Two lists of the same fields but for fields left out: the second list may lack some of these,
and hold other ignored fields for ignored ones. -/
inductive Edited (s : Surroundings ρ) : List (Field ρ) → List (Field ρ) → Prop
  | nil : Edited s [] []
  | keep (f : Field ρ) {fields fields' : List (Field ρ)} (h : Edited s fields fields') :
    Edited s (f :: fields) (f :: fields')
  | drop {f : Field ρ} {fields fields' : List (Field ρ)} (hf : f.LeftOut s)
    (h : Edited s fields fields') : Edited s (f :: fields) fields'
  | change {f f' : Field ρ} {fields fields' : List (Field ρ)} (hf : f.ignored = true)
    (hf' : f'.ignored = true) (h : Edited s fields fields') :
    Edited s (f :: fields) (f' :: fields')

namespace Edited

variable {s : Surroundings ρ} {fields fields' : List (Field ρ)}

theorem refl (s : Surroundings ρ) (fields : List (Field ρ)) : Edited s fields fields := by
  induction fields with
  | nil => exact .nil
  | cons f fields ih => exact .keep f ih

theorem append {more more' : List (Field ρ)} (h : Edited s fields fields')
    (hmore : Edited s more more') : Edited s (fields ++ more) (fields' ++ more') := by
  induction h with
  | nil => exact hmore
  | keep f _ ih => exact .keep f ih
  | drop hf _ ih => exact .drop hf ih
  | change hf hf' _ ih => exact .change hf hf' ih

/-- What is read field by field is the same if nothing is read of the fields left out. -/
theorem flatMap_eq {α : Type} {read : Field ρ → List α} (h : Edited s fields fields')
    (hread : ∀ f, f.LeftOut s → read f = []) : fields'.flatMap read = fields.flatMap read := by
  induction h with
  | nil => rfl
  | keep f _ ih => rw [List.flatMap_cons, List.flatMap_cons, ih]
  | drop hf _ ih => rw [List.flatMap_cons, hread _ hf, ih, List.nil_append]
  | change hf hf' _ ih =>
    rw [List.flatMap_cons, List.flatMap_cons, hread _ (.ignored hf), hread _ (.ignored hf'), ih]

theorem filterMap_eq {α : Type} {read : Field ρ → Option α} (h : Edited s fields fields')
    (hread : ∀ f, f.LeftOut s → read f = none) :
    fields'.filterMap read = fields.filterMap read := by
  rw [List.filterMap_eq_flatMap_toList, List.filterMap_eq_flatMap_toList]
  exact h.flatMap_eq fun f hf => by rw [hread f hf, Option.toList_none]

theorem findSome?_eq {α : Type} {read : Field ρ → Option α} (h : Edited s fields fields')
    (hread : ∀ f, f.LeftOut s → read f = none) :
    fields'.findSome? read = fields.findSome? read := by
  rw [← List.head?_filterMap, ← List.head?_filterMap, h.filterMap_eq hread]

end Edited

end Field

/-! ## Passes in two environments -/

namespace Compiler

/-- The statements of the relation of a field, if it is one. -/
def fieldLinks (c : Compiler ρ) (owner : Record ρ) (f : Field ρ) : List String :=
  (f.relation? c.toSurroundings).toList.flatMap fun relation =>
    c.templates.joinStatements (c.naming.joinTable owner relation.2 f)
      (c.naming.table owner) (c.naming.table relation.2)

theorem links_eq_flatMap (c : Compiler ρ) (r : Record ρ) :
    c.links r = (r.allFields c.catalog).flatMap (c.fieldLinks r) := by
  rw [links, flatMap_joins_joinStatements, List.flatMap_singleton]
  rfl

/-- The same policies, with references that stand for other records. -/
def withCatalog (c : Compiler ρ) (catalog : Catalog ρ) : Compiler ρ := { c with catalog }

section withCatalog

variable {c : Compiler ρ} {catalog : Catalog ρ} (hn : c.naming.ReadsNames)
  (hc : ∀ ref, (c.catalog ref).SameNames (catalog ref))

include hn hc

theorem fieldLinks_withCatalog {owner owner' : Record ρ} (ho : owner.SameNames owner')
    (f : Field ρ) : (c.withCatalog catalog).fieldLinks owner' f = c.fieldLinks owner f := by
  obtain ⟨target, htarget⟩ := f.relation?_eq_map_catalog c.toSurroundings
  have h : f.relation? c.toSurroundings = _ := htarget c.catalog
  have h' : f.relation? (c.withCatalog catalog).toSurroundings = _ := htarget catalog
  rw [fieldLinks, fieldLinks, h, h']
  cases target with
  | none => rfl
  | some target =>
    simp only [Option.map_some, Option.toList_some, List.flatMap_singleton, withCatalog]
    rw [hn.joinTable ho (hc target.2) rfl, hn.table ho, hn.table (hc target.2)]
    rfl

/-- A record by itself, compiled where all records have the same names and it has the same fields
but for fields left out. -/
theorem result_compile_withCatalog_singleton {r r' : Record ρ} (hr : r.SameNames r')
    (hfields : Field.Edited c.toSurroundings (r.allFields c.catalog) (r'.allFields catalog)) :
    ((c.withCatalog catalog).compile [r']).result = (c.compile [r]).result := by
  -- errors and columns are found without the catalog, and of a child the names alone are read
  have herror : (c.withCatalog catalog).error? [r'] = c.error? [r] := by
    rw [error?_singleton, error?_singleton, hr.name]
    exact hfields.findSome?_eq fun f hf => hf.readings.1 r.name
  have hcolumns : (c.withCatalog catalog).columns r' = c.columns r :=
    hfields.filterMap_eq fun f hf => hf.readings.2.2
  have htable : (c.withCatalog catalog).table r' = c.table r := by
    rw [table, table, hcolumns]
    show c.templates.tableStatement (c.naming.table r') _ = _
    rw [hn.table hr]
  have hlinks : (c.withCatalog catalog).links r' = c.links r := by
    rw [links_eq_flatMap, links_eq_flatMap, funext (fieldLinks_withCatalog hn hc hr)]
    refine hfields.flatMap_eq fun f hf => ?_
    rw [fieldLinks, hf.readings.2.1]
    rfl
  rw [result_compile_singleton, result_compile_singleton, herror, htable, hlinks]

/-- A pass gives one result in two environments that differ in fields left out and, for the records
that are referred to, in anything but their names. -/
theorem result_compile_withCatalog {records records' : List (Record ρ)}
    (h : List.Forall₂ (fun r r' => r.SameNames r' ∧
      Field.Edited c.toSurroundings (r.allFields c.catalog) (r'.allFields catalog))
      records records') :
    ((c.withCatalog catalog).compile records').result = (c.compile records).result :=
  result_compile_congr (h.imp fun _ _ hr => result_compile_withCatalog_singleton hn hc hr.1 hr.2)

end withCatalog

end Compiler

end RecordSchema
