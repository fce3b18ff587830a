import RecordSchema.Proofs.Pass.Failure
import RecordSchema.Proofs.Registry.Closure

/-!
# Scalar fields

With the standard column types a scalar field has a type in either dialect, its own or that of its
scalar. But what a field becomes is decided in an order, and a `listOf` marker is looked at before
the column types are asked. So a scalar field without a marker is one column and nothing else
(`Field.OnlyColumn`): it adds one column to its table, no relation, and no error. A scalar field
with a marker is what the marker says, like any other field that does not hold a record.
-/

namespace RecordSchema

variable {ρ : Type}

namespace Field

/-- A field that holds a plain value and has neither of the markers. -/
structure UnmarkedScalar (f : Field ρ) (t : SqlType) : Prop where
  scalar : f.type = .scalar t
  not_ignored : f.ignored = false
  not_list : f.listOf = none

/-- The column of a scalar field: its own type, or else the dialect's for the scalar. -/
def scalarColumn (d : Dialect) (f : Field ρ) (t : SqlType) : Column :=
  ⟨f.column, f.sqlType.getD (d.typeName t)⟩

/-- A field is one column, whoever its owner is, and stands for nothing else. -/
structure OnlyColumn (s : Surroundings ρ) (f : Field ρ) (column : Column) : Prop where
  classified (owner : String) : Role.classify s owner f = .done (.column column)
  becomes (column' : Column) : f.BecomesColumn s column' ↔ column' = column
  leads_nowhere (kind : RelationKind) (child : Record ρ) : ¬ f.LeadsTo s kind child
  accepted (owner : String) (e : SchemaError) : ¬ f.Refused s owner e

variable {s : Surroundings ρ} {f : Field ρ}

/-- A field is refused for a marker that is looked up. -/
theorem Refused.looksUp {owner : String} {e : SchemaError} (h : f.Refused s owner e) :
    ∃ element, f.LooksUp element := by
  cases h with
  | unknown h _ | plain h _ => exact ⟨_, h⟩

theorem UnmarkedScalar.not_looksUp {t : SqlType} (h : f.UnmarkedScalar t) (element : String) :
    ¬ f.LooksUp element := by
  rintro ⟨-, -, hlist⟩
  rw [h.not_list] at hlist
  cases hlist

theorem UnmarkedScalar.becomesColumn_iff {t : SqlType} {d : Dialect} (h : f.UnmarkedScalar t)
    (hs : s.columnTypes = .standard d) (column : Column) :
    f.BecomesColumn s column ↔ column = f.scalarColumn d t := by
  have htype : s.columnTypes.sqlType f = some (f.sqlType.getD (d.typeName t)) := by
    rw [hs]
    cases ho : f.sqlType with
    | some text => exact ColumnTypes.sqlType_standard_of_some ho
    | none => rw [ColumnTypes.sqlType_standard_of_none ho, h.scalar]; rfl
  constructor
  · rintro ⟨-, -, -, -, htyped, hnamed⟩
    rw [htype, Option.some_inj] at htyped
    rw [scalarColumn, htyped, ← hnamed]
  · rintro rfl
    refine ⟨h.not_ignored, by simp [h.scalar], h.not_list, ?_, htype, rfl⟩
    rw [hs] at htype ⊢
    rw [ColumnTypes.supports_standard, htype]
    rfl

theorem UnmarkedScalar.onlyColumn {t : SqlType} {d : Dialect} (h : f.UnmarkedScalar t)
    (hs : s.columnTypes = .standard d) : f.OnlyColumn s (f.scalarColumn d t) where
  classified owner := by
    have hcolumn := (h.becomesColumn_iff hs _).2 rfl
    have hpolicy : s.columnTypes.column? f = some (f.scalarColumn d t) := by
      rw [ColumnTypes.column?, if_pos hcolumn.supported, hcolumn.typed]
      rfl
    -- the checks before the column policy let the field through
    have hof : Role.of s owner f = .ok (.column (f.scalarColumn d t)) := by
      simp [Role.of, h.not_ignored, h.scalar, h.not_list, hpolicy]
    rw [Role.classify, hof]
    rfl
  becomes := h.becomesColumn_iff hs
  leads_nowhere kind child := by
    rintro (⟨-, hrecord⟩ | ⟨hlook, -⟩)
    · rw [h.scalar] at hrecord
      cases hrecord
    · exact h.not_looksUp _ hlook
  accepted owner e := by
    intro hrefused
    obtain ⟨_, hlook⟩ := hrefused.looksUp
    exact h.not_looksUp _ hlook

/-- A marker that is looked up decides by itself what a field is. -/
theorem LooksUp.role_of {element : String} (h : f.LooksUp element) (owner : String) :
    Role.of s owner f = Role.ofElement s owner f.name element := by
  obtain ⟨hignored, hrecord, hlist⟩ := h
  cases ht : f.type with
  | record r => exact absurd ht (hrecord r)
  | scalar _ | collection | foreign _ => simp [Role.of, hignored, ht, hlist]

end Field

namespace Compiler

variable {c : Compiler ρ} {r : Record ρ} {before after : List (Field ρ)} {f : Field ρ}
  {column : Column}

/-- A field that is only a column adds this column to its table, where the field stands. -/
theorem columns_of_onlyColumn (hfields : r.allFields c.catalog = before ++ f :: after)
    (h : f.OnlyColumn c.toSurroundings column) :
    c.columns r = before.filterMap (Field.column? c.toSurroundings) ++
      column :: after.filterMap (Field.column? c.toSurroundings) := by
  have hcolumn := Field.column?_eq_some_iff.2 ((h.becomes column).2 rfl)
  rw [columns, hfields, List.filterMap_append, List.filterMap_cons_some hcolumn]

/-- It adds no relation. -/
theorem joins_of_onlyColumn (hfields : r.allFields c.catalog = before ++ f :: after)
    (h : f.OnlyColumn c.toSurroundings column) :
    c.joins [r] = (before ++ after).filterMap fun g => g.join? c.toSurroundings r := by
  have hnone : f.join? c.toSurroundings r = none := by
    rw [Field.join?, Option.map_eq_none_iff, Option.eq_none_iff_forall_ne_some]
    rintro ⟨kind, child⟩ hrelation
    exact h.leads_nowhere kind child (Field.relation?_eq_some_iff.1 hrelation)
  rw [joins_singleton, hfields, List.filterMap_append, List.filterMap_cons_none hnone,
    ← List.filterMap_append]

/-- And it adds no error. -/
theorem error?_of_onlyColumn (hfields : r.allFields c.catalog = before ++ f :: after)
    (h : f.OnlyColumn c.toSurroundings column) :
    c.error? [r] = (before ++ after).findSome? fun g => g.error? c.toSurroundings r.name := by
  have hnone : f.error? c.toSurroundings r.name = none := by
    rw [Option.eq_none_iff_forall_ne_some]
    exact fun e he => h.accepted r.name e (Field.error?_eq_some_iff.1 he)
  rw [error?_singleton, hfields, List.findSome?_append, List.findSome?_cons, hnone,
    ← List.findSome?_append]

/-- A pass over a record is what its other fields make of it, with one more column. -/
theorem result_compile_of_onlyColumn (hfields : r.allFields c.catalog = before ++ f :: after)
    (h : f.OnlyColumn c.toSurroundings column) :
    (c.compile [r]).result =
      unlessError ((before ++ after).findSome? fun g => g.error? c.toSurroundings r.name)
        (c.templates.tableStatement (c.naming.table r)
            (before.filterMap (Field.column? c.toSurroundings) ++
              column :: after.filterMap (Field.column? c.toSurroundings)) ::
          ((before ++ after).filterMap fun g => g.join? c.toSurroundings r).flatMap
            c.joinStatements) := by
  rw [result_compile, error?_of_onlyColumn hfields h, schema, joins_of_onlyColumn hfields h,
    List.map_singleton, table, columns_of_onlyColumn hfields h]
  rfl

/-- No relation of a batch comes from it. -/
theorem field_ne_of_onlyColumn (h : f.OnlyColumn c.toSurroundings column)
    {records : List (Record ρ)} {j : Join ρ} (hj : j ∈ c.joins records) : j.field ≠ f := by
  rintro rfl
  exact h.leads_nowhere _ _ (mem_joins_iff.1 hj).2.2

/-- A pass fails for another field. -/
theorem exists_refused_ne_of_onlyColumn (h : f.OnlyColumn c.toSurroundings column)
    {records : List (Record ρ)} {e : SchemaError} (he : (c.compile records).result = .error e) :
    ∃ r ∈ records, ∃ g ∈ r.allFields c.catalog, g ≠ f ∧ g.Refused c.toSurroundings r.name e := by
  rw [result_compile, unlessError_eq_error_iff, error?_eq_some_iff] at he
  obtain ⟨first, r, g, rest, hsplit, -, hrefused⟩ := he
  have hmem : (r, g) ∈ c.fieldsOf records := by simp [hsplit]
  obtain ⟨hr, hg⟩ := mem_fieldsOf.1 hmem
  refine ⟨r, hr, g, hg, ?_, hrefused⟩
  rintro rfl
  exact h.accepted _ _ hrefused

/-- With the standard column types of a dialect, a scalar field that has no marker is one column,
with its own type or the dialect's, and nothing else. So it adds a column to the table of a record,
and neither a join table nor an error to any pass. Only a field that holds a record or that has a
`listOf` marker is a relation, and of a field that does not hold a record the marker alone decides
what it is. -/
theorem scalar_field_is_column (d : Dialect) (c : Compiler ρ) (hc : c.columnTypes = .standard d) :
    (∀ (f : Field ρ) (t : SqlType), f.UnmarkedScalar t →
      f.OnlyColumn c.toSurroundings (f.scalarColumn d t) ∧
      -- in a record
      (∀ (r : Record ρ) (before after : List (Field ρ)),
        r.allFields c.catalog = before ++ f :: after →
          (c.compile [r]).result =
            unlessError ((before ++ after).findSome? fun g => g.error? c.toSurroundings r.name)
              (c.templates.tableStatement (c.naming.table r)
                  (before.filterMap (Field.column? c.toSurroundings) ++
                    f.scalarColumn d t :: after.filterMap (Field.column? c.toSurroundings)) ::
                ((before ++ after).filterMap fun g => g.join? c.toSurroundings r).flatMap
                  c.joinStatements)) ∧
      -- in a batch
      (∀ records : List (Record ρ), (∀ j ∈ c.joins records, j.field ≠ f) ∧
        ∀ e, (c.compile records).result = .error e →
          ∃ r ∈ records, ∃ g ∈ r.allFields c.catalog, g ≠ f ∧
            g.Refused c.toSurroundings r.name e)) ∧
    -- relations
    (∀ (owner : String) (g : Field ρ) (role : Role ρ) (kind : RelationKind) (child : Record ρ),
      Role.of c.toSurroundings owner g = .ok role → role.relation? = some (kind, child) →
        (kind = .oneToOne ∧ ∃ ref, g.type = .record ref) ∨
          (kind = .oneToMany ∧ ∃ element, g.LooksUp element)) ∧
    -- markers
    (∀ (owner : String) (g : Field ρ) (element : String), g.LooksUp element →
      Role.of c.toSurroundings owner g =
        Role.ofElement c.toSurroundings owner g.name element) := by
  refine ⟨fun f t hf => ?_, fun owner g role kind child hrole hrelation => ?_,
    fun owner g element hlook => hlook.role_of owner⟩
  · have honly := hf.onlyColumn (s := c.toSurroundings) hc
    exact ⟨honly, fun r before after hfields => result_compile_of_onlyColumn hfields honly,
      fun records => ⟨fun j hj => field_ne_of_onlyColumn honly hj,
        fun e he => exists_refused_ne_of_onlyColumn honly he⟩⟩
  · obtain ⟨role', hof, hrel, -⟩ := Role.of_eq_unlessError c.toSurroundings owner g
    obtain ⟨-, rfl⟩ := unlessError_eq_ok_iff.1 (hof.symm.trans hrole)
    rw [hrel, Field.relation?_eq_some_iff] at hrelation
    cases hrelation with
    | single _ htype => exact .inl ⟨rfl, _, htype⟩
    | list hlook _ => exact .inr ⟨rfl, _, hlook⟩

/-- An author's inherited name is its one column, and its table is written with it. -/
theorem scalar_field_is_column_shelf :
    let c : Compiler Shelf :=
      .standard { dialect := .mysql, tablePrefix := "app_" } Shelf.catalog Shelf.compiler.resolve
    let name : Field Shelf := .plain "name" (.scalar .text)
    let author := Shelf.catalog .author
    c.columnTypes = .standard .mysql ∧ name.UnmarkedScalar .text ∧
      name.OnlyColumn c.toSurroundings ⟨"name", "TEXT"⟩ ∧
      (c.compile [author]).result =
        .ok (c.templates.tableStatement "authors" [⟨"name", "TEXT"⟩] ::
          (c.joins [author]).flatMap c.joinStatements) := by
  intro c name author
  have hname : name.UnmarkedScalar .text := ⟨rfl, rfl, rfl⟩
  obtain ⟨hscalar, -, -⟩ := scalar_field_is_column .mysql c rfl
  obtain ⟨honly, hrecord, -⟩ := hscalar name .text hname
  refine ⟨rfl, hname, honly, ?_⟩
  rw [hrecord author [] (Shelf.catalog .author).fields rfl]
  rfl

/-- A scalar field with a marker is a list of books if its marker names a book, and fails the pass
if its marker names nothing. A field of a type that the schema knows nothing about is a list of
books by its marker too. -/
theorem marked_scalar_is_not_column :
    let c : Compiler Shelf := .standard {} Shelf.catalog Shelf.compiler.resolve
    let title : Field Shelf := .plain "title" (.scalar .text)
    let reader (f : Field Shelf) : Record Shelf := { name := "library::Reader", fields := [f] }
    let listed := title.withListOf "library::Book"
    let missing := title.withListOf "library::Missing"
    let foreign : Field Shelf := (Field.plain "shelf" (.foreign "Shelf")).withListOf "library::Book"
    listed.type = .scalar .text ∧ listed.ignored = false ∧
      Role.of c.toSurroundings "library::Reader" listed = .ok (.list (Shelf.catalog .book)) ∧
      c.columns (reader listed) = [] ∧
      (c.joins [reader listed]).map c.joinTable = ["Reader_Book_title"] ∧
      missing.type = .scalar .text ∧ missing.ignored = false ∧
      (c.compile [reader missing]).result =
        .error (.unknownElement "library::Reader" "title" "library::Missing") ∧
      foreign.type = .foreign "Shelf" ∧
      Role.of c.toSurroundings "library::Reader" foreign = .ok (.list (Shelf.catalog .book)) := by
  intro c title reader listed missing foreign
  refine ⟨rfl, rfl, rfl, rfl, by decide, rfl, rfl, ?_, rfl, rfl⟩
  rw [result_compile, unlessError_eq_error_iff]
  rfl

end Compiler

end RecordSchema
