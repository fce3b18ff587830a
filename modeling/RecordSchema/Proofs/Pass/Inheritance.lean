import RecordSchema.Proofs.Pass.Environment

/-!
# Inheritance

Inheritance only says which fields a record has. If each record is replaced by its flattened copy,
which declares all these fields itself and has no parent, the owners of relations, the names they
are given and the errors stay the same (`result_compile_flattened`). A child is known by its names,
so it does not matter that its ancestors are gone too; and a copy has the fields that the walk over
the ancestors found before it was cut.
-/

namespace RecordSchema

variable {ρ : Type}

theorem Record.sameNames_flattened (catalog : Catalog ρ) (r : Record ρ) :
    r.SameNames (r.flattened catalog) := ⟨rfl, rfl⟩

namespace Compiler

/-- The same policies, with references that stand for the flattened copies of records. -/
def flattened (c : Compiler ρ) : Compiler ρ :=
  c.withCatalog fun ref => (c.catalog ref).flattened c.catalog

/-- Flattened records compile to what the records with their ancestors do. -/
theorem result_compile_flattened (c : Compiler ρ) (hn : c.naming.ReadsNames)
    (records : List (Record ρ)) :
    (c.flattened.compile (records.map (Record.flattened c.catalog))).result =
      (c.compile records).result := by
  apply result_compile_withCatalog hn fun ref => Record.sameNames_flattened ..
  rw [List.forall₂_map_right_iff, List.forall₂_same]
  intro r _
  refine ⟨Record.sameNames_flattened .., ?_⟩
  rw [Record.allFields_flattened]
  exact Field.Edited.refl ..

/-- The library's editor inherits two relations. Flattened it declares them; the batch has the same
ten statements, and a pass that cannot resolve the books of an editor still blames the editor. -/
theorem result_compile_flattened_shelf :
    Shelf.compiler.naming.ReadsNames ∧
    (Shelf.catalog .editor).fields = [] ∧
    ((Shelf.catalog .editor).flattened Shelf.catalog).fields.length = 4 ∧
    (Shelf.compiler.flattened.compile
        (Shelf.batch.map (Record.flattened Shelf.compiler.catalog))).result.map List.length =
      .ok 10 ∧
    ({ Shelf.compiler with resolve := fun _ => none }.flattened.compile
        [(Shelf.catalog .editor).flattened Shelf.catalog]).result =
      .error (.unknownElement "library::Editor" "books" "library::Book") := by
  have hn : Shelf.compiler.naming.ReadsNames := Naming.readsNames_standard "app_"
  refine ⟨hn, rfl, rfl, ?_, ?_⟩
  · rw [result_compile_flattened Shelf.compiler hn, result_compile,
      show Shelf.compiler.error? Shelf.batch = none by decide]
    rfl
  · have h := result_compile_flattened { Shelf.compiler with resolve := fun _ => none } hn
      [Shelf.catalog .editor]
    refine h.trans ?_
    rw [result_compile, unlessError_eq_error_iff]
    decide

end Compiler

end RecordSchema
