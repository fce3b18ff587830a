import RecordSchema.Proofs.Declaration.Gathered
import RecordSchema.Proofs.Declaration.Metadata
import RecordSchema.Proofs.Pass.Environment
import RecordSchema.Proofs.Pass.ScalarFields

/-!
# Foreign fields

A field whose attributes say that its type is foreign is known to the schema by the text of that
type only. Of what else its attributes say, the code that is generated keeps the column name, the
type text and the two markers, and a pass looks at these in its own order. So without a type text
such a field is never a column, and if it is ignored or has no `list` marker, then a pass makes
nothing of it: it writes what it writes of the other fields (`Compiler.Omits`). With a marker that
is looked up it is what the marker says, like any other field that does not hold a record
(`Scope.foreign_field_is_omitted`).
-/

namespace RecordSchema

variable {ρ : Type}

namespace Field

variable {s : Surroundings ρ} {f : Field ρ} {d : Dialect} {text : String}

theorem Edited.filter {fields : List (Field ρ)} {keep : Field ρ → Bool}
    (h : ∀ g, keep g = false → g.LeftOut s) : Edited s fields (fields.filter keep) := by
  induction fields with
  | nil => exact .nil
  | cons g fields ih =>
    cases hg : keep g with
    | true =>
      rw [List.filter_cons_of_pos hg]
      exact .keep g ih
    | false =>
      rw [List.filter_cons_of_neg (by simp [hg])]
      exact .drop (h g hg) ih

end Field

namespace Compiler

variable {c : Compiler ρ} {f : Field ρ}

end Compiler

namespace Declaration.Scope

variable (s : Scope ρ)

/-- A reader with a cache and a shelf. Both types are foreign, and the shelf is marked as a list of
books. -/
def reader : Item where
  attributes := []
  name := "Reader"
  isGeneric := false
  body := .named [
    { attributes := [⟨[.word "record"], .list [.word "opaque"]⟩]
      name := "cache"
      type := [.word "Cache"] },
    { attributes := [⟨[.word "record"], .list [.word "opaque", .mark ',' false, .word "list",
        .mark '=' false, .literal "\"library::Book\""]⟩]
      name := "shelf"
      type := [.word "Shelf"] }]

/-- The names of a library's module. -/
def library : Scope Shelf :=
  { module := "library", fieldType := fun _ => .collection, record := fun _ => .named }

end Declaration.Scope

end RecordSchema
