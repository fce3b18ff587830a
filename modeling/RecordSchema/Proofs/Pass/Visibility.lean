import RecordSchema.Proofs.Pass.Environment

/-!
# What a schema shows

A schema shows nothing of the fields that are left out of it. Such fields may be taken out of the
records of an environment, and ignored ones may change, wherever in a chain of ancestors they stand:
the walk over the ancestors reads names and parents only, so it goes the same way, and all fields
of a record differ as its own and its ancestors' do (`edited_allFields`). With that no pass can tell
the two environments apart (`result_compile_edited`), and the errors of a pass come from fields that
are not ignored.
-/

namespace RecordSchema

variable {ρ : Type}

namespace Record

/-- A record and what becomes of it when fields that are left out are taken out of its declaration
or, being ignored, changed. -/
structure Edited (s : Surroundings ρ) (r r' : Record ρ) : Prop extends SameNames r r' where
  parent : r'.parent = r.parent
  fields : Field.Edited s r.fields r'.fields

/-- Fields of corresponding records, one record after the other. -/
theorem edited_flatMap_fields {s : Surroundings ρ} {chain chain' : List (Record ρ)}
    (h : List.Forall₂ (Edited s) chain chain') :
    Field.Edited s (chain.flatMap Record.fields) (chain'.flatMap Record.fields) := by
  induction h with
  | nil => exact .nil
  | cons hr _ ih => exact hr.fields.append ih

section Edited

variable {s : Surroundings ρ} {catalog catalog' : Catalog ρ}
  (hc : ∀ ref, (catalog ref).Edited s (catalog' ref))

include hc

/-- Both walks to the ancestors meet records that correspond to one another. -/
theorem forall₂_walk (start : String) (room : Nat) (next : Option ρ) :
    List.Forall₂ (Edited s) (walk catalog start room next).1 (walk catalog' start room next).1 := by
  induction room generalizing next with
  | zero => cases next <;> exact .nil
  | succ room ih =>
    cases next with
    | none => exact .nil
    | some ref =>
      -- with one name and one parent on both sides the walks are cut together
      rw [walk, walk, (hc ref).name, (hc ref).parent]
      split
      · exact .nil
      · exact .cons (hc ref) (ih (catalog ref).parent)

theorem edited_allFields {r r' : Record ρ} (hr : r.Edited s r') :
    Field.Edited s (r.allFields catalog) (r'.allFields catalog') := by
  have hancestors : List.Forall₂ (Edited s) (r.ancestors catalog) (r'.ancestors catalog') := by
    rw [ancestors, ancestors, hr.name, hr.parent]
    exact forall₂_walk hc r.name maxAncestors r.parent
  exact edited_flatMap_fields (List.forall₂_reverse_iff.2 (.cons hr hancestors))

end Edited

end Record

namespace Shelf

/-- The library without what its schema does not show. The names and titles, which have no column
type, are gone, and the author's broken list is a single author now, still ignored. -/
def trimmed : Catalog Shelf
  | named => { catalog named with fields := [] }
  | book => { catalog book with fields := [] }
  | author =>
    { catalog author with
      fields :=
        [(Field.plain "books" .collection).withListOf "library::Book",
          .plain "favourite" (.record book),
          ((Field.plain "cache" (.record author)).withColumn "author").ignore] }
  | editor => catalog editor

theorem edited_trimmed (resolve : Resolver Shelf) (ref : Shelf) :
    (catalog ref).Edited { compiler.toSurroundings with resolve } (trimmed ref) := by
  cases ref with
  | named =>
    exact { name := rfl, table := rfl, parent := rfl
            fields := .drop (.unsupported "library::Named" rfl) .nil }
  | book =>
    exact { name := rfl, table := rfl, parent := rfl
            fields := .drop (.unsupported "library::Book" rfl) .nil }
  | author =>
    exact { name := rfl, table := rfl, parent := rfl
            fields := .keep _ (.keep _ (.change rfl rfl .nil)) }
  | editor => exact { name := rfl, table := rfl, parent := rfl, fields := .nil }

end Shelf

namespace Compiler

/-- The result of a pass does not depend on the fields that are left out, neither in the batch nor
in the records it refers to or inherits from. An error is one of a field that is not ignored. -/
theorem result_compile_edited (c : Compiler ρ) (hn : c.naming.ReadsNames) (catalog : Catalog ρ)
    (hc : ∀ ref, (c.catalog ref).Edited c.toSurroundings (catalog ref))
    (records records' : List (Record ρ))
    (hr : List.Forall₂ (Record.Edited c.toSurroundings) records records') :
    ((c.withCatalog catalog).compile records').result = (c.compile records).result ∧
      ∀ e, (c.compile records).result = .error e →
        ∃ r ∈ records, ∃ f ∈ r.allFields c.catalog,
          f.ignored = false ∧ f.Refused c.toSurroundings r.name e := by
  refine ⟨?_, ?_⟩
  · refine result_compile_withCatalog hn (fun ref => (hc ref).toSameNames) (hr.imp ?_)
    exact fun r r' h => ⟨h.toSameNames, Record.edited_allFields hc h⟩
  · intro e he
    rw [result_compile, unlessError_eq_error_iff] at he
    obtain ⟨⟨r, f⟩, hmem, hf⟩ := List.exists_of_findSome?_eq_some he
    obtain ⟨hr, hfields⟩ := mem_fieldsOf.1 hmem
    have hrefused := Field.error?_eq_some_iff.1 hf
    refine ⟨r, hr, f, hfields, ?_, hrefused⟩
    cases hrefused with
    | unknown h => exact h.1
    | plain h => exact h.1

/-- The trimmed library has the same ten statements. With a resolver that knows no names it fails as
it did, for a field that is not ignored. -/
theorem result_compile_edited_shelf :
    Shelf.compiler.naming.ReadsNames ∧
    (∀ ref, (Shelf.catalog ref).Edited Shelf.compiler.toSurroundings (Shelf.trimmed ref)) ∧
    ((Shelf.compiler.withCatalog Shelf.trimmed).compile
      [Shelf.trimmed .author, Shelf.trimmed .book, Shelf.trimmed .author,
        Shelf.trimmed .editor]).result.map List.length = .ok 10 ∧
    (({ Shelf.compiler with resolve := fun _ => none }.withCatalog Shelf.trimmed).compile
      [Shelf.trimmed .book, Shelf.trimmed .editor]).result =
      .error (.unknownElement "library::Editor" "books" "library::Book") ∧
    ∃ r ∈ [Shelf.catalog .book, Shelf.catalog .editor], ∃ f ∈ r.allFields Shelf.catalog,
      f.ignored = false ∧
        f.Refused { Shelf.compiler.toSurroundings with resolve := fun _ => none } r.name
          (.unknownElement "library::Editor" "books" "library::Book") := by
  have hn : Shelf.compiler.naming.ReadsNames := Naming.readsNames_standard "app_"
  have hc := Shelf.edited_trimmed Shelf.compiler.resolve
  refine ⟨hn, hc, ?_, ?_⟩
  · have h := result_compile_edited Shelf.compiler hn Shelf.trimmed hc Shelf.batch _
      (.cons (hc .author) <| .cons (hc .book) <| .cons (hc .author) <| .cons (hc .editor) .nil)
    rw [h.1, result_compile, show Shelf.compiler.error? Shelf.batch = none by decide]
    rfl
  · have hc' := Shelf.edited_trimmed fun _ => none
    have h := result_compile_edited { Shelf.compiler with resolve := fun _ => none } hn
      Shelf.trimmed hc' [Shelf.catalog .book, Shelf.catalog .editor] _
      (.cons (hc' .book) <| .cons (hc' .editor) .nil)
    have herror : ({ Shelf.compiler with resolve := fun _ => none }.compile
        [Shelf.catalog .book, Shelf.catalog .editor]).result =
        .error (.unknownElement "library::Editor" "books" "library::Book") := by
      rw [result_compile, unlessError_eq_error_iff]
      decide
    exact ⟨h.1.trans herror, h.2 _ herror⟩

end Compiler

end RecordSchema
