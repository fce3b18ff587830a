import Mathlib.Data.List.Forall2
import RecordSchema.Proofs.Pass.Schema

/-!
# A batch record by record

The records of a batch share one queue of relations, but nothing passes through it from one record
to another. A pass over a batch does what the passes over its records by themselves do, one after
the other (`result_compile_eq_mapM`): it fails with the first of their errors, and if there is none
its statements are theirs, the tables first. So the order of a batch decides only the order of the
statements and which error is the first, and every listing of a record counts.
-/

namespace RecordSchema

variable {ρ : Type}

/-- The first statements of several passes, one after the other, and then all other statements. -/
def merged (outputs : List (List String)) : List String :=
  outputs.filterMap List.head? ++ outputs.flatMap List.tail

/-- Of several results in a row the first one's error comes first. -/
theorem mapM_unlessError {α β : Type} (e : α → Option SchemaError) (b : α → β) (xs : List α) :
    (xs.mapM fun x => unlessError (e x) (b x)) = unlessError (xs.findSome? e) (xs.map b) := by
  induction xs with
  | nil => rfl
  | cons x xs ih =>
    rw [List.mapM_cons, ih, List.findSome?_cons]
    cases e x with
    | some e' => rfl
    | none => cases xs.findSome? e <;> rfl

namespace Compiler

/-- The statements of a record's relations. -/
def links (c : Compiler ρ) (r : Record ρ) : List String := (c.joins [r]).flatMap c.joinStatements

theorem error?_eq_findSome? (c : Compiler ρ) (records : List (Record ρ)) :
    c.error? records = records.findSome? fun r => c.error? [r] := by
  induction records with
  | nil => rfl
  | cons r rs ih =>
    rw [← List.singleton_append, error?_append, ih, List.findSome?_append, List.findSome?_singleton]

theorem joins_eq_flatMap (c : Compiler ρ) (records : List (Record ρ)) :
    c.joins records = records.flatMap fun r => c.joins [r] := by
  induction records with
  | nil => rfl
  | cons r rs ih =>
    rw [← List.singleton_append, joins_append, ih]
    rfl

theorem schema_eq (c : Compiler ρ) (records : List (Record ρ)) :
    c.schema records = records.map c.table ++ records.flatMap c.links := by
  rw [schema, joins_eq_flatMap, List.flatMap_assoc]
  rfl

/-- A record by itself: its error, or its table and the statements of its relations. -/
theorem result_compile_singleton (c : Compiler ρ) (r : Record ρ) :
    (c.compile [r]).result = unlessError (c.error? [r]) (c.table r :: c.links r) := by
  rw [result_compile, schema_eq]
  simp

theorem merged_map (c : Compiler ρ) (records : List (Record ρ)) :
    merged (records.map fun r => c.table r :: c.links r) = c.schema records := by
  rw [schema_eq, merged, List.filterMap_map, List.flatMap_map]
  congr 1
  exact congrFun (List.filterMap_eq_map (f := c.table)) records

/-- A pass over a batch does what the passes over its records do. -/
theorem result_compile_eq_mapM (c : Compiler ρ) (records : List (Record ρ)) :
    (c.compile records).result =
      (records.mapM fun r => (c.compile [r]).result).map merged := by
  simp only [result_compile_singleton]
  rw [mapM_unlessError, ← error?_eq_findSome?, result_compile, ← merged_map]
  cases c.error? records <;> rfl

/-- Passes that agree on single records agree on batches of them. -/
theorem result_compile_congr {c c' : Compiler ρ} {records records' : List (Record ρ)}
    (h : List.Forall₂ (fun r r' => (c'.compile [r']).result = (c.compile [r]).result)
      records records') : (c'.compile records').result = (c.compile records).result := by
  have hmapM : (records'.mapM fun r => (c'.compile [r]).result) =
      records.mapM fun r => (c.compile [r]).result := by
    induction h with
    | nil => rw [List.mapM_nil, List.mapM_nil]
    | cons hr _ ih => rw [List.mapM_cons, List.mapM_cons, hr, ih]
  rw [result_compile_eq_mapM, result_compile_eq_mapM, hmapM]

theorem error?_eq_none_iff_forall {c : Compiler ρ} {records : List (Record ρ)} :
    c.error? records = none ↔ ∀ r ∈ records, c.error? [r] = none := by
  rw [error?_eq_findSome?, List.findSome?_eq_none_iff]

/-- A batch has the error of its first record with one. -/
theorem error?_append_cons {c : Compiler ρ} {before : List (Record ρ)} {r : Record ρ}
    {e : SchemaError} (hbefore : c.error? before = none) (hr : c.error? [r] = some e)
    (after : List (Record ρ)) : c.error? (before ++ r :: after) = some e := by
  rw [← List.singleton_append, error?_append, error?_append, hbefore, hr, Option.none_or,
    Option.some_or]

/-- A batch with an error has a first record with one. -/
theorem exists_split_of_error?_eq_some {c : Compiler ρ} {records : List (Record ρ)}
    {e : SchemaError} (h : c.error? records = some e) :
    ∃ before r after, records = before ++ r :: after ∧ c.error? before = none ∧
      c.error? [r] = some e := by
  rw [error?_eq_findSome?, List.findSome?_eq_some_iff] at h
  obtain ⟨before, r, after, hsplit, hr, hbefore⟩ := h
  exact ⟨before, r, after, hsplit, error?_eq_none_iff_forall.2 hbefore, hr⟩

theorem result_compile_eq_ok_iff {c : Compiler ρ} {records : List (Record ρ)}
    {out : List String} :
    (c.compile records).result = .ok out ↔ c.error? records = none ∧ c.schema records = out := by
  rw [result_compile, unlessError_eq_ok_iff]

/-- A batch succeeds if each of its records does by itself. -/
theorem exists_result_compile_eq_ok_iff {c : Compiler ρ} {records : List (Record ρ)} :
    (∃ out, (c.compile records).result = .ok out) ↔ ∀ r ∈ records, c.error? [r] = none := by
  simp only [result_compile_eq_ok_iff, exists_and_left, exists_eq', and_true]
  exact error?_eq_none_iff_forall

theorem take_schema (c : Compiler ρ) (records : List (Record ρ)) :
    (c.schema records).take records.length = records.map c.table := by
  rw [schema_eq, List.take_left' (List.length_map _)]

theorem drop_schema (c : Compiler ρ) (records : List (Record ρ)) :
    (c.schema records).drop records.length = records.flatMap c.links := by
  rw [schema_eq, List.drop_left' (List.length_map _)]

/-- A record's table stands where the record does. -/
theorem getElem?_schema_table (c : Compiler ρ) {records : List (Record ρ)} {i : Nat} {r : Record ρ}
    (h : records[i]? = some r) : (c.schema records)[i]? = some (c.table r) := by
  obtain ⟨hlt, -⟩ := List.getElem?_eq_some_iff.1 h
  rw [schema, List.getElem?_append_left (by rwa [List.length_map]), List.getElem?_map, h]
  rfl

/-- Every listing of a record adds each of its statements once. -/
theorem count_schema_insert (c : Compiler ρ) (before after : List (Record ρ)) (r : Record ρ)
    (s : String) :
    (c.schema (before ++ r :: after)).count s =
      (c.schema (before ++ after)).count s + (c.schema [r]).count s := by
  simp only [schema_eq, List.map_append, List.flatMap_append, List.map_cons, List.flatMap_cons,
    List.map_nil, List.flatMap_nil, List.count_append, List.count_cons, List.count_nil,
    List.append_nil]
  omega

theorem result_compile_singleton_eq_ok_iff {c : Compiler ρ} {r : Record ρ} {out : List String} :
    (c.compile [r]).result = .ok out ↔ c.error? [r] = none ∧ c.table r :: c.links r = out := by
  rw [result_compile_singleton, unlessError_eq_ok_iff]

theorem result_compile_of_ok {c : Compiler ρ} {records : List (Record ρ)}
    {output : Record ρ → List String}
    (h : ∀ r ∈ records, (c.compile [r]).result = .ok (output r)) :
    (c.compile records).result = .ok (merged (records.map output)) := by
  have hr : ∀ r ∈ records, c.error? [r] = none ∧ c.table r :: c.links r = output r :=
    fun r hr => result_compile_singleton_eq_ok_iff.1 (h r hr)
  have hmap : (records.map fun r => c.table r :: c.links r) = records.map output :=
    List.map_congr_left fun r hmem => (hr r hmem).2
  rw [result_compile_eq_ok_iff, ← merged_map, hmap]
  exact ⟨error?_eq_none_iff_forall.2 fun r hmem => (hr r hmem).1, rfl⟩

theorem result_compile_of_error {c : Compiler ρ} {before after : List (Record ρ)} {r : Record ρ}
    {e : SchemaError} (hbefore : ∀ r' ∈ before, ∃ out, (c.compile [r']).result = .ok out)
    (hr : (c.compile [r]).result = .error e) :
    (c.compile (before ++ r :: after)).result = .error e := by
  have hnone : c.error? before = none := by
    rw [error?_eq_none_iff_forall]
    intro r' hr'
    obtain ⟨out, hout⟩ := hbefore r' hr'
    exact (result_compile_eq_ok_iff.1 hout).1
  rw [result_compile, unlessError_eq_error_iff] at hr ⊢
  exact error?_append_cons hnone hr after

/-- A batch is compiled record by record. If each of its records succeeds by itself, the pass puts
out the first statements of these passes and then all others; else it fails with the first of their
errors. The order of the batch does not change what is put out but for its order, and a record that
is listed twice puts out each of its statements twice. -/
theorem compile_record_by_record (c : Compiler ρ) (records : List (Record ρ)) :
    -- all records succeed by themselves
    (∀ output : Record ρ → List String,
      (∀ r ∈ records, (c.compile [r]).result = .ok (output r)) →
        (∀ r ∈ records, output r ≠ []) ∧
        (c.compile records).result = .ok (records.filterMap (fun r => (output r).head?) ++
          records.flatMap fun r => (output r).tail)) ∧
    -- one is the first to fail
    (∀ (before : List (Record ρ)) (r : Record ρ) (after : List (Record ρ)) (e : SchemaError),
      records = before ++ r :: after →
      (∀ r' ∈ before, ∃ out, (c.compile [r']).result = .ok out) →
      (c.compile [r]).result = .error e → (c.compile records).result = .error e) ∧
    -- the order of the batch
    (∀ records' : List (Record ρ), records.Perm records' →
      ((∃ out, (c.compile records).result = .ok out) ↔
        ∃ out', (c.compile records').result = .ok out') ∧
      ∀ out out', (c.compile records).result = .ok out → (c.compile records').result = .ok out' →
        (out.take records.length).Perm (out'.take records.length) ∧
        (out.drop records.length).Perm (out'.drop records.length)) ∧
    -- a record that is listed twice
    (∀ (before : List (Record ρ)) (r : Record ρ) (mid after : List (Record ρ))
      (out : List String), records = before ++ r :: (mid ++ r :: after) →
      (c.compile records).result = .ok out →
      ∃ once others, (c.compile [r]).result = .ok once ∧
        (c.compile (before ++ (mid ++ after))).result = .ok others ∧
        ∀ s, out.count s = 2 * once.count s + others.count s) := by
  refine ⟨?_, ?_, ?_, ?_⟩
  · intro output h
    refine ⟨?_, ?_⟩
    · intro r hr
      obtain ⟨-, hout⟩ := result_compile_singleton_eq_ok_iff.1 (h r hr)
      rw [← hout]
      exact List.cons_ne_nil _ _
    · rw [result_compile_of_ok h, merged, List.filterMap_map, List.flatMap_map]
      rfl
  · rintro before r after e rfl hbefore hr
    exact result_compile_of_error hbefore hr
  · intro records' hperm
    refine ⟨?_, ?_⟩
    · rw [exists_result_compile_eq_ok_iff, exists_result_compile_eq_ok_iff]
      simp only [hperm.mem_iff]
    · intro out out' h h'
      rw [result_compile_eq_ok_iff] at h h'
      obtain ⟨-, rfl⟩ := h
      obtain ⟨-, rfl⟩ := h'
      rw [take_schema, drop_schema, hperm.length_eq, take_schema, drop_schema]
      exact ⟨hperm.map _, hperm.flatMap_right _⟩
  · rintro before r mid after out rfl hout
    simp only [result_compile_eq_ok_iff] at hout ⊢
    obtain ⟨he, rfl⟩ := hout
    rw [error?_eq_none_iff_forall] at he
    refine ⟨_, _, ⟨he r (by simp), rfl⟩, ⟨?_, rfl⟩, fun s => ?_⟩
    · rw [error?_eq_none_iff_forall]
      intro r' hr'
      apply he r'
      simp only [List.mem_append, List.mem_cons] at hr' ⊢
      rcases hr' with hr' | hr' | hr' <;> simp [hr']
    · rw [count_schema_insert, ← List.append_assoc, count_schema_insert, List.append_assoc]
      omega

/-- The library's batch puts out what its records do, in either order, and an author's statements
twice. With a resolver that knows no names a book succeeds and an editor does not, so a pass over a
book, an editor and an author fails with the editor. -/
theorem compile_record_by_record_shelf :
    (∃ out out', (Shelf.compiler.compile Shelf.batch).result = .ok out ∧
      (Shelf.compiler.compile Shelf.batch.reverse).result = .ok out' ∧
      out = Shelf.batch.filterMap (fun r => (Shelf.compiler.schema [r]).head?) ++
        Shelf.batch.flatMap (fun r => (Shelf.compiler.schema [r]).tail) ∧
      (out.take 4).Perm (out'.take 4) ∧ (out.drop 4).Perm (out'.drop 4) ∧
      ∃ once others, (Shelf.compiler.compile [Shelf.catalog .author]).result = .ok once ∧
        (Shelf.compiler.compile [Shelf.catalog .book, Shelf.catalog .editor]).result = .ok others ∧
        ∀ s, out.count s = 2 * once.count s + others.count s) ∧
    ({ Shelf.compiler with resolve := fun _ => none }.compile
        [Shelf.catalog .book, Shelf.catalog .editor, Shelf.catalog .author]).result =
      .error (.unknownElement "library::Editor" "books" "library::Book") := by
  refine ⟨?_, ?_⟩
  · have h := compile_record_by_record Shelf.compiler Shelf.batch
    have hr : ∀ r ∈ Shelf.batch,
        (Shelf.compiler.compile [r]).result = .ok (Shelf.compiler.schema [r]) := by
      have he : ∀ r ∈ Shelf.batch, Shelf.compiler.error? [r] = none :=
        error?_eq_none_iff_forall.1 (by decide)
      exact fun r h => result_compile_eq_ok_iff.2 ⟨he r h, rfl⟩
    obtain ⟨-, hout⟩ := h.1 _ hr
    obtain ⟨hiff, hperm⟩ := h.2.2.1 Shelf.batch.reverse Shelf.batch.reverse_perm.symm
    obtain ⟨out', hout'⟩ := hiff.1 ⟨_, hout⟩
    obtain ⟨htake, hdrop⟩ := hperm _ out' hout hout'
    exact ⟨_, out', hout, hout', rfl, htake, hdrop,
      h.2.2.2 [] (Shelf.catalog .author) [Shelf.catalog .book] [Shelf.catalog .editor] _ rfl hout⟩
  · have h := compile_record_by_record { Shelf.compiler with resolve := fun _ => none }
      [Shelf.catalog .book, Shelf.catalog .editor, Shelf.catalog .author]
    refine h.2.1 [Shelf.catalog .book] (Shelf.catalog .editor) [Shelf.catalog .author] _ rfl ?_ ?_
    · rintro r' hr'
      rw [exists_result_compile_eq_ok_iff]
      revert r'
      decide
    · rw [result_compile, unlessError_eq_error_iff]
      decide

end Compiler

end RecordSchema
