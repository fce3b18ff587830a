import RecordSchema.Proofs.Pass.Names

/-!
# What a statement is made from

A statement can be taken apart again. A newline ends each of its lines, and neither a name nor the
text of a type has one, so the clauses between the parentheses are found again whatever commas and
parentheses there are in them (`intercalate_inj`). In front of them the name of the table ends at
the first space, and in each clause the name of the column does. So two lists of columns, or two
relations, have one text only if they are the same (`Dialect.statements_tell_parts`).
-/

namespace RecordSchema

open Template (not_mem_toList_append)
open Text (Identifier)

/-! ## Texts cut at a character -/

/-- Texts are cut at their first separator in one way. -/
theorem append_cons_inj {α : Type} {c : α} {xs ys xs' ys' : List α} (hxs : c ∉ xs) (hys : c ∉ ys)
    (h : xs ++ c :: xs' = ys ++ c :: ys') : xs = ys ∧ xs' = ys' := by
  -- of two cuts in different places one has a separator in front of it
  rcases List.append_eq_append_iff.1 h with ⟨between, rfl, hrest⟩ | ⟨between, rfl, hrest⟩
  all_goals
    cases between with
    | nil => exact ⟨by simp, by simpa [eq_comm] using hrest⟩
    | cons d between =>
      obtain ⟨rfl, -⟩ := List.cons.inj hrest
      simp at hxs hys

theorem append_space_inj {s t s' t' : String} (hs : ' ' ∉ s.toList) (ht : ' ' ∉ t.toList)
    (h : s ++ " " ++ s' = t ++ " " ++ t') : s = t ∧ s' = t' := by
  simp only [← String.toList_inj, String.toList_append, List.append_assoc] at h ⊢
  exact append_cons_inj hs ht h

theorem append_newline_inj {s t s' t' : String} (hs : '\n' ∉ s.toList) (ht : '\n' ∉ t.toList)
    (h : s ++ ",\n" ++ s' = t ++ ",\n" ++ t') : s = t ∧ s' = t' := by
  have hcomma {u : String} (hu : '\n' ∉ u.toList) : '\n' ∉ u.toList ++ [','] := by
    simp [hu]
  simp only [← String.toList_inj, String.toList_append, List.append_assoc] at h ⊢
  have hlines : (s.toList ++ [',']) ++ '\n' :: s'.toList =
      (t.toList ++ [',']) ++ '\n' :: t'.toList := by
    simpa using h
  obtain ⟨hfirst, hrest⟩ := append_cons_inj (hcomma hs) (hcomma ht) hlines
  exact ⟨List.append_cancel_right hfirst, hrest⟩

/-- Clauses that have no newline are found again in their list. -/
theorem intercalate_inj {xs ys : List String} (hxs : xs ≠ []) (hys : ys ≠ [])
    (hx : ∀ s ∈ xs, '\n' ∉ s.toList) (hy : ∀ s ∈ ys, '\n' ∉ s.toList)
    (h : ",\n".intercalate xs = ",\n".intercalate ys) : xs = ys := by
  -- a clause that is the last of one list and not of the other has a newline
  have hlast {x y z : String} (hx : '\n' ∉ x.toList) (heq : x = y ++ ",\n" ++ z) : False := by
    subst heq
    simp at hx
  induction xs generalizing ys with
  | nil => exact absurd rfl hxs
  | cons x xs ih =>
    obtain ⟨y, ys, rfl⟩ := List.exists_cons_of_ne_nil hys
    obtain ⟨hx₀, hx⟩ := List.forall_mem_cons.1 hx
    obtain ⟨hy₀, hy⟩ := List.forall_mem_cons.1 hy
    cases xs with
    | nil =>
      cases ys with
      | nil => simpa using h
      | cons y' ys =>
        rw [String.intercalate_cons_cons, String.intercalate_singleton] at h
        exact (hlast hx₀ h).elim
    | cons x' xs =>
      cases ys with
      | nil =>
        rw [String.intercalate_cons_cons, String.intercalate_singleton] at h
        exact (hlast hy₀ h.symm).elim
      | cons y' ys =>
        rw [String.intercalate_cons_cons, String.intercalate_cons_cons] at h
        obtain ⟨hxy, hrest⟩ := append_newline_inj hx₀ hy₀ h
        rw [hxy, ih (List.cons_ne_nil _ _) (List.cons_ne_nil _ _) hx hy hrest]

/-! ## Names and columns -/

namespace Text

/-- Blanks end a name. -/
theorem Identifier.not_mem {s : String} (h : Identifier s) {c : Char}
    (hc : isNamePart c = false) : c ∉ s.toList := by
  intro hmem
  rw [isNamePart_iff.2 (h.namePart c hmem)] at hc
  cases hc

end Text

/-- A column that is named like an identifier and whose type is written on one line. -/
structure Column.OnOneLine (k : Column) : Prop where
  name : Identifier k.name
  type : '\n' ∉ k.sqlType.toList

instance (k : Column) : Decidable k.OnOneLine :=
  decidable_of_iff (Identifier k.name ∧ '\n' ∉ k.sqlType.toList)
    ⟨fun ⟨hn, ht⟩ => ⟨hn, ht⟩, fun h => ⟨h.name, h.type⟩⟩

namespace Column

theorem OnOneLine.newline_not_mem {k : Column} (h : k.OnOneLine) : '\n' ∉ k.sql.toList := by
  have hname : '\n' ∉ k.name.toList := h.name.not_mem (by decide)
  simp [sql, hname, h.type]

/-- A column is found again in its clause. -/
theorem sql_inj {k l : Column} (hk : Identifier k.name) (hl : Identifier l.name)
    (h : k.sql = l.sql) : k = l := by
  obtain ⟨hname, htype⟩ :=
    append_space_inj (hk.not_mem (by decide)) (hl.not_mem (by decide)) h
  cases k
  cases l
  cases hname
  cases htype
  rfl

theorem map_sql_inj {ks ls : List Column} (hk : ∀ k ∈ ks, k.OnOneLine)
    (hl : ∀ l ∈ ls, l.OnOneLine) (h : ks.map sql = ls.map sql) : ks = ls := by
  induction ks generalizing ls with
  | nil => exact (List.map_eq_nil_iff.1 h.symm).symm
  | cons k ks ih =>
    cases ls with
    | nil => cases h
    | cons l ls =>
      obtain ⟨hk₀, hk⟩ := List.forall_mem_cons.1 hk
      obtain ⟨hl₀, hl⟩ := List.forall_mem_cons.1 hl
      rw [List.map_cons, List.map_cons, List.cons.injEq] at h
      rw [sql_inj hk₀.name hl₀.name h.1, ih hk hl h.2]

end Column

/-! ## Statements -/

namespace Dialect

/-- The text of a statement that creates a table tells the name of the table and its clauses. -/
theorem create_inj {t t' : String} {xs ys : List String} (ht : Identifier t) (ht' : Identifier t')
    (hxs : xs ≠ []) (hys : ys ≠ []) (hx : ∀ s ∈ xs, '\n' ∉ s.toList)
    (hy : ∀ s ∈ ys, '\n' ∉ s.toList)
    (h : "CREATE TABLE " ++ t ++ " (\n" ++ ",\n".intercalate xs ++ "\n)" =
      "CREATE TABLE " ++ t' ++ " (\n" ++ ",\n".intercalate ys ++ "\n)") : t = t' ∧ xs = ys := by
  have hopen : " (\n" = " " ++ "(\n" := by decide
  have hcut : t ++ " " ++ ("(\n" ++ ",\n".intercalate xs) =
      t' ++ " " ++ ("(\n" ++ ",\n".intercalate ys) := by
    have h := (String.append_left_inj _).1 h
    simp only [hopen, String.append_assoc, String.append_right_inj] at h ⊢
    exact h
  obtain ⟨hname, hclauses⟩ :=
    append_space_inj (ht.not_mem (by decide)) (ht'.not_mem (by decide)) hcut
  exact ⟨hname, intercalate_inj hxs hys hx hy ((String.append_right_inj _).1 hclauses)⟩

theorem ownColumns_onOneLine (d : Dialect) : ∀ k ∈ d.ownColumns, k.OnOneLine := by
  intro k hk
  cases d <;> revert k <;> decide

theorem joinColumns_onOneLine (d : Dialect) : ∀ k ∈ d.joinColumns, k.OnOneLine := by
  intro k hk
  cases d <;> revert k <;> decide

theorem createTable_inj {t t' : String} {ks ls : List Column} (ht : Identifier t)
    (ht' : Identifier t') (hks : ks ≠ []) (hls : ls ≠ []) (hk : ∀ k ∈ ks, k.OnOneLine)
    (hl : ∀ l ∈ ls, l.OnOneLine) (h : createTable t ks = createTable t' ls) :
    t = t' ∧ ks = ls := by
  have hline {ks : List Column} (hk : ∀ k ∈ ks, k.OnOneLine) :
      ∀ s ∈ ks.map Column.sql, '\n' ∉ s.toList := by
    intro s hs
    obtain ⟨k, hmem, rfl⟩ := List.mem_map.1 hs
    exact (hk k hmem).newline_not_mem
  obtain ⟨hname, hclauses⟩ := create_inj ht ht' (mt List.map_eq_nil_iff.1 hks)
    (mt List.map_eq_nil_iff.1 hls) (hline hk) (hline hl) h
  exact ⟨hname, Column.map_sql_inj hk hl hclauses⟩

theorem foreignKey_inj {column t t' : String} (h : foreignKey column t = foreignKey column t') :
    t = t' := by
  unfold foreignKey at h
  simpa only [String.append_assoc, String.append_right_inj, String.append_left_inj] using h

/-- The clauses of a join table. -/
def joinClauses (d : Dialect) (joinTable owner child : String) : List String :=
  d.joinColumns.map Column.sql ++ (d.indexClause? joinTable).toList ++
    [foreignKey "parent_id" owner, foreignKey "child_id" child]

theorem joinClauses_newline_not_mem (d : Dialect) {j o c : String} (hj : Identifier j)
    (ho : Identifier o) (hc : Identifier c) : ∀ s ∈ d.joinClauses j o c, '\n' ∉ s.toList := by
  have hline {s : String} (hs : Identifier s) : '\n' ∉ s.toList := hs.not_mem (by decide)
  have hkey {column s : String} (hcolumn : '\n' ∉ column.toList) (hs : Identifier s) :
      '\n' ∉ (foreignKey column s).toList := by
    refine not_mem_toList_append (not_mem_toList_append ?_ (hline hs)) (by decide)
    exact not_mem_toList_append (not_mem_toList_append (by decide) hcolumn) (by decide)
  intro s hs
  rw [joinClauses, List.mem_append, List.mem_append] at hs
  rcases hs with (hs | hs) | hs
  · obtain ⟨k, hk, rfl⟩ := List.mem_map.1 hs
    exact (d.joinColumns_onOneLine k hk).newline_not_mem
  · cases d with
    | sqlite => cases hs
    | mysql =>
      obtain rfl := List.mem_singleton.1 hs
      exact not_mem_toList_append
        (not_mem_toList_append (by decide) (not_mem_toList_append (hline hj) (by decide)))
        (by decide)
  · simp only [List.mem_cons, List.not_mem_nil, or_false] at hs
    rcases hs with rfl | rfl
    · exact hkey (by decide) ho
    · exact hkey (by decide) hc

theorem createJoinTable_inj (d : Dialect) {j o c j' o' c' : String} (hj : Identifier j)
    (ho : Identifier o) (hc : Identifier c) (hj' : Identifier j') (ho' : Identifier o')
    (hc' : Identifier c') (h : d.createJoinTable j o c = d.createJoinTable j' o' c') :
    j = j' ∧ o = o' ∧ c = c' := by
  have hne {j o c : String} : d.joinClauses j o c ≠ [] := by simp [joinClauses]
  obtain ⟨rfl, hclauses⟩ := create_inj hj hj' hne hne (d.joinClauses_newline_not_mem hj ho hc)
    (d.joinClauses_newline_not_mem hj' ho' hc') h
  -- the columns and the index clause are the same, and the two references are left
  have hkeys := List.append_cancel_left hclauses
  rw [List.cons.injEq, List.cons.injEq] at hkeys
  exact ⟨rfl, foreignKey_inj hkeys.1, foreignKey_inj hkeys.2.1⟩

/-- Statements tell what they are made from. The text of a table tells its name and its columns,
whatever their types are so long as they stand on one line; the text of a relation tells the names
of its join table and of the two tables that this refers to. -/
theorem statements_tell_parts (d : Dialect) :
    (∀ {t t' : String} {columns columns' : List Column}, Identifier t → Identifier t' →
      (∀ k ∈ columns, k.OnOneLine) → (∀ k ∈ columns', k.OnOneLine) →
      (d.templates.tableStatement t columns = d.templates.tableStatement t' columns' ↔
        t = t' ∧ columns = columns')) ∧
    (∀ {j o c j' o' c' : String}, Identifier j → Identifier o → Identifier c →
      Identifier j' → Identifier o' → Identifier c' →
      (d.templates.joinStatements j o c = d.templates.joinStatements j' o' c' ↔
        j = j' ∧ o = o' ∧ c = c')) := by
  refine ⟨?_, ?_⟩
  · intro t t' columns columns' ht ht' hk hk'
    refine ⟨fun h => ?_, fun ⟨ht, hc⟩ => by rw [ht, hc]⟩
    rw [tableStatement_eq_createTable, tableStatement_eq_createTable] at h
    have hne (ks : List Column) : d.ownColumns ++ ks ≠ [] := by
      cases d <;> exact nofun
    have hlines {ks : List Column} (hk : ∀ k ∈ ks, k.OnOneLine) :
        ∀ k ∈ d.ownColumns ++ ks, k.OnOneLine := by
      intro k hmem
      exact (List.mem_append.1 hmem).elim (d.ownColumns_onOneLine k) (hk k)
    obtain ⟨hname, hcolumns⟩ :=
      createTable_inj ht ht' (hne _) (hne _) (hlines hk) (hlines hk') h
    exact ⟨hname, List.append_cancel_left hcolumns⟩
  · intro j o c j' o' c' hj ho hc hj' ho' hc'
    refine ⟨fun h => ?_, fun ⟨hj, ho, hc⟩ => by rw [hj, ho, hc]⟩
    rw [joinStatements_eq, joinStatements_eq, joinTableText_eq_createJoinTable,
      joinTableText_eq_createJoinTable] at h
    exact d.createJoinTable_inj hj ho hc hj' ho' hc' (List.cons.inj h).1

/-- A decimal type has a comma and parentheses, and a type may be empty: its column is not two
columns, though the text between the parentheses reads like two. -/
theorem statements_tell_parts_decimal :
    let one : List Column := [⟨"price", "DECIMAL(10, 2), note "⟩]
    let two : List Column := [⟨"price", "DECIMAL(10, 2)"⟩, ⟨"note", ""⟩]
    (Identifier "Book" ∧ (∀ k ∈ one, k.OnOneLine) ∧ ∀ k ∈ two, k.OnOneLine) ∧
    mysql.templates.tableStatement "Book" one ≠ mysql.templates.tableStatement "Book" two ∧
    sqlite.templates.joinStatements "Author_Book_books" "Author" "Book" ≠
      sqlite.templates.joinStatements "Author_Book_books" "Book" "Author" := by
  intro one two
  have hbook : Identifier "Book" := by decide
  have hone : ∀ k ∈ one, k.OnOneLine := by decide
  have htwo : ∀ k ∈ two, k.OnOneLine := by decide
  refine ⟨⟨hbook, hone, htwo⟩, ?_, ?_⟩
  · intro h
    have hcolumns := (((statements_tell_parts mysql).1 hbook hbook hone htwo).1 h).2
    exact absurd hcolumns (by decide)
  · intro h
    have hauthor : Identifier "Author" := by decide
    have hjoin : Identifier "Author_Book_books" := by decide
    have howner := (((statements_tell_parts sqlite).2 hjoin hauthor hbook hjoin hbook
      hauthor).1 h).2.1
    exact absurd howner (by decide)

end Dialect

end RecordSchema
