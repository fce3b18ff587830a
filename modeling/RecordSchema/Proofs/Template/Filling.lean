import RecordSchema.Dialect

/-!
# What a template fills to

`Fills` reads a template from left to right without offsets: text is copied, a placeholder with a
bound key is replaced, one with an unbound key is copied, and an opening brace that no closing brace
follows is text like all after it. A value is put out behind what has been read and in front of what
has not, so nothing in it is ever read.

Each round of the scan on offsets is one step of this reading (`Fills.scan_eq`), and every text has
such a reading (`exists_fills`); so a scan always ends with the one text that its template fills to
(`render_eq_iff_fills`). The statements of the two dialects then hold the names and columns they are
made from as they are, whatever braces there are in them.
-/

namespace RecordSchema

namespace Template

/-- The value of the first binding of a key. -/
def FirstBound (vars : List (String × String)) (key value : String) : Prop :=
  ∃ before after, vars = before ++ (key, value) :: after ∧ ∀ v ∈ before, v.1 ≠ key

/-- A template fills to a text under some bindings. -/
inductive Fills (vars : List (String × String)) : String → String → Prop
  | text {s : String} (h : '{' ∉ s.toList) : Fills vars s s
  | unclosed {before after : String} (hb : '{' ∉ before.toList) (ha : '}' ∉ after.toList) :
    Fills vars (before ++ "\x7b" ++ after) (before ++ "\x7b" ++ after)
  | bound {before key rest value filled : String} (hb : '{' ∉ before.toList)
    (hk : '}' ∉ key.toList) (hv : FirstBound vars key value) (h : Fills vars rest filled) :
    Fills vars (before ++ "\x7b" ++ (key ++ "\x7d" ++ rest)) (before ++ value ++ filled)
  | unbound {before key rest filled : String} (hb : '{' ∉ before.toList)
    (hk : '}' ∉ key.toList) (hv : ∀ v ∈ vars, v.1 ≠ key) (h : Fills vars rest filled) :
    Fills vars (before ++ "\x7b" ++ (key ++ "\x7d" ++ rest))
      (before ++ ("\x7b" ++ key ++ "\x7d") ++ filled)

/-- A template has a placeholder with a key. -/
inductive HasKey : String → String → Prop
  | here {before key rest : String} (hb : '{' ∉ before.toList) (hk : '}' ∉ key.toList) :
    HasKey (before ++ "\x7b" ++ (key ++ "\x7d" ++ rest)) key
  | later {before key rest key' : String} (hb : '{' ∉ before.toList) (hk : '}' ∉ key.toList)
    (h : HasKey rest key') : HasKey (before ++ "\x7b" ++ (key ++ "\x7d" ++ rest)) key'

section

variable {vars : List (String × String)}

theorem lookup_eq_some_iff {key value : String} :
    vars.lookup key = some value ↔ FirstBound vars key value := by
  rw [List.lookup_eq_some_iff]
  simp only [FirstBound, bne_iff_ne, ne_eq, eq_comm (a := key)]

theorem value_of_firstBound {key value : String} (h : FirstBound vars key value) :
    Template.value vars key = value := by
  rw [Template.value, lookup_eq_some_iff.2 h, Option.getD_some]

theorem value_of_unbound {key : String} (h : ∀ v ∈ vars, v.1 ≠ key) :
    Template.value vars key = "\x7b" ++ key ++ "\x7d" := by
  have hnone : vars.lookup key = none := by
    rw [List.lookup_eq_none_iff]
    intro v hv
    exact bne_iff_ne.2 (h v hv).symm
  rw [Template.value, hnone, Option.getD_none]

/-- A placeholder is replaced by its value, bound or not. -/
theorem Fills.placeholder {before key rest filled : String} (hb : '{' ∉ before.toList)
    (hk : '}' ∉ key.toList) (h : Fills vars rest filled) :
    Fills vars (before ++ "\x7b" ++ (key ++ "\x7d" ++ rest))
      (before ++ Template.value vars key ++ filled) := by
  cases hv : vars.lookup key with
  | some value =>
    have hbound := lookup_eq_some_iff.1 hv
    rw [value_of_firstBound hbound]
    exact .bound hb hk hbound h
  | none =>
    have hunbound : ∀ v ∈ vars, v.1 ≠ key := by
      intro v hm heq
      exact bne_iff_ne.1 (List.lookup_eq_none_iff.1 hv v hm) heq.symm
    rw [value_of_unbound hunbound]
    exact .unbound hb hk hunbound h

/-- Every text has a reading. -/
theorem exists_fills (vars : List (String × String)) (s : String) :
    ∃ filled, Fills vars s filled := by
  -- by size, since what follows a placeholder is a shorter text
  induction hn : s.utf8ByteSize using Nat.strongRecOn generalizing s with
  | ind n ih =>
    cases shape s with
    | text h => exact ⟨_, .text h⟩
    | unclosed hb ha => exact ⟨_, .unclosed hb ha⟩
    | @placeholder before key rest hb hk =>
      have hlt := size_lt_of_next (@next_of_placeholder vars before key rest hb hk)
      obtain ⟨filled, h⟩ := ih rest.utf8ByteSize (hn ▸ hlt) rest rfl
      exact ⟨_, .placeholder hb hk h⟩

/-- A scan puts out what its template fills to, after what has been put out already. -/
theorem Fills.scan_eq {s filled : String} (h : Fills vars s filled) (out : String) :
    scan vars out s = some (out ++ filled) := by
  induction h generalizing out with
  | text hs => exact scan_of_none (next_of_text hs)
  | unclosed hb ha => exact scan_of_none (next_of_unclosed hb ha)
  | bound hb hk hv _ ih =>
    rw [scan_of_some (next_of_placeholder hb hk), ih, value_of_firstBound hv]
    simp only [String.append_assoc]
  | unbound hb hk hv _ ih =>
    rw [scan_of_some (next_of_placeholder hb hk), ih, value_of_unbound hv]
    simp only [String.append_assoc]

theorem scan_eq_render (template : String) (vars : List (String × String)) :
    scan vars "" template = some (render template vars) :=
  (Option.some_get _).symm

theorem Fills.render_eq {template filled : String} (h : Fills vars template filled) :
    render template vars = filled := by
  have hscan := h.scan_eq ""
  rw [scan_eq_render] at hscan
  simpa using Option.some.inj hscan

theorem render_eq_iff_fills {template filled : String} :
    render template vars = filled ↔ Fills vars template filled := by
  constructor
  · rintro rfl
    obtain ⟨filled, h⟩ := exists_fills vars template
    rw [h.render_eq]
    exact h
  · exact Fills.render_eq

/-- A template without a bound key fills to itself. -/
theorem Fills.eq_of_unbound {template filled : String} (h : Fills vars template filled)
    (hkeys : ∀ v ∈ vars, ¬ HasKey template v.1) : filled = template := by
  induction h with
  | text hs => rfl
  | unclosed hb ha => rfl
  | bound hb hk hv _ ih =>
    obtain ⟨before, after, rfl, -⟩ := hv
    exact absurd (.here hb hk) (hkeys _ (List.mem_append_right _ (List.mem_cons_self ..)))
  | unbound hb hk hv _ ih =>
    rw [ih fun v hv h => hkeys v hv (.later hb hk h)]
    simp only [String.append_assoc]

end

/-- A placeholder takes both braces. -/
theorem HasKey.mem_close {template key : String} (h : HasKey template key) :
    '}' ∈ template.toList := by
  cases h <;> simp

/-! ## Templates written as texts and keys -/

/-- Pieces of text, what stands for the key after each, and a tail. -/
def assemble (put : String → String) (pieces : List (String × String)) (tail : String) : String :=
  pieces.foldr (fun p rest => p.1 ++ put p.2 ++ rest) tail

/-- A key between its braces. -/
def braced (key : String) : String := "\x7b" ++ key ++ "\x7d"

/-- If the pieces of a template have no braces of their own, each of its keys is replaced. -/
theorem render_assemble {pieces : List (String × String)} {tail : String}
    (hp : ∀ p ∈ pieces, '{' ∉ p.1.toList ∧ '}' ∉ p.2.toList) (ht : '{' ∉ tail.toList)
    (vars : List (String × String)) :
    render (assemble braced pieces tail) vars = assemble (value vars) pieces tail := by
  apply Fills.render_eq
  induction pieces with
  | nil => exact .text ht
  | cons p pieces ih =>
    rw [List.forall_mem_cons] at hp
    have hsplit : assemble braced (p :: pieces) tail =
        p.1 ++ "\x7b" ++ (p.2 ++ "\x7d" ++ assemble braced pieces tail) := by
      simp only [assemble, braced, List.foldr_cons, String.append_assoc]
    rw [hsplit]
    exact .placeholder hp.1.1 hp.1.2 (ih hp.2)

/-- A literal is looked through as the list of characters it stands for. -/
theorem not_mem_toList_ofList {c : Char} {l : List Char} (h : c ∉ l) :
    c ∉ (String.ofList l).toList := by
  rwa [String.toList_ofList]

theorem not_mem_toList_append {c : Char} {s t : String} (hs : c ∉ s.toList) (ht : c ∉ t.toList) :
    c ∉ (s ++ t).toList := by
  rw [String.toList_append, List.mem_append]
  exact fun h => h.elim hs ht

end Template

/-! ## The statements of the dialects -/

namespace Dialect

open Template

/-- What stands between the name and the columns of a table. -/
def tableHead : Dialect → String
  | sqlite => " (\nrecord_id varchar(255) primary key,\n" ++
      "record_created long,\nrecord_updated long,\nrecord_version long"
  | mysql => " (\nrecord_id VARCHAR(255) PRIMARY KEY,\n" ++
      "record_created BIGINT,\nrecord_updated BIGINT,\nrecord_version BIGINT"

/-- The statement that creates a table, with its name and its columns in place. -/
def tableText (d : Dialect) (table columns : String) : String :=
  "CREATE TABLE " ++ table ++ d.tableHead ++ columns ++ "\n)"

/-- The statement that creates the table of a relation, with all names in place. -/
def joinTableText (joinTable owner child : String) : Dialect → String
  | sqlite => "CREATE TABLE " ++ joinTable ++
      " (\njoin_id integer primary key autoincrement,\nparent_id varchar(255) NOT NULL,\n" ++
      "child_id varchar(255) NOT NULL,\nFOREIGN KEY (parent_id) REFERENCES " ++ owner ++
      "(record_id) ON DELETE CASCADE,\nFOREIGN KEY (child_id) REFERENCES " ++ child ++
      "(record_id) ON DELETE CASCADE\n)"
  | mysql => "CREATE TABLE " ++ joinTable ++
      " (\njoin_id INT PRIMARY KEY AUTO_INCREMENT,\nparent_id VARCHAR(255) NOT NULL,\n" ++
      "child_id VARCHAR(255) NOT NULL,\nINDEX " ++ joinTable ++
      "_idx (parent_id),\nFOREIGN KEY (parent_id) REFERENCES " ++ owner ++
      "(record_id) ON DELETE CASCADE,\nFOREIGN KEY (child_id) REFERENCES " ++ child ++
      "(record_id) ON DELETE CASCADE\n)"

/-- The statement that creates the index of a relation's table, in the dialect that needs one. -/
def joinIndexText? (joinTable : String) : Dialect → Option String
  | sqlite => some ("CREATE INDEX " ++ joinTable ++ "_idx ON " ++ joinTable ++ "(parent_id)")
  | mysql => none

theorem value_tableBindings (table columns : String) :
    value [("table", table), ("columns", columns)] "table" = table ∧
      value [("table", table), ("columns", columns)] "columns" = columns := by
  simp [value, List.lookup_cons]

theorem value_joinBindings (joinTable owner child : String) :
    value (Templates.joinBindings joinTable owner child) "join_table" = joinTable ∧
      value (Templates.joinBindings joinTable owner child) "owner_table" = owner ∧
      value (Templates.joinBindings joinTable owner child) "child_table" = child := by
  simp [value, Templates.joinBindings, List.lookup_cons]

theorem columnClauses_eq (columns : List Column) :
    Templates.columnClauses columns =
      String.join (columns.map fun k => ",\n" ++ k.name ++ " " ++ k.sqlType) := by
  simp only [Templates.columnClauses, Column.sql, String.append_assoc]

theorem table_eq_assemble (d : Dialect) : d.templates.table =
    assemble braced [("CREATE TABLE ", "table"), (d.tableHead, "columns")] "\n)" := by
  unfold templates assemble braced tableHead
  cases d
  all_goals
    simp only [List.foldr_cons, List.foldr_nil]
    -- both sides are one text, cut in different places
    repeat rw [← String.ofList_append]
    rfl

theorem tableStatement_eq (d : Dialect) (table : String) (columns : List Column) :
    d.templates.tableStatement table columns =
      d.tableText table
        (String.join (columns.map fun k => ",\n" ++ k.name ++ " " ++ k.sqlType)) := by
  have hhead : '{' ∉ d.tableHead.toList := by
    cases d <;> refine not_mem_toList_append ?_ ?_ <;>
      exact not_mem_toList_ofList (by decide)
  rw [← columnClauses_eq, Templates.tableStatement, table_eq_assemble,
    render_assemble ?_ (not_mem_toList_ofList (by decide))]
  · obtain ⟨htable, hcolumns⟩ := value_tableBindings table (Templates.columnClauses columns)
    unfold tableText
    simp only [assemble, List.foldr_cons, List.foldr_nil, htable, hcolumns, String.append_assoc]
  · simp only [List.forall_mem_cons]
    refine ⟨⟨?_, ?_⟩, ⟨hhead, ?_⟩, nofun⟩ <;> exact not_mem_toList_ofList (by decide)

/-- The texts and keys of the template for the table of a relation, up to the text that ends it. -/
def joinTablePieces : Dialect → List (String × String)
  | sqlite =>
    [("CREATE TABLE ", "join_table"),
      (" (\njoin_id integer primary key autoincrement,\nparent_id varchar(255) NOT NULL,\n" ++
        "child_id varchar(255) NOT NULL,\nFOREIGN KEY (parent_id) REFERENCES ", "owner_table"),
      ("(record_id) ON DELETE CASCADE,\nFOREIGN KEY (child_id) REFERENCES ", "child_table")]
  | mysql =>
    [("CREATE TABLE ", "join_table"),
      (" (\njoin_id INT PRIMARY KEY AUTO_INCREMENT,\nparent_id VARCHAR(255) NOT NULL,\n" ++
        "child_id VARCHAR(255) NOT NULL,\nINDEX ", "join_table"),
      ("_idx (parent_id),\nFOREIGN KEY (parent_id) REFERENCES ", "owner_table"),
      ("(record_id) ON DELETE CASCADE,\nFOREIGN KEY (child_id) REFERENCES ", "child_table")]

set_option maxRecDepth 1000 in
theorem joinTable_eq_assemble (d : Dialect) : d.templates.joinTable =
    assemble braced d.joinTablePieces "(record_id) ON DELETE CASCADE\n)" := by
  unfold templates assemble braced joinTablePieces
  cases d
  all_goals
    simp only [List.foldr_cons, List.foldr_nil]
    repeat rw [← String.ofList_append]
    rfl

theorem brace_not_mem_joinTablePieces (d : Dialect) :
    ∀ p ∈ d.joinTablePieces, '{' ∉ p.1.toList ∧ '}' ∉ p.2.toList := by
  cases d with
  | sqlite =>
    simp only [joinTablePieces, List.forall_mem_cons]
    refine ⟨⟨?_, ?_⟩, ⟨not_mem_toList_append ?_ ?_, ?_⟩, ⟨?_, ?_⟩, nofun⟩ <;>
      exact not_mem_toList_ofList (by decide)
  | mysql =>
    simp only [joinTablePieces, List.forall_mem_cons]
    refine ⟨⟨?_, ?_⟩, ⟨not_mem_toList_append ?_ ?_, ?_⟩, ⟨?_, ?_⟩, ⟨?_, ?_⟩, nofun⟩ <;>
      exact not_mem_toList_ofList (by decide)

theorem render_joinTable (d : Dialect) (joinTable owner child : String) :
    render d.templates.joinTable (Templates.joinBindings joinTable owner child) =
      d.joinTableText joinTable owner child := by
  obtain ⟨hj, ho, hc⟩ := value_joinBindings joinTable owner child
  rw [joinTable_eq_assemble, render_assemble d.brace_not_mem_joinTablePieces
    (not_mem_toList_ofList (by decide))]
  unfold joinTableText joinTablePieces assemble
  cases d <;> simp only [List.foldr_cons, List.foldr_nil, hj, ho, hc, String.append_assoc]

theorem render_joinIndex_sqlite (joinTable owner child : String) :
    render "CREATE INDEX \x7bjoin_table\x7d_idx ON \x7bjoin_table\x7d(parent_id)"
      (Templates.joinBindings joinTable owner child) =
      "CREATE INDEX " ++ joinTable ++ "_idx ON " ++ joinTable ++ "(parent_id)" := by
  have ht : "CREATE INDEX \x7bjoin_table\x7d_idx ON \x7bjoin_table\x7d(parent_id)" =
      assemble braced [("CREATE INDEX ", "join_table"), ("_idx ON ", "join_table")]
        "(parent_id)" := by
    unfold assemble braced
    simp only [List.foldr_cons, List.foldr_nil]
    repeat rw [← String.ofList_append]
    rfl
  rw [ht, render_assemble ?_ (not_mem_toList_ofList (by decide))]
  · obtain ⟨hj, -, -⟩ := value_joinBindings joinTable owner child
    simp only [assemble, List.foldr_cons, List.foldr_nil, hj, String.append_assoc]
  · simp only [List.forall_mem_cons]
    refine ⟨⟨?_, ?_⟩, ⟨?_, ?_⟩, nofun⟩ <;>
      exact not_mem_toList_ofList (by decide)

theorem joinStatements_eq (d : Dialect) (joinTable owner child : String) :
    d.templates.joinStatements joinTable owner child =
      d.joinTableText joinTable owner child :: (d.joinIndexText? joinTable).toList := by
  cases d with
  | sqlite =>
    rw [← render_joinTable, joinIndexText?, ← render_joinIndex_sqlite joinTable owner child]
    rfl
  | mysql =>
    rw [← render_joinTable]
    rfl

end Dialect

namespace Template

/-- Filling a template never cuts it in a wrong place and ends with the one text that the template
fills to, read once from left to right. A template without a bound key stays as it is, and the
statements of both dialects hold names and columns unchanged. -/
theorem render_fills_once :
    -- every cut is at a boundary between characters, so there is a result
    (∀ (template : String) (vars : List (String × String)),
      scan vars "" template = some (render template vars)) ∧
    -- it is the text that the template fills to
    (∀ (template filled : String) (vars : List (String × String)),
      render template vars = filled ↔ Fills vars template filled) ∧
    -- nothing is replaced if no key is bound
    (∀ (template : String) (vars : List (String × String)),
      (∀ v ∈ vars, ¬ HasKey template v.1) → render template vars = template) ∧
    -- the statement that creates a table
    (∀ (d : Dialect) (table : String) (columns : List Column),
      d.templates.tableStatement table columns =
        d.tableText table
          (String.join (columns.map fun k => ",\n" ++ k.name ++ " " ++ k.sqlType))) ∧
    -- and those of a relation
    (∀ (d : Dialect) (joinTable owner child : String),
      d.templates.joinStatements joinTable owner child =
        d.joinTableText joinTable owner child :: (d.joinIndexText? joinTable).toList) := by
  refine ⟨scan_eq_render, fun template filled vars => render_eq_iff_fills, ?_,
    Dialect.tableStatement_eq, Dialect.joinStatements_eq⟩
  intro template vars hkeys
  exact (render_eq_iff_fills.1 rfl).eq_of_unbound hkeys

/-- A value that looks like a placeholder is put out as it is, though its key is bound; a template
with an opening brace only has no keys at all; and a table may be called like a placeholder. -/
theorem render_fills_once_braces :
    render "a \x7bx\x7d b" [("x", "\x7by\x7d"), ("y", "bad")] = "a \x7by\x7d b" ∧
      (∀ v ∈ [("x", "1")], ¬ HasKey "tail \x7bx" v.1) ∧
      render "tail \x7bx" [("x", "1")] = "tail \x7bx" ∧
      Dialect.mysql.templates.tableStatement "\x7bcolumns\x7d" [⟨"\x7btable\x7d", "TEXT"⟩] =
        "CREATE TABLE \x7bcolumns\x7d (\nrecord_id VARCHAR(255) PRIMARY KEY,\n" ++
        "record_created BIGINT,\nrecord_updated BIGINT,\nrecord_version BIGINT,\n" ++
        "\x7btable\x7d TEXT\n)" := by
  obtain ⟨-, hfills, hsame, htable, -⟩ := render_fills_once
  have hkeys : ∀ v ∈ [("x", "1")], ¬ HasKey "tail \x7bx" v.1 := by
    intro v _ h
    exact absurd h.mem_close (by decide)
  refine ⟨(hfills _ _ _).2 ?_, hkeys, hsame _ _ hkeys, ?_⟩
  · have hx : FirstBound [("x", "\x7by\x7d"), ("y", "bad")] "x" "\x7by\x7d" :=
      ⟨[], _, rfl, nofun⟩
    exact @Fills.bound _ "a " "x" " b" _ _ (by decide) (by decide) hx (.text (by decide))
  · rw [htable]
    unfold Dialect.tableText Dialect.tableHead
    simp only [List.map_cons, List.map_nil, String.join_cons, String.join_nil]
    repeat rw [← String.ofList_append]
    rfl

end Template

end RecordSchema
