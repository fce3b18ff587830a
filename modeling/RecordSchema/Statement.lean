import RecordSchema.Template

/-!
# Statements

The statements of a schema: one that creates the table of a record, and for each relation one that
creates its join table, followed by one that creates the join table's index where the templates have
one. What differs between databases lies in the templates; here names and columns are put into them.

A template for a table has the placeholders `table` and `columns`; templates for a join table and
its index have `join_table`, `owner_table` and `child_table`.
-/

namespace RecordSchema

/-- A column of a table: its name and the text of its type. -/
structure Column where
  name : String
  sqlType : String
deriving DecidableEq, Repr

/-- A column as it stands in a table definition. -/
def Column.sql (c : Column) : String := c.name ++ " " ++ c.sqlType

/-- The texts of statements, with placeholders. -/
structure Templates where
  table : String
  joinTable : String
  joinIndex : Option String
deriving DecidableEq

namespace Templates

/-- The clauses of a table's own columns: each starts a new line after a comma. -/
def columnClauses (columns : List Column) : String :=
  String.join (columns.map fun c => ",\n" ++ c.sql)

/-- The statement that creates a table with the given columns. -/
def tableStatement (t : Templates) (table : String) (columns : List Column) : String :=
  Template.render t.table [("table", table), ("columns", columnClauses columns)]

/-- The bindings for a join table's placeholders. -/
def joinBindings (joinTable ownerTable childTable : String) : List (String × String) :=
  [("join_table", joinTable), ("owner_table", ownerTable), ("child_table", childTable)]

/-- The statements that create a join table and, where there is a template for it, its index. -/
def joinStatements (t : Templates) (joinTable ownerTable childTable : String) : List String :=
  let vars := joinBindings joinTable ownerTable childTable
  Template.render t.joinTable vars :: (t.joinIndex.map fun i => Template.render i vars).toList

/-- How many statements a relation has. -/
def statementsPerJoin (t : Templates) : Nat := 1 + t.joinIndex.toList.length

@[simp] theorem length_joinStatements (t : Templates) (joinTable ownerTable childTable : String) :
    (t.joinStatements joinTable ownerTable childTable).length = t.statementsPerJoin := by
  cases h : t.joinIndex <;> simp [joinStatements, statementsPerJoin, h]

theorem columnClauses_nil : columnClauses [] = "" := rfl

end Templates

end RecordSchema
