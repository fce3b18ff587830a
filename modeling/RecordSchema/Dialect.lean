import RecordSchema.SqlType
import RecordSchema.Statement

/-!
# Dialects

The two databases a schema can be written for. A dialect has a name, a spelling for each semantic
type and its templates. SQLite has no index clause inside `CREATE TABLE`, so there every join table
is followed by a statement of its own for the index; MySQL declares the index inside the join table.
-/

namespace RecordSchema

/-- The database a schema is written for. -/
inductive Dialect where
  | sqlite
  | mysql
deriving DecidableEq, Repr

namespace Dialect

instance : Inhabited Dialect := ⟨sqlite⟩

/-- The name of a dialect in messages and settings. -/
def name : Dialect → String
  | sqlite => "sqlite"
  | mysql => "mysql"

/-- The dialect of a given name. -/
def ofName? (s : String) : Option Dialect := [sqlite, mysql].find? fun d => d.name == s

def isMysql (d : Dialect) : Bool := d == mysql

/-- How a dialect spells a semantic type. -/
def typeName : Dialect → SqlType → String
  | sqlite, t => t.sqlName
  | mysql, .boolean => "TINYINT(1)"
  | mysql, .smallInt => "SMALLINT"
  | mysql, .integer => "INT"
  | mysql, .bigInt => "BIGINT"
  | mysql, .real => "FLOAT"
  | mysql, .double => "DOUBLE"
  | mysql, .text => "TEXT"
  | mysql, .timestamp => "DATETIME"

/-- The statements of a dialect, with placeholders. -/
def templates : Dialect → Templates
  | sqlite =>
    { table := "CREATE TABLE \x7btable\x7d (\n" ++
        "record_id varchar(255) primary key,\n" ++
        "record_created long,\n" ++
        "record_updated long,\n" ++
        "record_version long\x7bcolumns\x7d\n" ++
        ")"
      joinTable := "CREATE TABLE \x7bjoin_table\x7d (\n" ++
        "join_id integer primary key autoincrement,\n" ++
        "parent_id varchar(255) NOT NULL,\n" ++
        "child_id varchar(255) NOT NULL,\n" ++
        "FOREIGN KEY (parent_id) REFERENCES \x7bowner_table\x7d(record_id) ON DELETE CASCADE,\n" ++
        "FOREIGN KEY (child_id) REFERENCES \x7bchild_table\x7d(record_id) ON DELETE CASCADE\n" ++
        ")"
      joinIndex := some "CREATE INDEX \x7bjoin_table\x7d_idx ON \x7bjoin_table\x7d(parent_id)" }
  | mysql =>
    { table := "CREATE TABLE \x7btable\x7d (\n" ++
        "record_id VARCHAR(255) PRIMARY KEY,\n" ++
        "record_created BIGINT,\n" ++
        "record_updated BIGINT,\n" ++
        "record_version BIGINT\x7bcolumns\x7d\n" ++
        ")"
      joinTable := "CREATE TABLE \x7bjoin_table\x7d (\n" ++
        "join_id INT PRIMARY KEY AUTO_INCREMENT,\n" ++
        "parent_id VARCHAR(255) NOT NULL,\n" ++
        "child_id VARCHAR(255) NOT NULL,\n" ++
        "INDEX \x7bjoin_table\x7d_idx (parent_id),\n" ++
        "FOREIGN KEY (parent_id) REFERENCES \x7bowner_table\x7d(record_id) ON DELETE CASCADE,\n" ++
        "FOREIGN KEY (child_id) REFERENCES \x7bchild_table\x7d(record_id) ON DELETE CASCADE\n" ++
        ")"
      joinIndex := none }

theorem ofName?_name (d : Dialect) : ofName? d.name = some d := by cases d <;> decide

theorem name_injective {d e : Dialect} (h : d.name = e.name) : d = e := by
  have := ofName?_name d
  rw [h, ofName?_name] at this
  exact (Option.some.inj this).symm

/-- Only a dialect without an inline index clause has a template for the index. -/
theorem joinIndex_isSome_iff (d : Dialect) : d.templates.joinIndex.isSome ↔ d.isMysql = false := by
  cases d
  · exact ⟨fun _ => rfl, fun _ => rfl⟩
  · exact ⟨nofun, nofun⟩

end Dialect

end RecordSchema
