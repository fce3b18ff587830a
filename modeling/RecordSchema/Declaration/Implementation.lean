import RecordSchema.Declaration.Definition
import RecordSchema.Text.Quoted

/-!
# Implementations

The code that makes a struct a record: one constant that describes the record, and one that says
that a field of the struct's type is a relation to it. A field is described by an expression that
starts from its name and type and goes through one method call for each thing that was said about
it; `Implementation.ofDefinition` builds these expressions, `Implementation.trees` spells them.
-/

namespace RecordSchema.Declaration

/-- An expression for the type of a field. -/
inductive TypeExpr where
  /-- What the declared type stands for. -/
  | declared (type : List Tree)
  /-- A type that nothing is known about, by its name. -/
  | foreign (name : String)

/-- An expression that describes a field. -/
inductive FieldExpr where
  | new (name : String) (type : TypeExpr)
  | column (field : FieldExpr) (name : String)
  | ignore (field : FieldExpr)
  | listOf (field : FieldExpr) (element : String)
  | sqlType (field : FieldExpr) (text : String)

/-- An expression for the name of a record. -/
inductive NameExpr where
  | given (name : String)
  /-- A name in the module where the struct is declared. -/
  | inModule (name : String)

/-- The code that makes a struct a record. -/
structure Implementation where
  /-- The struct. -/
  struct : String
  name : NameExpr
  table : Option String
  fields : List FieldExpr
  parent : Option (List Tree)

/-- An identifier without the mark of a raw one. -/
def plainName (word : String) : String :=
  match word.toList with
  | 'r' :: '#' :: cs => String.ofList cs
  | _ => word

namespace FieldExpr

/-- The expression for the type of a field. The name of a type that nothing is known about is its
text without spaces. -/
def typeOf (d : FieldDefinition) : TypeExpr :=
  if d.ignored || d.foreign then
    .foreign (String.ofList ((Tree.listText d.type).toList.filter (· != ' ')))
  else .declared d.type

/-- Applies a method if there is something to give to it. -/
def apply (method : FieldExpr → String → FieldExpr) (value : Option String) (e : FieldExpr) :
    FieldExpr :=
  match value with
  | some s => method e s
  | none => e

/-- The expression for a field. -/
def ofDefinition (d : FieldDefinition) : FieldExpr :=
  let e := apply column d.column (new (plainName d.name) (typeOf d))
  let e := if d.ignored then ignore e else e
  apply sqlType d.sqlType (apply listOf d.list e)

end FieldExpr

namespace Implementation

/-- The code for a definition. -/
def ofDefinition (d : Definition) : Implementation where
  struct := d.name
  name := match d.typeName with
    | some n => .given n
    | none => .inModule (plainName d.name)
  table := d.table
  fields := d.fields.map FieldExpr.ofDefinition
  parent := d.parent

/-! ## Spelling -/

/-- An operator of the code. -/
def op (s : String) : List Tree := Tree.operator s.toList

/-- Words of the code, one after another. -/
def words (ws : List String) : List Tree := ws.map .word

/-- Names joined by `::`. -/
def path : List String → List Tree
  | [] => []
  | [w] => [.word w]
  | w :: ws => .word w :: op "::" ++ path ws

/-- A name of the library that the code calls. -/
def library (names : List String) : List Tree := path ("sqlrecord_core" :: names)

/-- A string literal. -/
def string (s : String) : Tree := .literal (Text.literal s)

/-- Something in parentheses. -/
def call (arguments : List Tree) : List Tree := [.paren arguments]

/-- An optional value. -/
def option : Option (List Tree) → List Tree
  | none => [.word "None"]
  | some value => .word "Some" :: call value

/-- Lists with commas between them. -/
def commaList : List (List Tree) → List Tree
  | [] => []
  | [x] => x
  | x :: xs => x ++ op "," ++ commaList xs

/-- What a type provides through a trait of the library. -/
def provided (type : List Tree) (trait item : String) : List Tree :=
  op "<" ++ type ++ [.word "as"] ++ library [trait] ++ op ">" ++ op "::" ++ [.word item]

/-- A reference to the record of a type. -/
def reference (arguments : List Tree) : List Tree := library ["RecordRef", "new"] ++ call arguments

def typeTrees : TypeExpr → List Tree
  | .declared type => provided type "FieldKind" "FIELD_TYPE"
  | .foreign name => library ["FieldType", "Opaque"] ++ call [string name]

/-- A method call on an expression. -/
def method (receiver : List Tree) (name : String) (arguments : List Tree) : List Tree :=
  receiver ++ op "." ++ [.word name] ++ call arguments

def fieldTrees : FieldExpr → List Tree
  | .new name type =>
    library ["FieldInfo", "new"] ++ call (string name :: op "," ++ typeTrees type)
  | .column e name => method (fieldTrees e) "column" [string name]
  | .ignore e => method (fieldTrees e) "ignore" []
  | .listOf e element => method (fieldTrees e) "list_of" [string element]
  | .sqlType e text => method (fieldTrees e) "sql_type_override" [string text]

def nameTrees : NameExpr → List Tree
  | .given name => [string name]
  | .inModule name =>
    .word "concat" :: op "!" ++
      call (.word "module_path" :: op "!" ++ call [] ++ op "," ++ [string "::"] ++ op "," ++
        [string name])

/-- A member of a struct's value. -/
def member (name : String) (value : List Tree) : List Tree :=
  .word name :: op ":" ++ value ++ op ","

/-- The value that describes the record. -/
def info (i : Implementation) : List Tree :=
  library ["RecordInfo"] ++
    [.brace
      (member "name" (nameTrees i.name) ++
        member "table_name" (option (i.table.map fun t => [string t])) ++
        member "fields" (op "&" ++ [.bracket (commaList (i.fields.map fieldTrees))]) ++
        member "parent" (option (i.parent.map fun p =>
          reference (provided p "Record" "record_info" ++ op ","))))]

/-- The block that makes a trait of the library hold for the struct. -/
def block (i : Implementation) (trait : String) (body : List Tree) : List Tree :=
  .word "impl" :: library [trait] ++ words ["for", i.struct] ++ [.brace body]

/-- The description of the record. -/
def recordBlock (i : Implementation) : List Tree :=
  i.block "Record"
    (words ["fn", "record_info"] ++ call [] ++ op "->" ++ op "&" ++ Tree.lifetime "static" ++
      library ["RecordInfo"] ++
      [.brace
        (words ["static", "INFO"] ++ op ":" ++ library ["RecordInfo"] ++ op "=" ++ i.info ++
          op ";" ++ op "&" ++ [.word "INFO"])])

/-- What a field of the struct's type is. -/
def kindBlock (i : Implementation) : List Tree :=
  i.block "FieldKind"
    (words ["const", "FIELD_TYPE"] ++ op ":" ++ library ["FieldType"] ++ op "=" ++
      library ["FieldType", "Record"] ++
      call (reference (provided [.word i.struct] "Record" "record_info") ++ op ",") ++ op ";")

/-- The code as token trees. -/
def trees (i : Implementation) : List Tree := i.recordBlock ++ i.kindBlock

/-- The text of the code. -/
def text (i : Implementation) : String := Tree.listText i.trees

end Implementation

end RecordSchema.Declaration
